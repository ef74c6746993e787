import SecretBroker.Unicode.Composition
import SecretBroker.Unicode.Flips

/-!
# Joining characters

How letters join their neighbours in cursive scripts, and the rule for the two characters without
width that make letters join or keep them apart: one may stand behind a mark that takes a vowel
away, and the one that keeps apart also between two letters that would join.
-/

namespace SecretBroker.Unicode

inductive Joining where
  | apart
  | toNext
  | toBoth
  | toPrevious
  | transparent
deriving DecidableEq, Repr

/-- Where a kind of joining begins, and the number of the kind in the order of their declaration. -/
def joiningText : String := "
300 4; 371 0; 483 4; 48B 0; 591 4; 5BE 0; 5BF 4; 5C0 0; 5C1 4; 5C3 0; 5C4 4; 5C6 0; 5C7 4; 5D0 0;
610 4; 61B 0; 620 2; 621 0; 622 3; 626 2; 627 3; 628 2; 629 3; 62A 2; 62F 3; 633 2; 640 0; 641 2;
648 3; 649 2; 64B 4; 660 0; 66E 2; 670 4; 671 3; 674 0; 679 2; 688 3; 69A 2; 6C0 3; 6C1 2; 6C3 3;
6CC 2; 6CD 3; 6CE 2; 6CF 3; 6D0 2; 6D2 3; 6D4 0; 6D5 3; 6D6 4; 6DE 0; 6DF 4; 6E5 0; 6E7 4; 6E9 0;
6EA 4; 6EE 3; 6F0 0; 6FA 2; 6FD 0; 6FF 2; 700 0; 710 3; 711 4; 712 2; 715 3; 71A 2; 71E 3; 71F 2;
728 3; 729 2; 72A 3; 72B 2; 72C 3; 72D 2; 72F 3; 730 4; 74D 3; 74E 2; 759 3; 75C 2; 76B 3; 76D 2;
771 3; 772 2; 773 3; 775 2; 778 3; 77A 2; 780 0; 7A6 4; 7B1 0; 7CA 2; 7EB 4; 7F4 0; 7FD 4; 7FE 0;
816 4; 81A 0; 81B 4; 824 0; 825 4; 828 0; 829 4; 830 0; 840 3; 841 2; 846 3; 848 2; 849 3; 84A 2;
854 3; 855 2; 856 3; 859 4; 85E 0; 860 2; 861 0; 862 2; 866 0; 867 3; 868 2; 869 3; 883 0; 886 2;
887 0; 889 2; 88E 3; 88F 2; 897 4; 8A0 2; 8AA 3; 8AD 0; 8AE 3; 8AF 2; 8B1 3; 8B3 2; 8B9 3; 8BA 2;
8C9 0; 8CA 4; 903 0; 93A 4; 93B 0; 93C 4; 93D 0; 941 4; 949 0; 94D 4; 94E 0; 951 4; 960 0; 962 4;
964 0; 981 4; 982 0; 9BC 4; 9BD 0; 9C1 4; 9C7 0; 9CD 4; 9CE 0; 9E2 4; 9E6 0; 9FE 4; A03 0; A3C 4;
A3E 0; A41 4; A5C 0; A70 4; A72 0; A75 4; A76 0; A81 4; A83 0; ABC 4; ABD 0; AC1 4; AC9 0; ACD 4;
AD0 0; AE2 4; AE6 0; AFA 4; B02 0; B3C 4; B3D 0; B3F 4; B40 0; B41 4; B47 0; B4D 4; B57 0; B62 4;
B66 0; B82 4; B83 0; BC0 4; BC1 0; BCD 4; BD0 0; C00 4; C01 0; C04 4; C05 0; C3C 4; C3D 0; C3E 4;
C41 0; C46 4; C58 0; C62 4; C66 0; C81 4; C82 0; CBC 4; CBD 0; CBF 4; CC0 0; CC6 4; CC7 0; CCC 4;
CD5 0; CE2 4; CE6 0; D00 4; D02 0; D3B 4; D3D 0; D41 4; D46 0; D4D 4; D4E 0; D62 4; D66 0; D81 4;
D82 0; DCA 4; DCF 0; DD2 4; DD8 0; E31 4; E32 0; E34 4; E3F 0; E47 4; E4F 0; EB1 4; EB2 0; EB4 4;
EBD 0; EC8 4; ED0 0; F18 4; F1A 0; F35 4; F36 0; F37 4; F38 0; F39 4; F3A 0; F71 4; F7F 0; F80 4;
F85 0; F86 4; F88 0; F8D 4; FBE 0; FC6 4; FC7 0; 102D 4; 1031 0; 1032 4; 1038 0; 1039 4; 103B 0;
103D 4; 103F 0; 1058 4; 105A 0; 105E 4; 1061 0; 1071 4; 1075 0; 1082 4; 1083 0; 1085 4; 1087 0;
108D 4; 108E 0; 109D 4; 109E 0; 135D 4; 1360 0; 1712 4; 1715 0; 1732 4; 1734 0; 1752 4; 1760 0;
1772 4; 1780 0; 17B7 4; 17BE 0; 17C6 4; 17C7 0; 17C9 4; 17D4 0; 17DD 4; 17E0 0; 1807 2; 1808 0;
1820 2; 1880 0; 1885 4; 1887 2; 18A9 4; 18AA 2; 18B0 0; 1920 4; 1923 0; 1927 4; 1929 0; 1932 4;
1933 0; 1939 4; 1940 0; 1A17 4; 1A19 0; 1A1B 4; 1A1E 0; 1A56 4; 1A57 0; 1A58 4; 1A61 0; 1A62 4;
1A63 0; 1A65 4; 1A6D 0; 1A73 4; 1A80 0; 1AB0 4; 1B04 0; 1B34 4; 1B35 0; 1B36 4; 1B3B 0; 1B3C 4;
1B3D 0; 1B42 4; 1B43 0; 1B6B 4; 1B74 0; 1B80 4; 1B82 0; 1BA2 4; 1BA6 0; 1BA8 4; 1BAA 0; 1BAB 4;
1BAE 0; 1BE6 4; 1BE7 0; 1BE8 4; 1BEA 0; 1BED 4; 1BEE 0; 1BEF 4; 1BF2 0; 1C2C 4; 1C34 0; 1C36 4;
1C3B 0; 1CD0 4; 1CD3 0; 1CD4 4; 1CE1 0; 1CE2 4; 1CE9 0; 1CED 4; 1CEE 0; 1CF4 4; 1CF5 0; 1CF8 4;
1CFA 0; 1DC0 4; 1E01 0; 20D0 4; 2104 0; 2CEF 4; 2CF3 0; 2D7F 4; 2D80 0; 2DE0 4; 2E00 0; 302A 4;
302E 0; 3099 4; 309D 0; A66F 4; A673 0; A674 4; A67E 0; A69E 4; A6A0 0; A6F0 4; A6F2 0; A802 4;
A803 0; A806 4; A807 0; A80B 4; A80C 0; A825 4; A827 0; A82C 4; A830 0; A840 2; A872 1; A873 0;
A8C4 4; A8CE 0; A8E0 4; A8F2 0; A8FF 4; A900 0; A926 4; A92E 0; A947 4; A952 0; A980 4; A983 0;
A9B3 4; A9B4 0; A9B6 4; A9BA 0; A9BC 4; A9BE 0; A9E5 4; A9E6 0; AA29 4; AA2F 0; AA31 4; AA33 0;
AA35 4; AA40 0; AA43 4; AA44 0; AA4C 4; AA4D 0; AA7C 4; AA7D 0; AAB0 4; AAB1 0; AAB2 4; AAB5 0;
AAB7 4; AAB9 0; AABE 4; AAC0 0; AAC1 4; AAC2 0; AAEC 4; AAEE 0; AAF6 4; AB01 0; ABE5 4; ABE6 0;
ABE8 4; ABE9 0; ABED 4; ABF0 0; FB1E 4; FBB2 0; FE20 4; FE45 0; 101FD 4; 10280 0; 102E0 4; 102E1
0; 10376 4; 10380 0; 10A01 4; 10A10 0; 10A38 4; 10A40 0; 10AC0 2; 10AC5 3; 10AC6 0; 10AC7 3; 10AC8
0; 10AC9 3; 10ACB 0; 10ACD 1; 10ACE 3; 10AD3 2; 10AD7 1; 10AD8 2; 10ADD 3; 10ADE 2; 10AE1 3; 10AE2
0; 10AE4 3; 10AE5 4; 10AEB 2; 10AEF 3; 10AF0 0; 10B80 2; 10B81 3; 10B82 2; 10B83 3; 10B86 2; 10B89
3; 10B8A 2; 10B8C 3; 10B8D 2; 10B8E 3; 10B90 2; 10B91 3; 10B99 0; 10BA9 3; 10BAD 2; 10BAF 0; 10D00
1; 10D01 2; 10D22 3; 10D23 2; 10D24 4; 10D30 0; 10D69 4; 10D6E 0; 10EAB 4; 10EAD 0; 10EC2 3; 10EC3
2; 10EC5 0; 10EC6 2; 10ED0 0; 10EFA 4; 10F00 0; 10F30 2; 10F33 3; 10F34 2; 10F45 0; 10F46 4; 10F51
2; 10F54 3; 10F55 0; 10F70 2; 10F74 3; 10F76 2; 10F82 4; 10F86 0; 10FB0 2; 10FB1 0; 10FB2 2; 10FB4
3; 10FB7 0; 10FB8 2; 10FB9 3; 10FBB 2; 10FBD 3; 10FBE 2; 10FC0 0; 10FC1 2; 10FC2 3; 10FC4 2; 10FC5
0; 10FC9 3; 10FCA 2; 10FCB 1; 10FE0 0; 11001 4; 11002 0; 11038 4; 11047 0; 11070 4; 11071 0; 11073
4; 11075 0; 1107F 4; 11082 0; 110B3 4; 110B7 0; 110B9 4; 110BB 0; 110C2 4; 110D0 0; 11100 4; 11103
0; 11127 4; 1112C 0; 1112D 4; 11136 0; 11173 4; 11174 0; 11180 4; 11182 0; 111B6 4; 111BF 0; 111C9
4; 111CD 0; 111CF 4; 111D0 0; 1122F 4; 11232 0; 11234 4; 11235 0; 11236 4; 11238 0; 1123E 4; 1123F
0; 11241 4; 11280 0; 112DF 4; 112E0 0; 112E3 4; 112F0 0; 11300 4; 11302 0; 1133B 4; 1133D 0; 11340
4; 11341 0; 11366 4; 11380 0; 113BB 4; 113C2 0; 113CE 4; 113CF 0; 113D0 4; 113D1 0; 113D2 4; 113D3
0; 113E1 4; 11400 0; 11438 4; 11440 0; 11442 4; 11445 0; 11446 4; 11447 0; 1145E 4; 1145F 0; 114B3
4; 114B9 0; 114BA 4; 114BB 0; 114BF 4; 114C1 0; 114C2 4; 114C4 0; 115B2 4; 115B8 0; 115BC 4; 115BE
0; 115BF 4; 115C1 0; 115DC 4; 11600 0; 11633 4; 1163B 0; 1163D 4; 1163E 0; 1163F 4; 11641 0; 116AB
4; 116AC 0; 116AD 4; 116AE 0; 116B0 4; 116B6 0; 116B7 4; 116B8 0; 1171D 4; 1171E 0; 1171F 4; 11720
0; 11722 4; 11726 0; 11727 4; 11730 0; 1182F 4; 11838 0; 11839 4; 1183B 0; 1193B 4; 1193D 0; 1193E
4; 1193F 0; 11943 4; 11944 0; 119D4 4; 119DC 0; 119E0 4; 119E1 0; 11A01 4; 11A0B 0; 11A33 4; 11A39
0; 11A3B 4; 11A3F 0; 11A47 4; 11A50 0; 11A51 4; 11A57 0; 11A59 4; 11A5C 0; 11A8A 4; 11A97 0; 11A98
4; 11A9A 0; 11B60 4; 11B61 0; 11B62 4; 11B65 0; 11B66 4; 11B67 0; 11C30 4; 11C3E 0; 11C3F 4; 11C40
0; 11C92 4; 11CA9 0; 11CAA 4; 11CB1 0; 11CB2 4; 11CB4 0; 11CB5 4; 11D00 0; 11D31 4; 11D46 0; 11D47
4; 11D50 0; 11D90 4; 11D93 0; 11D95 4; 11D96 0; 11D97 4; 11D98 0; 11EF3 4; 11EF5 0; 11F00 4; 11F02
0; 11F36 4; 11F3E 0; 11F40 4; 11F41 0; 11F42 4; 11F43 0; 11F5A 4; 11FB0 0; 13440 4; 13441 0; 13447
4; 13460 0; 1611E 4; 1612A 0; 1612D 4; 16130 0; 16AF0 4; 16AF5 0; 16B30 4; 16B37 0; 16F4F 4; 16F50
0; 16F8F 4; 16F93 0; 16FE4 4; 16FF0 0; 1BC9D 4; 1BC9F 0; 1CF00 4; 1CF50 0; 1D167 4; 1D16A 0; 1D17B
4; 1D183 0; 1D185 4; 1D18C 0; 1D1AA 4; 1D1AE 0; 1D242 4; 1D245 0; 1DA00 4; 1DA37 0; 1DA3B 4; 1DA6D
0; 1DA75 4; 1DA76 0; 1DA84 4; 1DA85 0; 1DA9B 4; 1DF00 0; 1E000 4; 1E100 0; 1E130 4; 1E137 0; 1E2AE
4; 1E2C0 0; 1E2EC 4; 1E2F0 0; 1E4EC 4; 1E4F0 0; 1E5EE 4; 1E5F0 0; 1E6E3 4; 1E6E4 0; 1E6E6 4; 1E6E7
0; 1E6EE 4; 1E6F0 0; 1E6F5 4; 1E6FE 0; 1E8D0 4; 1E922 2; 1E944 4; 1E950 0"

/-- Where the marks begin and end. -/
def markText : String := "
300 340 342 343 346 34F 350 370 483 48A 591 5BE 5BF 5C0 5C1 5C3 5C4 5C6 5C7 5C8 610 61B 64B 660
670 671 6D6 6DD 6DF 6E5 6E7 6E9 6EA 6EE 711 712 730 74B 7A6 7B1 7EB 7F4 7FD 7FE 816 81A 81B 824
825 828 829 82E 859 85C 898 8A0 8CA 8E2 8E3 904 93A 93D 93E 950 951 958 962 964 981 984 9BC 9BD
9BE 9C5 9C7 9C9 9CB 9CE 9D7 9D8 9E2 9E4 9FE 9FF A01 A04 A3C A3D A3E A43 A47 A49 A4B A4E A51 A52
A70 A72 A75 A76 A81 A84 ABC ABD ABE AC6 AC7 ACA ACB ACE AE2 AE4 AFA B00 B01 B04 B3C B3D B3E B45
B47 B49 B4B B4E B55 B58 B62 B64 B82 B83 BBE BC3 BC6 BC9 BCA BCE BD7 BD8 C00 C05 C3C C3D C3E C45
C46 C49 C4A C4E C55 C57 C62 C64 C81 C84 CBC CBD CBE CC5 CC6 CC9 CCA CCE CD5 CD7 CE2 CE4 D00 D04
D3B D3D D3E D45 D46 D49 D4A D4E D57 D58 D62 D64 D81 D84 DCA DCB DCF DD5 DD6 DD7 DD8 DE0 DF2 DF4
E31 E32 E34 E3B E47 E4F EB1 EB2 EB4 EBD EC8 ECE F18 F1A F35 F36 F37 F38 F39 F3A F3E F40 F71 F73
F74 F75 F7A F81 F82 F85 F86 F88 F8D F93 F94 F98 F99 F9D F9E FA2 FA3 FA7 FA8 FAC FAD FB9 FBA FBD
FC6 FC7 102B 103F 1056 105A 105E 1061 1062 1065 1067 106E 1071 1075 1082 108E 108F 1090 109A 109E
135D 1360 1712 1716 1732 1735 1752 1754 1772 1774 17B6 17D4 17DD 17DE 1885 1887 18A9 18AA 1920
192C 1930 193C 1A17 1A1C 1A55 1A5F 1A60 1A7D 1A7F 1A80 1AB0 1ACF 1B00 1B05 1B34 1B45 1B6B 1B74
1B80 1B83 1BA1 1BAE 1BE6 1BF4 1C24 1C38 1CD0 1CD3 1CD4 1CE9 1CED 1CEE 1CF4 1CF5 1CF7 1CFA 1DC0
1E00 20D0 20F1 2CEF 2CF2 2D7F 2D80 2DE0 2E00 302A 3030 3099 309B A66F A673 A674 A67E A69E A6A0
A6F0 A6F2 A802 A803 A806 A807 A80B A80C A823 A828 A82C A82D A880 A882 A8B4 A8C6 A8E0 A8F2 A8FF
A900 A926 A92E A947 A954 A980 A984 A9B3 A9C1 A9E5 A9E6 AA29 AA37 AA43 AA44 AA4C AA4E AA7B AA7E
AAB0 AAB1 AAB2 AAB5 AAB7 AAB9 AABE AAC0 AAC1 AAC2 AAEB AAF0 AAF5 AAF7 ABE3 ABEB ABEC ABEE FB1E
FB1F FE20 FE30 101FD 101FE 102E0 102E1 10376 1037B 10A01 10A04 10A05 10A07 10A0C 10A10 10A38 10A3B
10A3F 10A40 10AE5 10AE7 10D24 10D28 10EAB 10EAD 10F46 10F51 10F82 10F86 11000 11003 11038 11047
11070 11071 11073 11075 1107F 11083 110B0 110BB 110C2 110C3 11100 11103 11127 11135 11145 11147
11173 11174 11180 11183 111B3 111C1 111C9 111CD 111CE 111D0 1122C 11238 1123E 1123F 112DF 112EB
11300 11304 1133B 1133D 1133E 11345 11347 11349 1134B 1134E 11357 11358 11362 11364 11366 1136D
11370 11375 11435 11447 1145E 1145F 114B0 114C4 115AF 115B6 115B8 115C1 115DC 115DE 11630 11641
116AB 116B8 1171D 1172C 1182C 1183B 11930 11936 11937 11939 1193B 1193F 11940 11941 11942 11944
119D1 119D8 119DA 119E1 119E4 119E5 11A01 11A0B 11A33 11A3A 11A3B 11A3F 11A47 11A48 11A51 11A5C
11A8A 11A9A 11C2F 11C37 11C38 11C40 11C92 11CA8 11CA9 11CB7 11D31 11D37 11D3A 11D3B 11D3C 11D3E
11D3F 11D46 11D47 11D48 11D8A 11D8F 11D90 11D92 11D93 11D98 11EF3 11EF7 16AF0 16AF5 16B30 16B37
16F4F 16F50 16F51 16F88 16F8F 16F93 16FE4 16FE5 16FF0 16FF2 1BC9D 1BC9F 1CF00 1CF2E 1CF30 1CF47
1D165 1D16A 1D16D 1D173 1D17B 1D183 1D185 1D18C 1D1AA 1D1AE 1D242 1D245 1DA00 1DA37 1DA3B 1DA6D
1DA75 1DA76 1DA84 1DA85 1DA9B 1DAA0 1DAA1 1DAB0 1E000 1E007 1E008 1E019 1E01B 1E022 1E023 1E025
1E026 1E02B 1E130 1E137 1E2AE 1E2AF 1E2EC 1E2F0 1E8D0 1E8D7 1E944 1E94B"

def joinings : Array (List Nat) := rows joiningText

def markFlips : Array Nat := numbers markText

/-- Whether a character is a mark. -/
def isMark (c : Char) : Bool := flipped markFlips c.toNat

def Joining.of (c : Char) : Joining :=
  match (rowFor joinings c.toNat).getD 1 0 with
  | 1 => .toNext
  | 2 => .toBoth
  | 3 => .toPrevious
  | 4 => .transparent
  | _ => .apart

/-- The class of marks that take a vowel away. -/
def vowelKiller : Nat := 9

/-- Whether the first letter of a text, transparent characters aside, joins in a way. -/
def joinsBy (ways : List Joining) (cs : List Char) : Bool :=
  match (cs.map Joining.of).dropWhile (· == .transparent) with
  | j :: _ => j ∈ ways
  | [] => false

/-- Whether every joiner has its place. The first argument is the text before, backwards. -/
def joinersPlaced : (before : List Char) → List Char → Bool
  | _, [] => true
  | before, c :: cs =>
    let isPlaced :=
      if c == '\u200c' || c == '\u200d' then
        match before with
        | [] => false
        | d :: _ =>
          markClass d == vowelKiller
            || (c == '\u200c' && joinsBy [.toNext, .toBoth] before
              && joinsBy [.toPrevious, .toBoth] cs)
      else true
    isPlaced && joinersPlaced (c :: before) cs

end SecretBroker.Unicode
