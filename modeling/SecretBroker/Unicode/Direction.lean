import SecretBroker.Unicode.Rows

/-!
# Writing directions

The bidirectional class of a character, and the rule for words that are written in one direction:
where a text has any character that is written from right to left, each of its words must hold to
the direction that its first character sets, and end in a letter or a number, marks aside.
-/

namespace SecretBroker.Unicode

/-- How a character takes part in the direction of a text. -/
inductive Direction where
  | left
  | right
  | arabicLetter
  | arabicNumber
  | number
  | numberSeparator
  | commonSeparator
  | numberTerminator
  | neutral
  | boundary
  | mark
  | space
deriving DecidableEq, Repr

/-- Where a class begins, and the number of the class in the order of their declaration; characters
that no domain name may hold are passed over. -/
def directionText : String := "
0 9; 9 B; E 9; 1C B; 21 8; 23 7; 26 8; 2B 5; 2C 6; 2D 5; 2E 6; 30 4; 3A 6; 3B 8; 61 0; 7B 8; 7F 9;
A1 8; A2 7; A6 8; B0 7; B6 8; DF 0; F7 8; F8 0; 2B9 8; 2BB 0; 2C2 8; 2D0 0; 2D2 8; 2EE 0; 2EF 8;
300 A; 371 0; 375 8; 377 0; 3F6 8; 3F8 0; 483 A; 48B 0; 58A 8; 58F 7; 591 A; 5BE 1; 5BF A; 5C0 1;
5C1 A; 5C3 1; 5C4 A; 5C6 1; 5C7 A; 5D0 1; 606 8; 608 2; 609 7; 60B 2; 60C 6; 60D 2; 60E 8; 610 A;
61B 2; 64B A; 660 3; 66A 7; 66B 3; 66D 2; 670 A; 671 2; 6D6 A; 6DE 8; 6DF A; 6E5 2; 6E7 A; 6E9 8;
6EA A; 6EE 2; 6F0 4; 6FA 2; 711 A; 712 2; 730 A; 74D 2; 7A6 A; 7B1 2; 7C0 1; 7EB A; 7F4 1; 7F6 8;
7FA 1; 7FD A; 7FE 1; 816 A; 81A 1; 81B A; 824 1; 825 A; 828 1; 829 A; 830 1; 859 A; 85E 1; 860 2;
898 A; 8A0 2; 8CA A; 903 0; 93A A; 93B 0; 93C A; 93D 0; 941 A; 949 0; 94D A; 94E 0; 951 A; 960 0;
962 A; 964 0; 981 A; 982 0; 9BC A; 9BD 0; 9C1 A; 9C7 0; 9CD A; 9CE 0; 9E2 A; 9E6 0; 9F2 7; 9F4 0;
9FB 7; 9FC 0; 9FE A; A03 0; A3C A; A3E 0; A41 A; A5C 0; A70 A; A72 0; A75 A; A76 0; A81 A; A83 0;
ABC A; ABD 0; AC1 A; AC9 0; ACD A; AD0 0; AE2 A; AE6 0; AF1 7; AF9 0; AFA A; B02 0; B3C A; B3D 0;
B3F A; B40 0; B41 A; B47 0; B4D A; B57 0; B62 A; B66 0; B82 A; B83 0; BC0 A; BC1 0; BCD A; BD0 0;
BF3 8; BF9 7; BFA 8; C00 A; C01 0; C04 A; C05 0; C3C A; C3D 0; C3E A; C41 0; C46 A; C58 0; C62 A;
C66 0; C78 8; C7F 0; C81 A; C82 0; CBC A; CBD 0; CCC A; CD5 0; CE2 A; CE6 0; D00 A; D02 0; D3B A;
D3D 0; D41 A; D46 0; D4D A; D4E 0; D62 A; D66 0; D81 A; D82 0; DCA A; DCF 0; DD2 A; DD8 0; E31 A;
E32 0; E34 A; E3F 7; E40 0; E47 A; E4F 0; EB1 A; EB2 0; EB4 A; EBD 0; EC8 A; ECE 0; F18 A; F1A 0;
F35 A; F36 0; F37 A; F38 0; F39 A; F3A 8; F3E 0; F71 A; F7F 0; F80 A; F85 0; F86 A; F88 0; F8D A;
FBE 0; FC6 A; FC7 0; 102D A; 1031 0; 1032 A; 1038 0; 1039 A; 103B 0; 103D A; 103F 0; 1058 A; 105A
0; 105E A; 1061 0; 1071 A; 1075 0; 1082 A; 1083 0; 1085 A; 1087 0; 108D A; 108E 0; 109D A; 109E 0;
135D A; 1360 0; 1390 8; 13A0 0; 1400 8; 1401 0; 169B 8; 16A0 0; 1712 A; 1715 0; 1732 A; 1734 0;
1752 A; 1760 0; 1772 A; 1780 0; 17B7 A; 17BE 0; 17C6 A; 17C7 0; 17C9 A; 17D4 0; 17DB 7; 17DC 0;
17DD A; 17E0 0; 17F0 8; 1810 0; 1885 A; 1887 0; 18A9 A; 18AA 0; 1920 A; 1923 0; 1927 A; 1929 0;
1932 A; 1933 0; 1939 A; 1940 8; 1946 0; 19DE 8; 1A00 0; 1A17 A; 1A19 0; 1A1B A; 1A1E 0; 1A56 A;
1A57 0; 1A58 A; 1A61 0; 1A62 A; 1A63 0; 1A65 A; 1A6D 0; 1A73 A; 1A80 0; 1AB0 A; 1ACF 0; 1B00 A;
1B04 0; 1B34 A; 1B35 0; 1B36 A; 1B3B 0; 1B3C A; 1B3D 0; 1B42 A; 1B43 0; 1B6B A; 1B74 0; 1B80 A;
1B82 0; 1BA2 A; 1BA6 0; 1BA8 A; 1BAA 0; 1BAB A; 1BAE 0; 1BE6 A; 1BE7 0; 1BE8 A; 1BEA 0; 1BED A;
1BEE 0; 1BEF A; 1BF2 0; 1C2C A; 1C34 0; 1C36 A; 1C3B 0; 1CD0 A; 1CD3 0; 1CD4 A; 1CE1 0; 1CE2 A;
1CE9 0; 1CED A; 1CEE 0; 1CF4 A; 1CF5 0; 1CF8 A; 1CFA 0; 1DC0 A; 1E01 0; 200C 9; 2010 8; 2030 7;
2035 8; 2044 6; 2045 8; 20A0 7; 20C1 0; 20D0 A; 2104 8; 212E 7; 213A 8; 214E 0; 218A 8; 2212 5;
2213 7; 2214 8; 2336 0; 237B 8; 2395 0; 2396 8; 2427 0; 2440 8; 26AC 0; 26AD 8; 2800 0; 2900 8;
2B96 0; 2B97 8; 2C30 0; 2CE5 8; 2CEC 0; 2CEF A; 2CF3 0; 2CF9 8; 2D00 0; 2D7F A; 2D80 0; 2DE0 A;
2E00 8; 3005 0; 3008 8; 3021 0; 302A A; 302E 0; 3030 8; 3031 0; 3037 8; 303B 0; 303D 8; 3041 0;
3099 A; 309D 0; 30A0 8; 30A1 0; 30FB 8; 30FC 0; 31C0 8; 31E4 0; 4DC0 8; 4E00 0; A490 8; A4D0 0;
A60D 8; A610 0; A66F A; A673 8; A674 A; A67E 8; A681 0; A69E A; A6A0 0; A6F0 A; A6F2 0; A700 8;
A723 0; A788 8; A789 0; A802 A; A803 0; A806 A; A807 0; A80B A; A80C 0; A825 A; A827 0; A828 8;
A82C A; A830 0; A838 7; A840 0; A874 8; A880 0; A8C4 A; A8CE 0; A8E0 A; A8F2 0; A8FF A; A900 0;
A926 A; A92E 0; A947 A; A952 0; A980 A; A983 0; A9B3 A; A9B4 0; A9B6 A; A9BA 0; A9BC A; A9BE 0;
A9E5 A; A9E6 0; AA29 A; AA2F 0; AA31 A; AA33 0; AA35 A; AA40 0; AA43 A; AA44 0; AA4C A; AA4D 0;
AA7C A; AA7D 0; AAB0 A; AAB1 0; AAB2 A; AAB5 0; AAB7 A; AAB9 0; AABE A; AAC0 0; AAC1 A; AAC2 0;
AAEC A; AAEE 0; AAF6 A; AB01 0; AB6A 8; ABC0 0; ABE5 A; ABE6 0; ABE8 A; ABE9 0; ABED A; ABF0 0;
FB1E A; FBB2 2; FBC3 0; FD3E 8; FD90 0; FDCF 8; FE20 A; FE45 8; FE73 2; 10000 0; 10101 8; 10102 0;
10140 8; 1018D 0; 10190 8; 101D0 0; 101FD A; 10280 0; 102E0 A; 102E1 4; 10300 0; 10376 A; 10380 0;
10800 1; 1091F 8; 10920 1; 10A01 A; 10A10 1; 10A38 A; 10A40 1; 10AE5 A; 10AEB 1; 10B39 8; 10B40 1;
10D00 2; 10D24 A; 10D30 3; 10D40 1; 10E60 3; 10E80 1; 10EAB A; 10EAD 1; 10F30 2; 10F46 A; 10F51 2;
10F70 1; 10F82 A; 10F86 1; 11000 0; 11001 A; 11002 0; 11038 A; 11047 0; 11052 8; 11066 0; 11070 A;
11071 0; 11073 A; 11075 0; 1107F A; 11082 0; 110B3 A; 110B7 0; 110B9 A; 110BB 0; 110C2 A; 110D0 0;
11100 A; 11103 0; 11127 A; 1112C 0; 1112D A; 11136 0; 11173 A; 11174 0; 11180 A; 11182 0; 111B6 A;
111BF 0; 111C9 A; 111CD 0; 111CF A; 111D0 0; 1122F A; 11232 0; 11234 A; 11235 0; 11236 A; 11238 0;
1123E A; 1123F 0; 112DF A; 112E0 0; 112E3 A; 112F0 0; 11300 A; 11302 0; 1133B A; 1133D 0; 11340 A;
11341 0; 11366 A; 11380 0; 11438 A; 11440 0; 11442 A; 11445 0; 11446 A; 11447 0; 1145E A; 1145F 0;
114B3 A; 114B9 0; 114BA A; 114BB 0; 114BF A; 114C1 0; 114C2 A; 114C4 0; 115B2 A; 115B8 0; 115BC A;
115BE 0; 115BF A; 115C1 0; 115DC A; 11600 0; 11633 A; 1163B 0; 1163D A; 1163E 0; 1163F A; 11641 0;
11660 8; 11680 0; 116AB A; 116AC 0; 116AD A; 116AE 0; 116B0 A; 116B6 0; 116B7 A; 116B8 0; 1171D A;
11720 0; 11722 A; 11726 0; 11727 A; 11730 0; 1182F A; 11838 0; 11839 A; 1183B 0; 1193B A; 1193D 0;
1193E A; 1193F 0; 11943 A; 11944 0; 119D4 A; 119DC 0; 119E0 A; 119E1 0; 11A01 A; 11A07 0; 11A09 A;
11A0B 0; 11A33 A; 11A39 0; 11A3B A; 11A3F 0; 11A47 A; 11A50 0; 11A51 A; 11A57 0; 11A59 A; 11A5C 0;
11A8A A; 11A97 0; 11A98 A; 11A9A 0; 11C30 A; 11C3E 0; 11C92 A; 11CA9 0; 11CAA A; 11CB1 0; 11CB2 A;
11CB4 0; 11CB5 A; 11D00 0; 11D31 A; 11D46 0; 11D47 A; 11D50 0; 11D90 A; 11D93 0; 11D95 A; 11D96 0;
11D97 A; 11D98 0; 11EF3 A; 11EF5 0; 11FD5 8; 11FDD 7; 11FE1 8; 11FFF 0; 16AF0 A; 16AF5 0; 16B30 A;
16B37 0; 16F4F A; 16F50 0; 16F8F A; 16F93 0; 16FE2 8; 16FE3 0; 16FE4 A; 16FF0 0; 1BC9D A; 1BC9F 0;
1CF00 A; 1CF50 0; 1D167 A; 1D16A 0; 1D17B A; 1D183 0; 1D185 A; 1D18C 0; 1D1AA A; 1D1AE 0; 1D1E9 8;
1D242 A; 1D245 8; 1D2C0 0; 1D300 8; 1D360 0; 1DA00 A; 1DA37 0; 1DA3B A; 1DA6D 0; 1DA75 A; 1DA76 0;
1DA84 A; 1DA85 0; 1DA9B A; 1DF00 0; 1E000 A; 1E08F 0; 1E130 A; 1E137 0; 1E2AE A; 1E2C0 0; 1E2EC A;
1E2F0 0; 1E2FF 7; 1E4D0 0; 1E800 1; 1E8D0 A; 1E922 1; 1E944 A; 1E94B 1; 1EC71 2; 1EEF0 8; 1F150 0;
1F16D 8; 1F170 0; 1F1AD 8; 1F1E6 0; 1F260 8; 1F6D8 0; 1F6DD 8; 1F774 0; 1F780 8; 1F7D9 0; 1F7E0 8;
1F8B2 0; 1F900 8; 1FA54 0; 1FA60 8; 1FA75 0; 1FA78 8; 1FA87 0; 1FA90 8; 1FAAD 0; 1FAB0 8; 1FABB 0;
1FAC0 8; 1FAC6 0; 1FAD0 8; 1FADA 0; 1FAE0 8; 1FAE8 0; 1FAF0 8; 1FAF7 0; 1FB00 8; 1FBCB 0"

def directions : Array (List Nat) := rows directionText

/-- The class with a number. -/
def Direction.ofNumber : Nat → Direction
  | 1 => .right
  | 2 => .arabicLetter
  | 3 => .arabicNumber
  | 4 => .number
  | 5 => .numberSeparator
  | 6 => .commonSeparator
  | 7 => .numberTerminator
  | 8 => .neutral
  | 9 => .boundary
  | 10 => .mark
  | 11 => .space
  | _ => .left

def Direction.of (c : Char) : Direction :=
  match rowFor directions c.toNat with
  | [_, k] => .ofNumber k
  | _ => .left

/-- Whether a class is of what is written from right to left. -/
def Direction.isRight (d : Direction) : Bool := d ∈ [.right, .arabicLetter, .arabicNumber]

/-- Classes that may stand in a word of either direction. -/
def Direction.isCommon (d : Direction) : Bool :=
  d ∈ [.number, .numberSeparator, .commonSeparator, .numberTerminator, .neutral, .boundary, .mark]

/-- Whether a word holds to one direction. -/
def keepsDirection (word : List Char) : Bool :=
  let ds := word.map Direction.of
  let core := (ds.reverse.dropWhile (· == .mark)).reverse
  match ds.head?, core.getLast? with
  | none, _ => true
  | some .left, some last =>
    ds.all (fun d => d == .left || d.isCommon) && last ∈ [.left, .number]
  | some first, some last =>
    (first == .right || first == .arabicLetter) && ds.all (fun d => d.isRight || d.isCommon)
      && (last.isRight || last == .number)
      && !(ds.contains .number && ds.contains .arabicNumber)
  | some _, none => false

end SecretBroker.Unicode
