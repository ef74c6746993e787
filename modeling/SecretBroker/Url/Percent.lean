import SecretBroker.Text.Digits
import SecretBroker.Text.Utf8

/-!
# Percent-encoding

A character that may not stand in a part of a URL is written by its bytes, each as a percent sign
and two digits. Which characters those are differs from part to part and is said by an encode set;
characters beyond ASCII are in every set.
-/

namespace SecretBroker.Url

/-- Characters that are written by their bytes. -/
abbrev EncodeSet := Char → Bool

/-- Control characters and all beyond ASCII. -/
def controlSet : EncodeSet := fun c => c.toNat < 0x20 || 0x7E < c.toNat

/-- The controls and some more characters. -/
def EncodeSet.with (set : EncodeSet) (more : List Char) : EncodeSet :=
  fun c => set c || more.contains c

def fragmentSet : EncodeSet := .with controlSet [' ', '\x22', '<', '>', '\x60']

def pathSet : EncodeSet := .with fragmentSet ['#', '?', '\x7b', '\x7d']

/-- For a segment that is not to end before its end: the path's separator and the percent sign are
encoded as well. -/
def segmentSet : EncodeSet := .with pathSet ['/', '%']

/-- For such a segment of a URL in which a backslash separates too. -/
def specialSegmentSet : EncodeSet := .with segmentSet ['\\']

def userinfoSet : EncodeSet :=
  .with pathSet ['/', ':', ';', '=', '@', '[', '\\', ']', '^', '|']

def querySet : EncodeSet := .with controlSet [' ', '\x22', '#', '<', '>']

def specialQuerySet : EncodeSet := .with querySet ['\x27']

/-- A digit of base sixteen, in upper case. -/
def upperHex (n : Nat) : Char := (Nat.digitChar n).toUpper

/-- A byte as a percent sign and two digits. -/
def percentByte (b : UInt8) : List Char := ['%', upperHex (b.toNat / 16), upperHex (b.toNat % 16)]

/-- A character as it is written. -/
def percentChar (set : EncodeSet) (c : Char) : List Char :=
  if set c then (String.utf8EncodeChar c).flatMap percentByte else [c]

/-- A text as it is written. -/
def percentEncode (set : EncodeSet) (cs : List Char) : List Char := cs.flatMap (percentChar set)

/-- The bytes that a text stands for: those of its escapes, and of its other characters. A percent
sign without two digits stands for itself. -/
def percentDecode : List Char → List UInt8
  | [] => []
  | c :: rest =>
    match c, rest with
    | '%', a :: b :: rest' =>
      match Text.hexDigit? a, Text.hexDigit? b with
      | some x, some y => UInt8.ofNat (16 * x + y) :: percentDecode rest'
      | _, _ => 0x25 :: percentDecode (a :: b :: rest')
    | c, rest => String.utf8EncodeChar c ++ percentDecode rest

/-- A character of a form value: a space is a plus sign, letters, digits and `*-._` stand for
themselves, and all else is written by its bytes. -/
def formChar (c : Char) : List Char :=
  if c == ' ' then ['+']
  else if c.isAlphanum || c == '*' || c == '-' || c == '.' || c == '_' then [c]
  else (String.utf8EncodeChar c).flatMap percentByte

/-- A name and its value as they are written in a query. -/
def formPair (name value : String) : List Char :=
  name.toList.flatMap formChar ++ '=' :: value.toList.flatMap formChar

end SecretBroker.Url
