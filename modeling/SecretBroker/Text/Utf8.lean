/-!
# UTF-8

Texts as bytes and back. Reading takes one character from the front, or the longest start of one
that a further byte spoils; `decoded?` refuses the second, `decodedWith` puts a replacement
character in its place.
-/

namespace SecretBroker.Text

/-- The bytes of a text. -/
def utf8Bytes (s : String) : List UInt8 := s.toList.flatMap String.utf8EncodeChar

/-- What the front of a byte sequence is: a character, or bytes that are none. -/
inductive Utf8Head where
  | char (c : Char)
  | invalid
deriving DecidableEq, Repr

/-- The character, if the front is one. -/
def Utf8Head.char? : Utf8Head → Option Char
  | .char c => some c
  | .invalid => none

/-- Whether a byte can follow the first byte `b` of a character. -/
def followsFirst (b : Nat) (c : UInt8) : Bool :=
  let lo := if b = 0xE0 then 0xA0 else if b = 0xF0 then 0x90 else 0x80
  let hi := if b = 0xED then 0x9F else if b = 0xF4 then 0x8F else 0xBF
  lo ≤ c.toNat && c.toNat ≤ hi

/-- Whether a byte can be a third or fourth one. -/
def follows (c : UInt8) : Bool := 0x80 ≤ c.toNat && c.toNat ≤ 0xBF

/-- The value of a byte after the first. -/
def tail6 (c : UInt8) : Nat := c.toNat % 64

/-- How many bytes a character with this first byte has; none has it as a first byte if zero. -/
def utf8Length (b : Nat) : Nat :=
  if b < 0x80 then 1 else if b < 0xC2 then 0 else if b < 0xE0 then 2 else if b < 0xF0 then 3
  else if b < 0xF5 then 4 else 0

/-- The front of a byte sequence, and the bytes after it. -/
def utf8Head : List UInt8 → Option (Utf8Head × List UInt8)
  | [] => none
  | b :: rest =>
    let n := b.toNat
    let bad (rest : List UInt8) : Option (Utf8Head × List UInt8) := some (.invalid, rest)
    match utf8Length n, rest with
    | 1, _ => some (.char (Char.ofNat n), rest)
    | 2, c :: rest' =>
      if followsFirst n c then some (.char (Char.ofNat (n % 32 * 64 + tail6 c)), rest') else bad rest
    | 3, c :: rest' =>
      if followsFirst n c then
        match rest' with
        | d :: rest'' =>
          if follows d then
            some (.char (Char.ofNat ((n % 16 * 64 + tail6 c) * 64 + tail6 d)), rest'')
          else bad rest'
        | [] => bad rest'
      else bad rest
    | 4, c :: rest' =>
      if followsFirst n c then
        match rest' with
        | d :: rest'' =>
          if follows d then
            match rest'' with
            | e :: rest''' =>
              if follows e then
                some (.char (Char.ofNat (((n % 8 * 64 + tail6 c) * 64 + tail6 d) * 64 + tail6 e)),
                  rest''')
              else bad rest''
            | [] => bad rest''
          else bad rest'
        | [] => bad rest'
      else bad rest
    | _, _ => bad rest

/-- The heads of a byte sequence one after the other; the first argument bounds their number. -/
def utf8Heads : (fuel : Nat) → List UInt8 → List Utf8Head
  | 0, _ => []
  | fuel + 1, bytes =>
    match utf8Head bytes with
    | none => []
    | some (h, rest) => h :: utf8Heads fuel rest

/-- The text that the bytes encode, if they encode one. -/
def decoded? (bytes : List UInt8) : Option String :=
  ((utf8Heads bytes.length bytes).mapM Utf8Head.char?).map String.ofList

/-- The text that the bytes encode, with a character in place of what encodes none. -/
def decodedWith (replacement : Char) (bytes : List UInt8) : String :=
  String.ofList ((utf8Heads bytes.length bytes).map fun h => h.char?.getD replacement)

/-- The text that the bytes encode, U+FFFD in place of what encodes none. -/
def decodedLossy (bytes : List UInt8) : String := decodedWith '\uFFFD' bytes

end SecretBroker.Text
