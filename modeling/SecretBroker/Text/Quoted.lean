import SecretBroker.Unicode.Printable
import SecretBroker.Unicode.Extender

/-!
# Quoted texts

A text between double quotes, as error messages and inspection texts show it. The quote, the
backslash, tab, line feed, carriage return and NUL have short escapes; any other character that is
not printable, or that would attach to its neighbour, is written by its code point.
-/

namespace SecretBroker.Text

/-- The digits of `n` in base sixteen, lower case, without zeros in front. -/
def hexDigits (n : Nat) : List Char := Nat.toDigits 16 n

/-- How one character is written between the quotes. -/
def quotedChar (c : Char) : List Char :=
  if c == '\x00' then ['\\', '0']
  else if c == '\t' then ['\\', 't']
  else if c == '\r' then ['\\', 'r']
  else if c == '\n' then ['\\', 'n']
  else if c == '\x22' then ['\\', '\x22']
  else if c == '\\' then ['\\', '\\']
  else if Unicode.isExtender c || !Unicode.isPrintable c then
    ['\\', 'u', '\x7b'] ++ hexDigits c.toNat ++ ['\x7d']
  else [c]

/-- The text between double quotes. -/
def quoted (s : String) : String :=
  String.ofList ('\x22' :: s.toList.flatMap quotedChar ++ ['\x22'])

end SecretBroker.Text
