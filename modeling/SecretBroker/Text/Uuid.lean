import SecretBroker.Text.Digits

/-!
# Spellings of a UUID

A UUID is 32 hexadecimal digits, which may be written in one piece or with hyphens in four places;
with hyphens it may also stand in braces or behind `urn:uuid:`. Letters may have either case.
-/

namespace SecretBroker.Text

/-- The lengths of the groups between hyphens. -/
def uuidGroups : List Nat := [8, 4, 4, 4, 12]

/-- Whether the text is a UUID in groups. -/
def isHyphenatedUuid (cs : List Char) : Bool :=
  let groups := cs.splitOn '-'
  groups.map List.length == uuidGroups && groups.all (·.all isHexDigit)

/-- What follows a start of small letters that the text has in either case. -/
def afterStart? (start cs : List Char) : Option (List Char) :=
  if start.isPrefixOf (cs.map Char.toLower) then some (cs.drop start.length) else none

/-- Whether the text spells a UUID. -/
def isUuid (text : String) : Bool :=
  let cs := text.toList
  (cs.length == 32 && cs.all isHexDigit) || isHyphenatedUuid cs
    || (afterStart? "urn:uuid:".toList cs).any isHyphenatedUuid
    || (cs.head? == some '\x7b' && cs.getLast? == some '\x7d' && isHyphenatedUuid (cs.drop 1).dropLast)

end SecretBroker.Text
