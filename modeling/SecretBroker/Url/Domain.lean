import SecretBroker.Text.Punycode
import SecretBroker.Unicode.Direction
import SecretBroker.Unicode.DomainMapping
import SecretBroker.Unicode.Joining

/-!
# Domain names

The one form in ASCII of a domain name. Characters are first replaced by those that stand for them
in domain names, which also puts capitals into small letters. Of the labels between points, one that
is not plain is written in letters, digits and hyphens behind `xn--`; one that comes in this form
must be what another label would have become.
-/

namespace SecretBroker.Url

/-- Whether a character is one of ASCII. -/
def isAscii (c : Char) : Bool := c.toNat < 0x80

/-- Whether a domain name may hold the character: any but controls, the space and those that part a
URL. -/
def isDomainChar (c : Char) : Bool :=
  0x20 < c.toNat && c.toNat != 0x7F
    && c ∉ ['%', '#', '/', ':', '<', '>', '?', '@', '[', '\\', ']', '^', '|']

/-- A domain name with every character replaced by what stands for it; nothing when one is not
allowed. -/
def mapped? (cs : List Char) : Option (List Char) :=
  (cs.mapM Unicode.domainMapping?).map fun parts => Unicode.composedForm parts.flatten

/-- What begins a label in its plain form. -/
def codeMark : List Char := ['x', 'n', '-', '-']

/-- The longest label that is written in its plain form, and the longest that is read from it. -/
def longestWritten : Nat := 1000

def longestRead : Nat := 2000

/-- The label that a code denotes: there must be more than plain characters in it, and mapping must
leave it as it is. -/
def decodedLabel? (code : List Char) : Option (List Char) := do
  if longestRead < code.length || code.getLast? == some '-' then none
  let label ← Text.Punycode.decode? code
  if label.all isAscii || mapped? label != some label then none else some label

/-- The label that a part of a domain name denotes. -/
def label? (part : List Char) : Option (List Char) :=
  if codeMark.isPrefixOf part then decodedLabel? (part.drop codeMark.length) else some part

/-- Whether a label may stand in a domain name: it has no mark at its start, no joiner out of place
and no character that is not allowed. -/
def isLabel (label : List Char) : Bool :=
  !(label.head?.any Unicode.isMark) && Unicode.joinersPlaced [] label && label.all isDomainChar

/-- A label in ASCII, if it is not too long. -/
def plainLabel? (label : List Char) : Option (List Char) :=
  if label.all isAscii then some label
  else if label.length ≤ longestWritten then some (codeMark ++ Text.Punycode.encode label)
  else none

/-- Whether any label has something written from right to left. -/
def isRightward (labels : List (List Char)) : Bool :=
  labels.any (·.any fun c => (Unicode.Direction.of c).isRight)

/-- The form of a domain name in ASCII, if it has one. -/
def domainName? (cs : List Char) : Option (List Char) := do
  let labels ← ((← mapped? cs).splitOn '.').mapM label?
  if !labels.all isLabel || (isRightward labels && !labels.all Unicode.keepsDirection) then none
  return ['.'].intercalate (← labels.mapM plainLabel?)

end SecretBroker.Url
