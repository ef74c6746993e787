import SecretBroker.Credential

/-!
# Fresh credentials

A new credential from drawn bytes: the key is a version 4 identifier in hexadecimal without
hyphens, made of 16 bytes of which six bits are fixed, and the secret is 32 bytes in hexadecimal.
-/

namespace SecretBroker.NewCredential

/-- Bytes drawn for a key. -/
def keyBytes : Nat := 16

/-- Bytes drawn for a secret. -/
def secretBytes : Nat := 32

/-- One byte as two hexadecimal digits. -/
def hexByte (b : UInt8) : List Char :=
  [Nat.digitChar (b.toNat / 16), Nat.digitChar (b.toNat % 16)]

/-- Bytes as hexadecimal digits. -/
def hex (bytes : List UInt8) : String := String.ofList (bytes.flatMap hexByte)

/-- The bytes of an identifier with the bits that say version 4 and its variant. -/
def stamped (bytes : List UInt8) : List UInt8 :=
  bytes.mapIdx fun i b =>
    if i = 6 then (b &&& 0x0F) ||| 0x40 else if i = 8 then (b &&& 0x3F) ||| 0x80 else b

/-- The credential made of `keyBytes` and `secretBytes` drawn bytes. -/
def ofDraw (key secret : List UInt8) : NewCredential :=
  { key := hex (stamped key), secret := hex secret }

end SecretBroker.NewCredential
