import SecretBroker.Decimal.Shortest

/-!
# Decimal texts

Two ways to write a number. `general` writes the shortest decimal that reads back, with a point in
it where the first digit stands between `10 ^ -5` and `10 ^ 15` and with a power of ten otherwise.
`fixed` writes a given count of places, the value rounded to the nearest, a tie to the even digit.
-/

namespace SecretBroker.Decimal

/-- The general text of a decimal. -/
def Scientific.general (x : Scientific) : String :=
  let ds := toString x.digits
  let count := ds.length
  let first : Int := x.exponent + count - 1
  if x.digits = 0 then "0.0"
  else if -5 ≤ first ∧ first ≤ 15 then
    if 0 ≤ x.exponent then ds ++ String.ofList (List.replicate x.exponent.toNat '0') ++ ".0"
    else if 0 ≤ first then
      let whole := first.toNat + 1
      String.ofList (ds.toList.take whole) ++ "." ++ String.ofList (ds.toList.drop whole)
    else "0." ++ String.ofList (List.replicate ((-first).toNat - 1) '0') ++ ds
  else
    let rest := ds.toList.drop 1
    String.ofList (ds.toList.take 1) ++ (if rest.isEmpty then "" else "." ++ String.ofList rest)
      ++ "e" ++ (if first < 0 then "-" else "+") ++ toString first.natAbs

/-- The text of `num / den` with this many places after the point. -/
def fixed (num den places : Nat) : String :=
  let scaled := roundDiv (num * 10 ^ places) den
  let part := toString (scaled % 10 ^ places)
  toString (scaled / 10 ^ places) ++ "."
    ++ String.ofList (List.replicate (places - part.length) '0') ++ part

end SecretBroker.Decimal
