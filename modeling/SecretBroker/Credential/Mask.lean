/-!
# Masked secrets

What a person may see of a secret: the first four characters of one longer than eight, and stars
for the rest; a shorter one shows eight stars, so that only a bound on its length is seen.
-/

namespace SecretBroker.Credential

/-- Characters that a masked secret shows. -/
def shownLength : Nat := 4

/-- A secret of at most this length is hidden altogether. -/
def hiddenLength : Nat := 8

/-- The secret with all but its first characters replaced by stars. -/
def masked (secret : String) : String :=
  let cs := secret.toList
  if cs.length ≤ hiddenLength then String.ofList (List.replicate (max cs.length hiddenLength) '*')
  else String.ofList (cs.take shownLength ++ List.replicate (cs.length - shownLength) '*')

theorem masked_of_short {s : String} (h : s.toList.length ≤ hiddenLength) :
    masked s = String.ofList (List.replicate hiddenLength '*') := by
  simp [masked, h]

end SecretBroker.Credential
