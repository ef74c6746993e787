import SecretBroker.Text.Digits

/-!
# Tables written as text

A table of numbers in base sixteen: blanks stand between the numbers of a row and semicolons between
rows. The rows ascend by their first numbers, so that the row for a number is the last one that
begins with at most it.
-/

namespace SecretBroker.Unicode

/-- The words between blanks and line breaks. -/
def words (cs : List Char) : List (List Char) :=
  (cs.splitOnP fun c => c == ' ' || c == '\n').filter (!·.isEmpty)

/-- The numbers of one row. -/
def row (cs : List Char) : List Nat := (words cs).filterMap (Text.numberIn? 16)

/-- The numbers of a table without rows. -/
def numbers (text : String) : Array Nat := (row text.toList).toArray

/-- The rows of a table. -/
def rows (text : String) : Array (List Nat) := ((text.toList.splitOn ';').map row).toArray

/-- How many rows between `lo` and `hi` begin with at most `n`, counted from the start, by
halving. -/
def rowsUpTo (table : Array (List Nat)) (n lo hi : Nat) : Nat :=
  if lo < hi then
    let mid := (lo + hi) / 2
    if (table.getD mid []).headD 0 ≤ n then rowsUpTo table n (mid + 1) hi
    else rowsUpTo table n lo mid
  else lo
termination_by hi - lo

/-- The row for a number; empty before the first. -/
def rowFor (table : Array (List Nat)) (n : Nat) : List Nat :=
  match rowsUpTo table n 0 table.size with
  | 0 => []
  | i + 1 => table.getD i []

end SecretBroker.Unicode
