/-!
Sets of code points given by sorted, disjoint ranges.
-/

namespace BrowserFlow.Text

/-- Looks for a range that holds `n` among those from `low` up to `high`. -/
def searchRanges (ranges : Array (Nat × Nat)) (n : Nat) : Nat → Nat → Nat → Bool
  | 0, _, _ => false
  | fuel + 1, low, high =>
    if low < high then
      let middle := (low + high) / 2
      match ranges[middle]? with
      | none => false
      | some (first, last) =>
        if n < first then searchRanges ranges n fuel low middle
        else if last < n then searchRanges ranges n fuel (middle + 1) high
        else true
    else false

def inRanges (ranges : Array (Nat × Nat)) (n : Nat) : Bool :=
  searchRanges ranges n ranges.size 0 ranges.size

end BrowserFlow.Text
