/-!
This module contains sets of code points, stored as ranges and searched by bisection.
-/

namespace DirectedMarkdown

/-- A set of code points, given by ascending and disjoint ranges with both ends included. -/
structure CodePointSet where
  ranges : Array (Nat × Nat)

namespace CodePointSet

/-- Whether the code point `c` lies in one of the ranges. -/
def contains (s : CodePointSet) (c : Nat) : Bool :=
  go 0 s.ranges.size
where
  go (low high : Nat) : Bool :=
    if _h : low < high then
      let middle := (low + high) / 2
      match s.ranges[middle]? with
      | none => false
      | some (first, last) =>
        if c < first then go low middle
        else if last < c then go (middle + 1) high
        else true
    else
      false
  termination_by high - low

end CodePointSet

end DirectedMarkdown
