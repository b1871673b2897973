namespace LinkAtlas.Text

/-!
# Sets of code points as ascending ranges

* `CodeRanges.contains` — membership, by a walk that stops at the first range above the point.
-/

/-- A set of code points: closed ranges in ascending order. -/
abbrev CodeRanges := List (Nat × Nat)

/-- Whether a code point lies in one of the ranges. -/
def CodeRanges.contains : CodeRanges → Nat → Bool
  | [], _ => false
  | (lo, hi) :: rest, n => if n < lo then false else n ≤ hi || contains rest n

end LinkAtlas.Text
