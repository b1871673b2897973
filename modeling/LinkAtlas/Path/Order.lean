import LinkAtlas.Path.Components

namespace LinkAtlas.Path

/-!
# The order of paths

* `Part.order` — the root comes first, then `.`, `..`, and names by their characters;
* `partsOrder` — paths compared component by component, the shorter one first;
* `le` — whether a path may stand before another in that order.
-/

/-- The place of a kind of component. -/
def Part.rank : Part → Nat
  | .root => 0
  | .here => 1
  | .up => 2
  | .name _ => 3

/-- The order of components. -/
def Part.order (a b : Part) : Ordering :=
  (compare a.rank b.rank).then (compare a.text b.text)

/-- The order of component sequences. -/
def partsOrder : List Part → List Part → Ordering
  | [], [] => .eq
  | [], _ :: _ => .lt
  | _ :: _, [] => .gt
  | a :: as, b :: bs => (a.order b).then (partsOrder as bs)

/-- Whether a path may stand before another. -/
def le (a b : String) : Bool := (partsOrder (parts a) (parts b)).isLE

end LinkAtlas.Path
