import LinkAtlas.Path.Order
import Mathlib.Data.List.Basic

namespace LinkAtlas.Path

/-!
# Sorting paths

Paths are compared component by component, so two paths that may stand in either order have the same
components. A sorted list of different paths is strictly ascending.

* `partsOrder_eq_compareLex` — the order of component sequences is lexicographic;
* `le_trans`, `le_total` — any paths can be sorted;
* `pairwise_lt_mergeSort` — different ones come out strictly ascending.
-/

/-- A component is told by its sort and its text. -/
theorem Part.eq_of_rank_of_text {a b : Part} (hrank : a.rank = b.rank) (htext : a.text = b.text) :
    a = b := by
  cases a <;> cases b <;> simp_all [rank, text]

instance : Std.TransCmp Part.order :=
  inferInstanceAs (Std.TransCmp (compareLex (compareOn Part.rank) (compareOn Part.text)))

instance : Std.LawfulEqCmp Part.order where
  eq_of_compare {a b} h := by
    obtain ⟨hrank, htext⟩ := Ordering.then_eq_eq.mp h
    exact Part.eq_of_rank_of_text (Std.LawfulEqCmp.eq_of_compare hrank)
      (Std.LawfulEqCmp.eq_of_compare htext)

/-- Component sequences are compared as words are in a dictionary. -/
theorem partsOrder_eq_compareLex : partsOrder = List.compareLex Part.order := by
  funext ps qs
  induction ps generalizing qs with
  | nil => cases qs <;> rfl
  | cons p ps ih =>
    cases qs with
    | nil => rfl
    | cons q qs =>
      rw [partsOrder, List.compareLex_cons_cons, ih]

instance : Std.TransCmp partsOrder :=
  partsOrder_eq_compareLex ▸ inferInstanceAs (Std.TransCmp (List.compareLex Part.order))

instance : Std.LawfulEqCmp partsOrder :=
  partsOrder_eq_compareLex ▸ inferInstanceAs (Std.LawfulEqCmp (List.compareLex Part.order))

/-- The order of paths is transitive. -/
theorem le_trans (p q r : String) (hpq : le p q = true) (hqr : le q r = true) : le p r = true :=
  Std.TransCmp.isLE_trans hpq hqr

/-- Of two paths one may stand before the other. -/
theorem le_total (p q : String) : (le p q || le q p) = true := by
  have hswap : partsOrder (parts q) (parts p) = (partsOrder (parts p) (parts q)).swap :=
    Std.OrientedCmp.eq_swap
  rw [le, le, hswap]
  cases partsOrder (parts p) (parts q) <;> rfl

/-- Sorting paths with different components leaves them strictly ascending. -/
theorem pairwise_lt_mergeSort {ps : List String} (h : (ps.map parts).Nodup) :
    (ps.mergeSort le).Pairwise fun p q => partsOrder (parts p) (parts q) = .lt := by
  have hne : (ps.mergeSort le).Pairwise fun p q => parts p ≠ parts q :=
    List.pairwise_map.mp (((List.mergeSort_perm ps le).map parts).nodup_iff.mpr h)
  refine ((List.pairwise_mergeSort le_trans le_total ps).and hne).imp fun {p q} => ?_
  rintro ⟨hle, hne⟩
  rcases Ordering.isLE_iff_eq_lt_or_eq_eq.mp hle with hlt | heq
  · exact hlt
  · exact absurd (Std.LawfulEqCmp.eq_of_compare heq) hne

end LinkAtlas.Path
