import Mathlib.Data.List.Basic

namespace LinkAtlas.Text

/-!
# Equals signs that are out of sight

An equals sign in a text is content to a reader, unless a comment, a tag or a directive starts before
it on its line.

* `isVeil` — the characters that start these;
* `veilsEquals` — whether every equals sign of a text stands behind one of them on its line;
* `veilsEquals_append`, `veilsEquals_of_newline` — texts put together, and the lines of a text;
* `isNeutral`, `veilsEquals_neutral` — characters that neither are equals signs nor veil any.
-/

/-- The mark of a comment, a tag or a directive. -/
def isVeil (c : Char) : Bool := c == '#' || c == '!' || c == '%'

/-- Whether every equals sign of a text stands behind a veil on its line. The first argument says that
    one stands before the text already. -/
def veilsEquals : Bool → List Char → Bool
  | _, [] => true
  | veiled, c :: s => (c != '=' || veiled) && veilsEquals (c != '\n' && (veiled || isVeil c)) s

/-- A character that is no equals sign and no veil, and ends no line. -/
def isNeutral (c : Char) : Bool := c != '=' && c != '\n' && ! isVeil c

variable {veiled veiled' : Bool} {s t : List Char} {c : Char}

/-- What is veiled stays so if more characters before it veil. -/
theorem veilsEquals_mono (h : veilsEquals veiled s = true) (hle : veiled = true → veiled' = true) :
    veilsEquals veiled' s = true := by
  induction s generalizing veiled veiled' with
  | nil => rfl
  | cons c s ih =>
    simp only [veilsEquals, Bool.and_eq_true, Bool.or_eq_true] at h ⊢
    refine ⟨h.1.imp_right hle, ih h.2 fun hc => ?_⟩
    simp only [Bool.and_eq_true, Bool.or_eq_true] at hc ⊢
    exact ⟨hc.1, hc.2.imp_left hle⟩

/-- Two texts that veil their equals signs do so one after the other. -/
theorem veilsEquals_append (hs : veilsEquals veiled s = true) (ht : veilsEquals false t = true) :
    veilsEquals veiled (s ++ t) = true := by
  induction s generalizing veiled with
  | nil => exact veilsEquals_mono ht nofun
  | cons c s ih =>
    simp only [List.cons_append, veilsEquals, Bool.and_eq_true] at hs ⊢
    exact ⟨hs.1, ih hs.2⟩

/-- A text without equals signs has none to veil. -/
theorem veilsEquals_of_notMem (h : '=' ∉ s) : veilsEquals veiled s = true := by
  induction s generalizing veiled with
  | nil => rfl
  | cons c s ih =>
    rw [List.mem_cons, not_or] at h
    simp only [veilsEquals, Bool.and_eq_true, Bool.or_eq_true, bne_iff_ne]
    exact ⟨.inl (Ne.symm h.1), ih h.2⟩

/-- Behind a veil nothing of a line is content. -/
theorem veilsEquals_cons (hc : isVeil c = true) (h : '\n' ∉ s) :
    veilsEquals veiled (c :: s) = true := by
  -- Behind a veil all is veiled up to the next line.
  have hrest : ∀ s : List Char, '\n' ∉ s → veilsEquals true s = true := by
    intro s h
    induction s with
    | nil => rfl
    | cons d s ih =>
      rw [List.mem_cons, not_or] at h
      have hd : (d != '\n') = true := bne_iff_ne.mpr (Ne.symm h.1)
      simp only [veilsEquals, hd, Bool.or_true, Bool.true_or, Bool.true_and]
      exact ih h.2
  have hne : c ≠ '=' ∧ c ≠ '\n' := by
    constructor <;> rintro rfl <;> exact absurd hc (by decide)
  simp only [veilsEquals, bne_iff_ne.mpr hne.1, bne_iff_ne.mpr hne.2, hc, Bool.or_true, Bool.true_or,
    Bool.true_and]
  exact hrest s h

/-- No veil reaches beyond its line. -/
theorem veilsEquals_of_newline (h : veilsEquals veiled (s ++ '\n' :: t) = true) :
    veilsEquals false t = true := by
  induction s generalizing veiled with
  | nil =>
    simp only [List.nil_append, veilsEquals, Bool.and_eq_true] at h
    exact h.2
  | cons c s ih =>
    simp only [List.cons_append, veilsEquals, Bool.and_eq_true] at h
    exact ih h.2

/-- Neutral characters neither veil what follows them nor bare it. -/
theorem veilsEquals_neutral (hs : s.all isNeutral = true) :
    veilsEquals veiled (s ++ t) = veilsEquals veiled t := by
  induction s with
  | nil => rfl
  | cons c s ih =>
    simp only [List.all_cons, isNeutral, Bool.and_eq_true, Bool.not_eq_true'] at hs
    obtain ⟨⟨⟨hequals, hnewline⟩, hveil⟩, hs⟩ := hs
    simp only [List.cons_append, veilsEquals, hequals, hnewline, hveil, Bool.true_or, Bool.true_and,
      Bool.or_false]
    exact ih hs

end LinkAtlas.Text
