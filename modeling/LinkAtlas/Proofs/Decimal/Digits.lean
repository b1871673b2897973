import LinkAtlas.Decimal.Text
import LinkAtlas.Decimal.Layout
import Mathlib.Algebra.Group.Nat.Defs
import Mathlib.Data.List.TakeDrop

namespace LinkAtlas.Decimal

/-!
# Digits and the numbers they spell

* `AllDigits` — a text is made of digits;
* `digits_append` — a run of digits is read up to what cannot continue it;
* `ofDigits_natText`, `ofDigits_append`, `ofDigits_zeros` — the numbers of digits that were written;
* `lt_pow_length_natText`, `pow_length_natText_le` — the length of the digits of a number tells its
  size;
* `head?_natText` — a number that is not zero has no leading zero.
-/

/-- A text of digits only. -/
def AllDigits (s : List Char) : Prop := ∀ c ∈ s, isDigit c = true

/-- A text that no digit starts. -/
def StopsDigits (s : List Char) : Prop := ∀ c ∈ s.head?, isDigit c = false

/-- Digits after digits are digits. -/
theorem AllDigits.append {s t : List Char} (hs : AllDigits s) (ht : AllDigits t) :
    AllDigits (s ++ t) :=
  fun c hc => (List.mem_append.mp hc).elim (hs c) (ht c)

/-- A run of digits is read up to what cannot continue it. -/
theorem digits_append {s rest : List Char} (hs : AllDigits s) (hrest : StopsDigits rest) :
    digits (s ++ rest) = (s, rest) := by
  unfold digits
  rw [List.span_eq_takeWhile_dropWhile, List.takeWhile_append_of_pos hs,
    List.dropWhile_append_of_pos hs]
  cases rest with
  | nil => simp
  | cons c rest =>
    have hc : isDigit c = false := hrest c rfl
    simp [hc]

/-! ### Numbers -/

/-- Reading digits is what core does with a base of ten. -/
theorem ofDigits_eq (s : List Char) : ofDigits s = Nat.ofDigitChars 10 s 0 := by
  rw [Nat.ofDigitChars_eq_foldl]
  rfl

/-- A number is written in digits. -/
theorem allDigits_natText (n : Nat) : AllDigits (natText n) := fun _ hc =>
  Nat.isDigit_of_mem_toDigits (by decide) (by decide) hc

@[simp] theorem natText_ne_nil (n : Nat) : natText n ≠ [] := Nat.toDigits_ne_nil

/-- A number that was written is read back. -/
@[simp] theorem ofDigits_natText (n : Nat) : ofDigits (natText n) = n := by
  rw [ofDigits_eq]
  exact Nat.ofDigitChars_ten_toDigits

/-- Digits after others count less, by a power of ten. -/
theorem ofDigits_append (s t : List Char) :
    ofDigits (s ++ t) = 10 ^ t.length * ofDigits s + ofDigits t := by
  rw [ofDigits_eq, ofDigits_eq, ofDigits_eq, Nat.ofDigitChars_append,
    Nat.ofDigitChars_eq_ofDigitChars_zero]

@[simp] theorem ofDigits_zero_cons (s : List Char) : ofDigits ('0' :: s) = ofDigits s := rfl

/-- As many zeros are written as are asked for. -/
@[simp] theorem length_zeros (k : Int) : (zeros k).length = k.toNat := List.length_replicate

/-- Zeros are digits. -/
theorem allDigits_zeros (k : Int) : AllDigits (zeros k) := fun _ hc =>
  (List.mem_replicate.mp hc).2 ▸ rfl

/-- Zeros alone are read as zero. -/
@[simp] theorem ofDigits_zeros (k : Int) : ofDigits (zeros k) = 0 := by
  rw [ofDigits_eq, zeros, Nat.ofDigitChars_replicate_zero, Nat.mul_zero]

/-- A number is below the power of ten with the length of its digits. -/
theorem lt_pow_length_natText (n : Nat) : n < 10 ^ (natText n).length :=
  (Nat.length_toDigits_le_iff (by decide) Nat.length_toDigits_pos).mp (Nat.le_refl _)

/-- A number that is not zero is at least the power of ten with one digit less. -/
theorem pow_length_natText_le {n : Nat} (hn : n ≠ 0) : 10 ^ ((natText n).length - 1) ≤ n := by
  by_contra hlt
  rcases Nat.eq_zero_or_pos ((natText n).length - 1) with hlen | hlen
  · rw [hlen] at hlt
    omega
  · have hle := (Nat.length_toDigits_le_iff (by decide) hlen).mpr (Nat.lt_of_not_le hlt)
    have hpos : 0 < (natText n).length := Nat.length_toDigits_pos
    change (natText n).length ≤ (natText n).length - 1 at hle
    omega

/-- A number that is not zero has no leading zero. -/
theorem head?_natText {n : Nat} (hn : n ≠ 0) : (natText n).head? ≠ some '0' := by
  induction n using Nat.strongRecOn with
  | ind n ih =>
    unfold natText
    -- A number of several digits begins as its tenth does, and a single digit is the number itself.
    rw [Nat.toDigits_eq_if (by decide)]
    split
    · simpa using hn
    · rename_i hge
      have hdiv := ih (n / 10) (Nat.div_lt_self (by omega) (by decide)) (by omega)
      obtain ⟨c, rest, hcons⟩ := List.exists_cons_of_ne_nil (natText_ne_nil (n / 10))
      unfold natText at hdiv hcons
      rw [hcons] at hdiv ⊢
      exact hdiv

end LinkAtlas.Decimal
