import LinkAtlas.Json.Token
import LinkAtlas.Json.Value
import LinkAtlas.Proofs.Decimal.ReadBack

namespace LinkAtlas.Json

/-!
# Numerals

* `Figures` — the parts of a numeral that the reader of JSON admits, with their text;
* `Figures.next?_text` — that text is read as one number, up to what cannot continue it;
* `exists_figures_render` — the text of a decimal has such parts, and they have its size;
* `next?_intText`, `next?_floatText` — so integers and finite doubles are read back.

The layout writes a decimal in one of five ways. All of them are `Figures`, so the reader is looked
at once, and each way only has to keep the size.
-/

open Decimal

/-- A text that cannot continue a numeral. -/
def StopsNumeral (s : List Char) : Prop :=
  ∀ c ∈ s.head?, isDigit c = false ∧ c ≠ '.' ∧ c ≠ 'e' ∧ c ≠ 'E'

/-- What cannot continue a numeral cannot continue its digits. -/
theorem StopsNumeral.stopsDigits {s : List Char} (h : StopsNumeral s) : StopsDigits s :=
  fun c hc => (h c hc).1

/-! ### The parts of a numeral -/

/-- The exponent of a numeral with its mark and sign. -/
def powerText : Option Int → List Char
  | none => []
  | some p => 'e' :: (if p < 0 then [] else ['+']) ++ intText p

/-- The fraction of a numeral with its point. -/
def fractionText : List Char → List Char
  | [] => []
  | c :: fs => '.' :: c :: fs

/-- Digits behind the point are written behind a point. -/
theorem fractionText_of_ne_nil {fs : List Char} (h : fs ≠ []) : fractionText fs = '.' :: fs := by
  cases fs with
  | nil => exact absurd rfl h
  | cons c fs => rfl

/-- The digits before and after the point of a numeral and its exponent. A leading zero stands
    alone. -/
structure Figures where
  whole : List Char
  fraction : List Char
  power : Option Int
  allDigits_whole : AllDigits whole
  whole_ne_nil : whole ≠ []
  noLeadingZero : whole.length ≠ 1 → whole.head? ≠ some '0'
  allDigits_fraction : AllDigits fraction

namespace Figures

/-- The text of a numeral after its sign. -/
def text (f : Figures) : List Char := f.whole ++ fractionText f.fraction ++ powerText f.power

/-- The numeral with a sign. -/
def numeral (f : Figures) (negative : Bool) : Numeral where
  decimal := ⟨negative, ofDigits (f.whole ++ f.fraction), f.power.getD 0 - f.fraction.length⟩
  whole := f.fraction.isEmpty && f.power.isNone

end Figures

/-! ### Reading the parts -/

/-- A power of ten that was written is read back. -/
theorem power?_natText (negative : Bool) (n : ℕ) {rest : List Char} (h : StopsDigits rest) :
    power? negative (natText n ++ rest) = some (some (if negative then -(n : ℤ) else n), rest) := by
  unfold power?
  rw [digits_append (allDigits_natText n) h]
  obtain ⟨c, cs, hcons⟩ := List.exists_cons_of_ne_nil (natText_ne_nil n)
  have hvalue := ofDigits_natText n
  rw [hcons] at hvalue ⊢
  simp [hvalue]

/-- An exponent that was written, or left out, is read back. -/
theorem exponent?_powerText (p : Option Int) {rest : List Char} (h : StopsNumeral rest) :
    exponent? (powerText p ++ rest) = some (p, rest) := by
  cases p with
  | none =>
    cases rest with
    | nil => rfl
    -- What follows does not begin a power.
    | cons c rest =>
      obtain ⟨-, -, he, hE⟩ := h c rfl
      simp [powerText, exponent?, he, hE]
  | some p =>
    by_cases hp : p < 0
    -- The sign of the power is always written, also when it is a plus.
    · have htext : powerText (some p) = 'e' :: '-' :: natText p.natAbs := by
        simp [powerText, intText, hp]
      have hread := power?_natText true p.natAbs h.stopsDigits
      rw [if_pos rfl, show -(p.natAbs : ℤ) = p by omega] at hread
      rw [htext]
      exact hread
    · have htext : powerText (some p) = 'e' :: '+' :: natText p.natAbs := by
        simp [powerText, intText, hp]
      have hread := power?_natText false p.natAbs h.stopsDigits
      rw [if_neg Bool.false_ne_true, show (p.natAbs : ℤ) = p by omega] at hread
      rw [htext]
      exact hread

/-- An exponent does not continue the digits before it. -/
theorem stopsDigits_powerText (p : Option Int) {rest : List Char} (h : StopsNumeral rest) :
    StopsDigits (powerText p ++ rest) := by
  cases p with
  | none => exact h.stopsDigits
  | some p =>
    intro c hc
    obtain rfl : 'e' = c := Option.some.inj hc
    rfl

/-- Digits behind the point that were written, or left out, are read back. -/
theorem fraction?_fractionText {fs rest : List Char} (hfs : AllDigits fs) (h : StopsDigits rest)
    (hpoint : rest.head? ≠ some '.') :
    fraction? (fractionText fs ++ rest) = some (fs, rest) := by
  cases fs with
  | nil =>
    cases rest with
    | nil => rfl
    | cons c rest =>
      have hc : c ≠ '.' := fun hc => hpoint (hc ▸ rfl)
      simp [fractionText, fraction?, hc]
  | cons c fs =>
    rw [fractionText_of_ne_nil (List.cons_ne_nil _ _), List.cons_append, fraction?,
      digits_append hfs h]

namespace Figures

/-- The text of a numeral is read up to what cannot continue it. -/
theorem numeral?_text (f : Figures) (negative : Bool) {rest : List Char} (h : StopsNumeral rest) :
    numeral? negative (f.text ++ rest) = some (f.numeral negative, rest) := by
  have hpower := stopsDigits_powerText f.power h
  have hpoint : (powerText f.power ++ rest).head? ≠ some '.' := by
    -- A point belongs to the fraction only, since neither a power nor what follows begins with one.
    intro hc
    cases hp : f.power with
    | none =>
      rw [hp] at hc
      exact (h '.' hc).2.1 rfl
    | some p =>
      rw [hp] at hc
      cases hc
  have hfraction := fraction?_fractionText f.allDigits_fraction hpower hpoint
  -- The whole part ends at the point, at the power, or where the numeral ends.
  have hstops : StopsDigits (fractionText f.fraction ++ (powerText f.power ++ rest)) := by
    cases hf : f.fraction with
    | nil => exact hpower
    | cons c fs =>
      intro c hc
      obtain rfl : '.' = c := Option.some.inj hc
      rfl
  obtain ⟨d, ds, hcons⟩ := List.exists_cons_of_ne_nil f.whole_ne_nil
  have hzero : ¬ ((d :: ds).length ≠ 1 ∧ (d :: ds).head? = some '0') := by
    rw [← hcons]
    exact fun hz => f.noLeadingZero hz.1 hz.2
  have hdigits := digits_append f.allDigits_whole hstops
  unfold numeral? text numeral
  rw [List.append_assoc, List.append_assoc, hdigits, hcons]
  simp only [hzero, if_false, hfraction, exponent?_powerText f.power h]

end Figures

/-- A token that starts with a digit is a numeral. -/
theorem next?_of_isDigit {c : Char} (hc : isDigit c = true) (rest : List Char) :
    Token.next? (c :: rest) =
      (numeral? false (c :: rest)).map fun (n, rest) => (.number n, rest) := by
  unfold Token.next?
  split
  case h_12 => rfl
  all_goals
    rename_i heq
    obtain ⟨rfl, -⟩ := List.cons.inj heq
    exact absurd hc (by decide)

/-- A sign before a numeral. -/
def signText (negative : Bool) : List Char := if negative then ['-'] else []

/-- The text of a numeral with its sign is read as one token. -/
theorem Figures.next?_text (f : Figures) (negative : Bool) {rest : List Char}
    (h : StopsNumeral rest) :
    Token.next? (signText negative ++ f.text ++ rest) =
      some (.number (f.numeral negative), rest) := by
  have hread := f.numeral?_text negative h
  cases negative with
  | true =>
    show (numeral? true (f.text ++ rest)).map _ = _
    rw [hread]
    rfl
  | false =>
    obtain ⟨d, ds, hcons⟩ := List.exists_cons_of_ne_nil f.whole_ne_nil
    have hd : isDigit d = true := f.allDigits_whole d (hcons ▸ List.mem_cons_self)
    have htext : f.text = d :: (ds ++ fractionText f.fraction ++ powerText f.power) := by
      rw [text, hcons]
      rfl
    rw [htext] at hread ⊢
    show Token.next? (d :: _) = _
    rw [next?_of_isDigit hd]
    exact congrArg _ hread

/-! ### Integers -/

/-- The parts of a natural number. -/
def Figures.ofNat (n : ℕ) : Figures where
  whole := natText n
  fraction := []
  power := none
  allDigits_whole := allDigits_natText n
  whole_ne_nil := natText_ne_nil n
  noLeadingZero := by
    intro hlen
    refine head?_natText ?_
    rintro rfl
    exact hlen rfl
  allDigits_fraction := fun _ hc => absurd hc List.not_mem_nil

/-- An integer that was written is read back as one token. -/
theorem next?_intText (n : ℤ) {rest : List Char} (h : StopsNumeral rest) :
    Token.next? (intText n ++ rest) =
      some (.number ⟨⟨decide (n < 0), n.natAbs, 0⟩, true⟩, rest) := by
  have htext : intText n = signText (decide (n < 0)) ++ (Figures.ofNat n.natAbs).text := by
    by_cases hn : n < 0 <;>
      simp [intText, signText, Figures.text, Figures.ofNat, fractionText, powerText, hn]
  rw [htext, Figures.next?_text _ _ h]
  simp [Figures.numeral, Figures.ofNat]

/-! ### Decimals -/

/-- Parts that fit together are those of a numeral, whose size they tell. -/
private theorem exists_figures (whole fraction : List Char) (power : Option ℤ)
    (hwhole : AllDigits whole) (hne : whole ≠ [])
    (hzero : whole.length ≠ 1 → whole.head? ≠ some '0') (hfraction : AllDigits fraction) :
    ∃ f : Figures, f.text = whole ++ fractionText fraction ++ powerText power ∧
      ∀ negative, (f.numeral negative).decimal.size =
        ofDigits (whole ++ fraction) * 10 ^ (power.getD 0 - fraction.length) :=
  ⟨⟨whole, fraction, power, hwhole, hne, hzero, hfraction⟩, rfl, fun _ => rfl⟩

/-- A zero is a digit. -/
private theorem allDigits_zero : AllDigits ['0'] := by
  intro c hc
  rw [List.mem_singleton.mp hc]
  rfl

section Render

variable {d : Decimal}

/-- A whole number: the digits, the zeros that are missing, and a zero after the point. -/
private theorem exists_figures_whole (hd : d.coefficient ≠ 0) (hexp : 0 ≤ d.exponent) :
    ∃ f : Figures, f.text = natText d.coefficient ++ zeros d.exponent ++ ['.', '0'] ∧
      ∀ negative, (f.numeral negative).decimal.size = d.size := by
  -- The coefficient has no zero in front, and the zeros are written behind it.
  have hhead : (natText d.coefficient ++ zeros d.exponent).head? ≠ some '0' := by
    rw [List.head?_append_of_ne_nil _ (natText_ne_nil d.coefficient)]
    exact head?_natText hd
  obtain ⟨f, htext, hsize⟩ := exists_figures _ _ none
    ((allDigits_natText d.coefficient).append (allDigits_zeros d.exponent)) (by simp)
    (fun _ => hhead) allDigits_zero
  refine ⟨f, ?_, fun negative => ?_⟩
  · simp [htext, fractionText, powerText]
  · obtain ⟨n, hn⟩ := Int.eq_ofNat_of_zero_le hexp
    have hdigit : ofDigits ['0'] = 0 := rfl
    rw [hsize, ofDigits_append, ofDigits_append, ofDigits_natText, ofDigits_zeros, hdigit,
      Decimal.size, hn]
    simp
    ring

/-- A point between the digits. -/
private theorem exists_figures_point (hd : d.coefficient ≠ 0) (hexp : d.exponent < 0) {point : ℤ}
    (hpoint : point = (natText d.coefficient).length + d.exponent) (hpos : 0 < point) :
    ∃ f : Figures, f.text = (natText d.coefficient).take point.toNat ++
        '.' :: (natText d.coefficient).drop point.toNat ∧
      ∀ negative, (f.numeral negative).decimal.size = d.size := by
  obtain ⟨k, hk⟩ : ∃ k, point.toNat = k + 1 := ⟨point.toNat - 1, by omega⟩
  have hall := allDigits_natText d.coefficient
  -- The point stands inside the digits, so the whole part begins as they do.
  have hhead : ((natText d.coefficient).take point.toNat).head? ≠ some '0' := by
    rw [List.head?_take, if_neg (by omega)]
    exact head?_natText hd
  have hlen : ((natText d.coefficient).drop point.toNat).length = (-d.exponent).toNat := by
    rw [List.length_drop]
    omega
  obtain ⟨f, htext, hsize⟩ := exists_figures _ _ none
    (fun c hc => hall c (List.mem_of_mem_take hc)) (by simp [hk])
    (fun _ => hhead) (fun c hc => hall c (List.mem_of_mem_drop hc))
  refine ⟨f, ?_, fun negative => ?_⟩
  · have hne : (natText d.coefficient).drop point.toNat ≠ [] :=
      List.ne_nil_of_length_pos (by omega)
    rw [htext, fractionText_of_ne_nil hne]
    simp [powerText]
  · rw [hsize, List.take_append_drop, ofDigits_natText, hlen, Decimal.size]
    congr 2
    simp
    omega

/-- Zeros between the point and the digits. -/
private theorem exists_figures_zeros {point : ℤ}
    (hpoint : point = (natText d.coefficient).length + d.exponent) (hpos : point ≤ 0) :
    ∃ f : Figures, f.text = '0' :: '.' :: zeros (-point) ++ natText d.coefficient ∧
      ∀ negative, (f.numeral negative).decimal.size = d.size := by
  -- The coefficient is all behind the point, with zeros between them.
  obtain ⟨f, htext, hsize⟩ := exists_figures _ _ none allDigits_zero (by simp)
    (fun h => absurd rfl h) ((allDigits_zeros (-point)).append (allDigits_natText d.coefficient))
  refine ⟨f, ?_, fun negative => ?_⟩
  · rw [htext, fractionText_of_ne_nil (by simp)]
    simp [powerText]
  · rw [hsize, List.singleton_append, ofDigits_zero_cons, ofDigits_append, ofDigits_zeros,
      ofDigits_natText, Decimal.size]
    simp
    omega

/-- An exponent. -/
private theorem exists_figures_power {point : ℤ}
    (hpoint : point = (natText d.coefficient).length + d.exponent) :
    ∃ f : Figures, f.text = (match natText d.coefficient with
        | [] => []
        | [x] => [x]
        | x :: rest => x :: '.' :: rest) ++ powerText (some (point - 1)) ∧
      ∀ negative, (f.numeral negative).decimal.size = d.size := by
  obtain ⟨x, ds, hcons⟩ := List.exists_cons_of_ne_nil (natText_ne_nil d.coefficient)
  have hall := allDigits_natText d.coefficient
  have hvalue := ofDigits_natText d.coefficient
  rw [hcons] at hall hvalue hpoint ⊢
  rw [List.length_cons] at hpoint
  obtain ⟨f, htext, hsize⟩ := exists_figures [x] ds (some (point - 1))
    (fun c hc => hall c (List.mem_singleton.mp hc ▸ List.mem_cons_self)) (by simp)
    (fun h => absurd rfl h) (fun c hc => hall c (List.mem_cons_of_mem _ hc))
  refine ⟨f, ?_, fun negative => ?_⟩
  · rw [htext]
    cases ds <;> rfl
  · rw [hsize, List.singleton_append, hvalue, Decimal.size]
    congr 2
    simp
    omega

end Render

/-- The text of a decimal has the parts of a numeral, and they have its size. -/
theorem exists_figures_render (d : Decimal) :
    ∃ f : Figures, numberLayout.render d = signText d.negative ++ f.text ∧
      ∀ negative, (f.numeral negative).decimal.size = d.size := by
  unfold Layout.render
  extract_lets sign digits point mantissa power body
  suffices h : ∃ f : Figures, f.text = body ∧
      ∀ negative, (f.numeral negative).decimal.size = d.size by
    obtain ⟨f, htext, hsize⟩ := h
    exact ⟨f, by rw [htext]; rfl, hsize⟩
  by_cases hd : d.coefficient = 0
  · obtain ⟨f, htext, hsize⟩ := exists_figures ['0'] ['0'] none allDigits_zero (by simp)
      (fun h => absurd rfl h) allDigits_zero
    refine ⟨f, htext.trans (if_pos hd).symm, fun negative => ?_⟩
    have hzero : ofDigits (['0'] ++ ['0']) = 0 := rfl
    rw [hsize, hzero, Decimal.size, hd]
    simp
  · -- The four layouts, by where the point falls among the digits.
    have hpoint : point = (natText d.coefficient).length + d.exponent := rfl
    have hbody : body = _ := if_neg hd
    rw [hbody]
    split
    · rename_i h
      simp only [Bool.and_eq_true, decide_eq_true_iff] at h
      exact exists_figures_whole hd h.1
    · rename_i hwhole
      simp only [Bool.and_eq_true, decide_eq_true_iff] at hwhole
      split
      · rename_i h
        simp only [Bool.and_eq_true, decide_eq_true_iff] at h
        exact exists_figures_point hd (by omega) hpoint h.1
      · split
        · rename_i h
          simp only [Bool.and_eq_true, decide_eq_true_iff] at h
          exact exists_figures_zeros hpoint h.2
        · obtain ⟨f, htext, hsize⟩ := exists_figures_power hpoint
          refine ⟨f, ?_, hsize⟩
          rw [htext, List.append_assoc]
          rfl

/-! ### Doubles -/

/-- The token that the text of a double is read as. -/
def floatToken (x : Float) : Token := ((Token.next? (floatText x)).map (·.1)).getD .null

/-- The text of a finite double is read as a number, and the number as the double. -/
theorem exists_numeral_floatText {x : Float} (hx : x.isFinite = true) :
    ∃ n : Numeral, n.decimal.toFloat? = some x ∧
      ∀ rest, StopsNumeral rest → Token.next? (floatText x ++ rest) = some (.number n, rest) := by
  rw [← magnitude?_isSome, Option.isSome_iff_exists] at hx
  obtain ⟨m, hm⟩ := hx
  obtain ⟨f, htext, hsize⟩ := exists_figures_render (shortest (isNegative x) m)
  rw [shortest_negative] at htext
  refine ⟨f.numeral (isNegative x), toFloat?_of_size_eq hm rfl (hsize _), fun rest h => ?_⟩
  rw [floatText, hm]
  simp only
  rw [htext, f.next?_text _ h]

/-- The end of a text continues no numeral. -/
theorem stopsNumeral_nil : StopsNumeral [] := fun _ hc => by cases hc

/-- The token of a finite double is a numeral that is read as the double. -/
theorem exists_floatToken {x : Float} (hx : x.isFinite = true) :
    ∃ n : Numeral, floatToken x = .number n ∧ n.decimal.toFloat? = some x := by
  obtain ⟨n, hn, hread⟩ := exists_numeral_floatText hx
  have hnil := hread [] stopsNumeral_nil
  rw [List.append_nil] at hnil
  exact ⟨n, by rw [floatToken, hnil]; rfl, hn⟩

/-- What is not finite is written as null. -/
theorem floatText_of_not_isFinite {x : Float} (hx : ¬ x.isFinite = true) :
    floatText x = ['n', 'u', 'l', 'l'] := by
  have hnone : magnitude? x = none := by
    rw [← Option.not_isSome_iff_eq_none, magnitude?_isSome]
    exact hx
  rw [floatText, hnone]
  rfl

/-- A double that is not finite has no numeral. -/
theorem floatToken_of_not_isFinite {x : Float} (hx : ¬ x.isFinite = true) :
    floatToken x = .null := by
  rw [floatToken, floatText_of_not_isFinite hx]
  rfl

/-- The text of a double is read as one token, whatever the double. -/
theorem next?_floatText (x : Float) {rest : List Char} (h : StopsNumeral rest) :
    Token.next? (floatText x ++ rest) = some (floatToken x, rest) := by
  by_cases hx : x.isFinite = true
  · obtain ⟨n, -, hread⟩ := exists_numeral_floatText hx
    have hnil := hread [] stopsNumeral_nil
    rw [List.append_nil] at hnil
    rw [hread rest h, floatToken, hnil]
    rfl
  · rw [floatToken_of_not_isFinite hx, floatText_of_not_isFinite hx]
    rfl

end LinkAtlas.Json
