import LinkAtlas.Proofs.Lookup
import LinkAtlas.Proofs.SmallLetters

namespace LinkAtlas.Text

/-!
# Separators within a title

Blanks and punctuation are left out of a spelling, but not before the text is in small letters, and
what the small letter of a capital sigma is depends on the letters around it. A separator that cuts
a word beside a sigma can therefore change the spelling, from one form of the small sigma to the
other. It does nothing else, and elsewhere it does nothing at all.

* `isSeparator` — the characters that are left out; `isSpellingChar_of_isCased` — none of them has a
  case;
* `meetsCased_cons`, `meetsCased_append` — what is met first beyond the characters that are passed
  over;
* `spellingBetween` — what a part of a text adds to the spelling, by what stands before and after
  it; `spellingBetween_append`, `spellingBetween_congr`;
* `EndsInSigma`, `StartsInSigma` — the sigmas whose form hangs on the text behind and in front;
  `spellingBetween_eq_iff_after`, `spellingBetween_eq_iff_before`;
* `spellingKey_separated` — when a separator changes a spelling, and how little.
-/

/-! ### Separators -/

/-- Whether a character is a blank, or neither a letter nor a digit nor a hyphen. -/
def isSeparator (c : Char) : Bool := isBlank c || ! isSpellingChar c

/-- A separator is a character that spellings leave out. -/
theorem isSeparator_iff {c : Char} : isSeparator c = true ↔ isSpellingChar c = false := by
  rw [isSeparator, Bool.or_eq_true, Bool.not_eq_true']
  exact or_iff_right_of_imp isSpellingChar_of_isBlank

namespace CodeRanges

/-- Whether every range of the second set lies within one of the first. As both are ascending, what
    lies below one range of the second set is not looked at again for the next. -/
def enclose : CodeRanges → CodeRanges → Bool
  | _, [] => true
  | ranges, (lo, hi) :: others =>
    match ranges.dropWhile (·.2.blt lo) with
    | [] => false
    | range :: rest => range.1.ble lo && hi.ble range.2 && enclose (range :: rest) others

/-- Each of the enclosed ranges lies in one of the others. -/
theorem exists_of_enclose {ranges others : CodeRanges} (h : ranges.enclose others = true) :
    ∀ r ∈ others, ∃ q ∈ ranges, q.1 ≤ r.1 ∧ r.2 ≤ q.2 := by
  induction others generalizing ranges with
  | nil => simp
  | cons first others ih =>
    rw [enclose] at h
    split at h
    · exact nomatch h
    · rename_i range rest hrest
      -- What the search has dropped is not looked at again, and what is left is a part of `ranges`.
      have hsuffix : range :: rest <:+ ranges := hrest ▸ List.dropWhile_suffix _
      simp only [Bool.and_eq_true, Nat.ble_eq] at h
      obtain ⟨⟨hlo, hhi⟩, h⟩ := h
      intro r hr
      rcases List.mem_cons.mp hr with rfl | hr
      · exact ⟨range, hsuffix.subset List.mem_cons_self, hlo, hhi⟩
      · obtain ⟨q, hq, hwithin⟩ := ih h r hr
        exact ⟨q, hsuffix.subset hq, hwithin⟩

/-- Where ranges ascend, the walk comes to each of them. -/
theorem contains_of_mem {ranges : CodeRanges} (h : ranges.Pairwise fun q r => q.1 ≤ r.1)
    {q : Nat × Nat} (hq : q ∈ ranges) {n : Nat} (hlo : q.1 ≤ n) (hhi : n ≤ q.2) :
    ranges.contains n = true := by
  induction ranges with
  | nil => exact nomatch hq
  | cons range rest ih =>
    obtain ⟨hfirst, hrest⟩ := List.pairwise_cons.mp h
    rcases List.mem_cons.mp hq with rfl | hq
    · rw [contains, if_neg (by omega)]
      simp [hhi]
    · have hle : range.1 ≤ q.1 := hfirst q hq
      rw [contains, if_neg (by omega), ih hrest hq, Bool.or_true]

/-- A number in some ranges lies in one of them. -/
theorem exists_of_contains {ranges : CodeRanges} {n : Nat} (h : ranges.contains n = true) :
    ∃ range ∈ ranges, range.1 ≤ n ∧ n ≤ range.2 := by
  induction ranges with
  | nil => exact nomatch h
  | cons range rest ih =>
    obtain ⟨first, last⟩ := range
    unfold contains at h
    split at h
    · exact nomatch h
    · rename_i hfirst
      simp only [Bool.or_eq_true, decide_eq_true_eq] at h
      rcases h with hlast | h
      · exact ⟨(first, last), List.mem_cons_self, Nat.not_lt.mp hfirst, hlast⟩
      · obtain ⟨range, hrange, hn⟩ := ih h
        exact ⟨range, List.mem_cons_of_mem _ hrange, hn⟩

end CodeRanges

/-- The table of letters and digits ascends. -/
theorem ascending_alphanumericRanges : alphanumericRanges.Pairwise fun q r => q.1 ≤ r.1 := by
  have hchain : alphanumericRanges.IsChain fun q r => q.1 ≤ r.1 := by decide +kernel
  exact List.isChain_iff_pairwise.mp hchain

/-- Beyond ASCII, characters with a case are letters or digits by the tables. -/
theorem enclose_casedRanges :
    alphanumericRanges.enclose (casedRanges.filter (0x80 ≤ ·.2)) = true := by decide +kernel

/-- So they are in ASCII. -/
theorem isAlphanum_of_isCased {c : Char} (hc : c.toNat < 0x80) :
    isCased c = true → c.isAlphanum = true := by
  apply of_toNat_lt _ hc
  decide +kernel

/-- A character with a case is a letter. Below 128 this is tried for each character, and above it
    the letters enclose the characters with a case. -/
theorem isAlphanumeric_of_isCased {c : Char} (h : isCased c = true) : isAlphanumeric c = true := by
  rw [isAlphanumeric]
  split
  · rename_i hascii
    exact isAlphanum_of_isCased hascii h
  · obtain ⟨range, hrange, hfirst, hlast⟩ := CodeRanges.exists_of_contains h
    have hmem : range ∈ casedRanges.filter (0x80 ≤ ·.2) :=
      List.mem_filter.mpr ⟨hrange, by simpa using (by omega : 0x80 ≤ range.2)⟩
    obtain ⟨wide, hwide, hlo, hhi⟩ := CodeRanges.exists_of_enclose enclose_casedRanges range hmem
    exact CodeRanges.contains_of_mem ascending_alphanumericRanges hwide (by omega) (by omega)

/-- A character with a case counts for spellings. -/
theorem isSpellingChar_of_isCased {c : Char} (h : isCased c = true) : isSpellingChar c = true := by
  rw [isSpellingChar, isAlphanumeric_of_isCased h, Bool.true_or]

/-! ### What is met first -/

/-- Characters that are ignored for case do not decide what is met next. -/
theorem meetsCased_cons (c : Char) (s : List Char) :
    meetsCased (c :: s) = if isCaseIgnorable c then meetsCased s else isCased c := by
  by_cases hc : isCaseIgnorable c = true <;> simp [meetsCased, hc]

/-- Only if all of the first text is passed over, the second one is looked at. -/
theorem meetsCased_append (s t : List Char) :
    meetsCased (s ++ t) = if s.all isCaseIgnorable then meetsCased t else meetsCased s := by
  induction s with
  | nil => rfl
  | cons c s ih =>
    rw [List.cons_append, meetsCased_cons, meetsCased_cons, ih, List.all_cons]
    by_cases hc : isCaseIgnorable c = true <;> simp [hc]

/-- Separators have no case. -/
theorem meetsCased_separators {s : List Char} (h : ∀ c ∈ s, isSeparator c = true) :
    meetsCased s = false := by
  induction s with
  | nil => rfl
  | cons c s ih =>
    obtain ⟨hc, hs⟩ := List.forall_mem_cons.mp h
    rw [meetsCased_cons, ih hs]
    -- A cased character counts in a spelling, and so it is no separator.
    have hcased : isCased c = false := by
      cases hcased : isCased c with
      | false => rfl
      | true =>
        have hno := isSeparator_iff.mp hc
        rw [isSpellingChar_of_isCased hcased] at hno
        exact nomatch hno
    simp [hcased]

/-! ### Parts of a text -/

/-- What a character adds to a spelling. A capital sigma has a form of its own at the end of a
    word. -/
def letter (isFinal : Bool) (c : Char) : List Char :=
  (if c = 'Σ' then (if isFinal then ['ς'] else ['σ']) else lowerChar c).filter isSpellingChar

/-- What a part of a text adds to a spelling. The characters before it are given from the nearest to
    the farthest. -/
def spellingBetween (before after : List Char) : List Char → List Char
  | [] => []
  | c :: rest =>
    letter (meetsCased before && ! meetsCased (rest ++ after)) c ++
      spellingBetween (c :: before) after rest

/-- Only a sigma is written in two ways. -/
theorem letter_of_ne {c : Char} (hc : c ≠ 'Σ') (isFinal isFinal' : Bool) :
    letter isFinal c = letter isFinal' c := by
  rw [letter, letter, if_neg hc, if_neg hc]

/-- At the end of a word a sigma has its final form. -/
theorem letter_sigma_final : letter true 'Σ' = ['ς'] := by decide

/-- Elsewhere it has the other one. -/
theorem letter_sigma : letter false 'Σ' = ['σ'] := by decide

/-- A sigma is not ignored for case. -/
theorem isCaseIgnorable_sigma : isCaseIgnorable 'Σ' = false := by decide

/-- What counts of a text in small letters is written letter by letter. -/
theorem filter_lowerAfter (before s : List Char) :
    (lowerAfter before s).filter isSpellingChar = spellingBetween before [] s := by
  induction s generalizing before with
  | nil => rfl
  | cons c rest ih =>
    rw [lowerAfter, List.filter_append, ih, spellingBetween, List.append_nil]
    rfl

/-- A spelling is written between nothing before and nothing behind it. -/
theorem spelling_eq (s : List Char) : spelling s = spellingBetween [] [] s := filter_lowerAfter [] s

/-- Two parts add what each adds beside the other. -/
theorem spellingBetween_append (before after s t : List Char) :
    spellingBetween before after (s ++ t) =
      spellingBetween before (t ++ after) s ++ spellingBetween (s.reverse ++ before) after t := by
  induction s generalizing before with
  | nil => rfl
  | cons c s ih =>
    rw [List.cons_append, spellingBetween, spellingBetween, ih, List.append_assoc,
      List.append_assoc, List.reverse_cons, List.append_assoc]
    rfl

/-- Of what stands around a part nothing counts but whether a letter with a case is met. -/
theorem spellingBetween_congr {before before' after after' : List Char}
    (hbefore : meetsCased before = meetsCased before') (hafter : meetsCased after = meetsCased after')
    (s : List Char) : spellingBetween before after s = spellingBetween before' after' s := by
  induction s generalizing before before' with
  | nil => rfl
  | cons c rest ih =>
    have hnext : meetsCased (c :: before) = meetsCased (c :: before') := by
      rw [meetsCased_cons, meetsCased_cons, hbefore]
    have hrest : meetsCased (rest ++ after) = meetsCased (rest ++ after') := by
      rw [meetsCased_append, meetsCased_append, hafter]
    rw [spellingBetween, spellingBetween, hbefore, hrest, ih hnext]

/-! ### Up to the form of the sigma -/

/-- A text with one form of the small sigma. -/
def withOneSigma (s : List Char) : List Char := s.map fun c => if c = 'ς' then 'σ' else c

/-- The sigmas of a text are made one piece by piece. -/
theorem withOneSigma_append (s t : List Char) :
    withOneSigma (s ++ t) = withOneSigma s ++ withOneSigma t := List.map_append

/-- With one sigma, a letter is written the same in all places. -/
theorem withOneSigma_letter (isFinal isFinal' : Bool) (c : Char) :
    withOneSigma (letter isFinal c) = withOneSigma (letter isFinal' c) := by
  by_cases hc : c = 'Σ'
  · subst hc
    cases isFinal <;> cases isFinal' <;> simp [letter_sigma, letter_sigma_final, withOneSigma]
  · rw [letter_of_ne hc isFinal isFinal']

/-- But for the form of its sigmas, a part adds the same wherever it stands. -/
theorem withOneSigma_spellingBetween (before before' after after' s : List Char) :
    withOneSigma (spellingBetween before after s) =
      withOneSigma (spellingBetween before' after' s) := by
  induction s generalizing before before' with
  | nil => rfl
  | cons c rest ih =>
    rw [spellingBetween, spellingBetween, withOneSigma_append, withOneSigma_append,
      ih (c :: before) (c :: before'), withOneSigma_letter]

/-- How long a spelling is does not hang on what stands around it. -/
theorem length_spellingBetween (before before' after after' s : List Char) :
    (spellingBetween before after s).length = (spellingBetween before' after' s).length := by
  have h := congrArg List.length (withOneSigma_spellingBetween before before' after after' s)
  rwa [withOneSigma, withOneSigma, List.length_map, List.length_map] at h

/-- What is left out of a text on its own is left out of it everywhere. -/
theorem spellingBetween_eq_nil {s : List Char} (h : spelling s = []) (before after : List Char) :
    spellingBetween before after s = [] := by
  apply List.eq_nil_of_length_eq_zero
  rw [length_spellingBetween before [] after [], ← spelling_eq, h, List.length_nil]

/-! ### Sigmas at the ends of a part -/

/-- Whether a letter stands before a capital sigma, and nothing behind it but what is passed over.
    What follows the text then decides about the form of the sigma. -/
def EndsInSigma (before s : List Char) : Prop :=
  ∃ front back, s = front ++ 'Σ' :: back ∧ (∀ c ∈ back, isCaseIgnorable c = true) ∧
    meetsCased (front.reverse ++ before) = true

/-- Whether no letter stands behind a capital sigma, and nothing before it but what is passed over.
    What precedes the text then decides about the form of the sigma. -/
def StartsInSigma (s : List Char) : Prop :=
  ∃ front back, s = front ++ 'Σ' :: back ∧ (∀ c ∈ front, isCaseIgnorable c = true) ∧
    meetsCased back = false

/-- A text ends in a sigma at its first character, or later. -/
theorem endsInSigma_cons_iff {before rest : List Char} {c : Char} :
    EndsInSigma before (c :: rest) ↔
      (c = 'Σ' ∧ (∀ d ∈ rest, isCaseIgnorable d = true) ∧ meetsCased before = true) ∨
        EndsInSigma (c :: before) rest := by
  constructor
  -- The sigma is the first character, or it stands behind it.
  · rintro ⟨front, back, hs, hback, hfront⟩
    cases front with
    | nil =>
      obtain ⟨rfl, rfl⟩ := List.cons.inj hs
      exact .inl ⟨rfl, hback, hfront⟩
    | cons d front =>
      obtain ⟨rfl, rfl⟩ := List.cons.inj hs
      exact .inr ⟨front, back, rfl, hback, by simpa using hfront⟩
  · rintro (⟨rfl, hrest, hbefore⟩ | ⟨front, back, rfl, hback, hfront⟩)
    · exact ⟨[], rest, rfl, hrest, hbefore⟩
    · exact ⟨c :: front, back, rfl, hback, by simpa using hfront⟩

/-- A text starts in a sigma at its first character, or after one that is ignored. -/
theorem startsInSigma_cons_iff {rest : List Char} {c : Char} :
    StartsInSigma (c :: rest) ↔
      (c = 'Σ' ∧ meetsCased rest = false) ∨ (isCaseIgnorable c = true ∧ StartsInSigma rest) := by
  constructor
  -- Either the sigma stands here, or what stands here is passed over on the way to it.
  · rintro ⟨front, back, hs, hfront, hback⟩
    cases front with
    | nil =>
      obtain ⟨rfl, rfl⟩ := List.cons.inj hs
      exact .inl ⟨rfl, hback⟩
    | cons d front =>
      obtain ⟨rfl, rfl⟩ := List.cons.inj hs
      obtain ⟨hc, hfront⟩ := List.forall_mem_cons.mp hfront
      exact .inr ⟨hc, front, back, rfl, hfront, hback⟩
  · rintro (⟨rfl, hrest⟩ | ⟨hc, front, back, rfl, hfront, hback⟩)
    · exact ⟨[], rest, rfl, by simp, hrest⟩
    · exact ⟨c :: front, back, rfl, List.forall_mem_cons.mpr ⟨hc, hfront⟩, hback⟩

/-- No sigma ends the empty text. -/
theorem not_endsInSigma_nil (before : List Char) : ¬ EndsInSigma before [] := by
  rintro ⟨front, back, hs, -⟩
  simp at hs

/-- No sigma starts the empty text. -/
theorem not_startsInSigma_nil : ¬ StartsInSigma [] := by
  rintro ⟨front, back, hs, -⟩
  simp at hs

/-- A letter that follows a part changes what the part adds when it ends in a sigma. -/
theorem spellingBetween_eq_iff_after {after after' : List Char} (hafter : meetsCased after = false)
    (hafter' : meetsCased after' = true) {before s : List Char} :
    spellingBetween before after s = spellingBetween before after' s ↔ ¬ EndsInSigma before s := by
  induction s generalizing before with
  | nil => exact iff_of_true rfl (not_endsInSigma_nil before)
  | cons c rest ih =>
    rw [endsInSigma_cons_iff, not_or, ← ih, spellingBetween, spellingBetween]
    by_cases hturns : c = 'Σ' ∧ (∀ d ∈ rest, isCaseIgnorable d = true) ∧ meetsCased before = true
    · -- The sigma is final in front of the one text, and not in front of the other.
      obtain ⟨rfl, hrest, hbefore⟩ := hturns
      have hall : rest.all isCaseIgnorable = true := List.all_eq_true.mpr hrest
      rw [meetsCased_append, meetsCased_append, if_pos hall, if_pos hall, hbefore, hafter, hafter']
      refine iff_of_false ?_ fun hboth => hboth.1 ⟨rfl, hrest, rfl⟩
      simp [letter_sigma, letter_sigma_final]
    · have hletter : letter (meetsCased before && ! meetsCased (rest ++ after)) c =
          letter (meetsCased before && ! meetsCased (rest ++ after')) c := by
        by_cases hc : c = 'Σ'
        · by_cases hall : rest.all isCaseIgnorable = true
          · have hbefore : meetsCased before = false := by
              rw [← Bool.not_eq_true]
              exact fun hbefore => hturns ⟨hc, List.all_eq_true.mp hall, hbefore⟩
            rw [hbefore, Bool.false_and, Bool.false_and]
          · rw [meetsCased_append, meetsCased_append, if_neg hall, if_neg hall]
        · exact letter_of_ne hc _ _
      rw [hletter, List.append_cancel_left_eq]
      exact (and_iff_right hturns).symm

/-- A letter that precedes a part changes what the part adds when it starts in a sigma. -/
theorem spellingBetween_eq_iff_before {before before' : List Char}
    (hbefore : meetsCased before = false) (hbefore' : meetsCased before' = true) {s : List Char} :
    spellingBetween before [] s = spellingBetween before' [] s ↔ ¬ StartsInSigma s := by
  induction s generalizing before before' with
  | nil => exact iff_of_true rfl not_startsInSigma_nil
  | cons c rest ih =>
    rw [startsInSigma_cons_iff, not_or, spellingBetween, spellingBetween, List.append_nil, hbefore,
      hbefore', Bool.false_and, Bool.true_and]
    by_cases hignorable : isCaseIgnorable c = true
    · -- What is passed over leaves the question to the rest.
      have hc : c ≠ 'Σ' := by
        rintro rfl
        exact nomatch isCaseIgnorable_sigma.symm.trans hignorable
      have hnext : meetsCased (c :: before) = false := by
        rw [meetsCased_cons, if_pos hignorable, hbefore]
      have hnext' : meetsCased (c :: before') = true := by
        rw [meetsCased_cons, if_pos hignorable, hbefore']
      rw [letter_of_ne hc _ (! meetsCased rest), List.append_cancel_left_eq, ih hnext hnext']
      simp [hc, hignorable]
    · -- The rest has the same character in front of it in both texts.
      have hnext : meetsCased (c :: before) = meetsCased (c :: before') := by
        rw [meetsCased_cons, meetsCased_cons, if_neg hignorable, if_neg hignorable]
      rw [spellingBetween_congr hnext rfl rest, List.append_cancel_right_eq]
      by_cases hc : c = 'Σ'
      · subst hc
        cases meetsCased rest <;> simp [letter_sigma, letter_sigma_final, isCaseIgnorable_sigma]
      · rw [letter_of_ne hc false (! meetsCased rest)]
        simp [hc, hignorable]

/-! ### Separators between two texts -/

/-- Whether two texts meet at a sigma whose form the one decides for the other. -/
def MeetAtSigma (a b : List Char) : Prop :=
  (EndsInSigma [] a ∧ meetsCased b = true) ∨ (StartsInSigma b ∧ meetsCased a.reverse = true)

/-- A part without a letter behind it against the same part in front of a text. -/
theorem spellingBetween_eq_iff_ends {after : List Char} (hafter : meetsCased after = false)
    (a b : List Char) : spellingBetween [] after a = spellingBetween [] b a ↔
      ¬ (EndsInSigma [] a ∧ meetsCased b = true) := by
  cases hb : meetsCased b with
  | false => simp [spellingBetween_congr rfl (hafter.trans hb.symm) a]
  | true => simp [spellingBetween_eq_iff_after hafter hb]

/-- A part without a letter in front of it against the same part behind a text. -/
theorem spellingBetween_eq_iff_starts {before : List Char} (hbefore : meetsCased before = false)
    (a b : List Char) : spellingBetween before [] b = spellingBetween a [] b ↔
      ¬ (StartsInSigma b ∧ meetsCased a = true) := by
  cases ha : meetsCased a with
  | false => simp [spellingBetween_congr (hbefore.trans ha.symm) rfl b]
  | true => simp [spellingBetween_eq_iff_before hbefore ha]

/-- No letter is met beyond separators that are not all passed over. -/
theorem meetsCased_separators_append {w : List Char} (hw : ∀ c ∈ w, isSeparator c = true)
    (hall : ¬ ∀ c ∈ w, isCaseIgnorable c = true) (s : List Char) : meetsCased (w ++ s) = false := by
  rw [← List.all_eq_true] at hall
  rw [meetsCased_append, if_neg hall, meetsCased_separators hw]

section Separated

variable {a w b : List Char} (hw : ∀ c ∈ w, isSeparator c = true)
  (hlower : ∀ c ∈ lower w, isSeparator c = true)
include hlower

/-- Separators are left out, so that the two texts add what each adds beside them and the other. -/
theorem spelling_separated : spelling (a ++ w ++ b) =
    spellingBetween [] (w ++ b) a ++ spellingBetween (w.reverse ++ a.reverse) [] b := by
  have hempty : spelling w = [] := by
    rw [spelling, List.filter_eq_nil_iff]
    intro c hc
    rw [isSeparator_iff.mp (hlower c hc)]
    exact Bool.false_ne_true
  rw [spelling_eq, List.append_assoc, spellingBetween_append, spellingBetween_append,
    spellingBetween_eq_nil hempty, List.nil_append, List.append_nil, List.append_nil]

/-- With one sigma, a separator makes no difference to a spelling. -/
theorem withOneSigma_separated :
    withOneSigma (spelling (a ++ w ++ b)) = withOneSigma (spelling (a ++ b)) := by
  rw [spelling_separated hlower, spelling_eq (a ++ b), spellingBetween_append, withOneSigma_append,
    withOneSigma_append, withOneSigma_spellingBetween [] [] (w ++ b) (b ++ []),
    withOneSigma_spellingBetween (w.reverse ++ a.reverse) (a.reverse ++ []) [] []]

include hw

/-- Separators change a spelling when not all of them are passed over and they keep two texts apart
    that meet at a sigma. -/
theorem spelling_separated_eq_iff : spelling (a ++ w ++ b) = spelling (a ++ b) ↔
    (∀ c ∈ w, isCaseIgnorable c = true) ∨ ¬ MeetAtSigma a b := by
  have htwo : spelling (a ++ b) = spellingBetween [] b a ++ spellingBetween a.reverse [] b := by
    rw [spelling_eq, spellingBetween_append, List.append_nil, List.append_nil]
  have hlength : (spellingBetween [] (w ++ b) a).length = (spellingBetween [] b a).length :=
    length_spellingBetween _ _ _ _ a
  have hparts : spelling (a ++ w ++ b) = spelling (a ++ b) ↔
      spellingBetween [] (w ++ b) a = spellingBetween [] b a ∧
        spellingBetween (w.reverse ++ a.reverse) [] b = spellingBetween a.reverse [] b := by
    rw [spelling_separated hlower, htwo]
    constructor
    · exact fun h => List.append_inj h hlength
    · rintro ⟨ha, hb⟩
      rw [ha, hb]
  rw [hparts]
  by_cases hall : ∀ c ∈ w, isCaseIgnorable c = true
  · -- Both texts see each other through the separators.
    have hforward : meetsCased (w ++ b) = meetsCased b := by
      rw [meetsCased_append, if_pos (List.all_eq_true.mpr hall)]
    have hbackward : meetsCased (w.reverse ++ a.reverse) = meetsCased a.reverse := by
      rw [meetsCased_append, List.all_reverse, if_pos (List.all_eq_true.mpr hall)]
    exact iff_of_true ⟨spellingBetween_congr rfl hforward a, spellingBetween_congr hbackward rfl b⟩
      (.inl hall)
  · have hforward : meetsCased (w ++ b) = false := meetsCased_separators_append hw hall b
    have hbackward : meetsCased (w.reverse ++ a.reverse) = false :=
      meetsCased_separators_append (by simpa using hw) (by simpa using hall) a.reverse
    rw [spellingBetween_eq_iff_ends hforward, spellingBetween_eq_iff_starts hbackward, MeetAtSigma,
      not_or]
    exact (or_iff_right hall).symm

end Separated

/-- A separator between two texts changes at most the form of a sigma in their spelling. It changes
    one exactly when it is not passed over and the texts meet at a sigma. -/
theorem spellingKey_separated (a w b : String) (hw : ∀ c ∈ w.toList, isSeparator c = true)
    (hlower : ∀ c ∈ lower w.toList, isSeparator c = true) :
    withOneSigma (spellingKey (a ++ w ++ b)).toList = withOneSigma (spellingKey (a ++ b)).toList ∧
      (spellingKey (a ++ w ++ b) = spellingKey (a ++ b) ↔
        (∀ c ∈ w.toList, isCaseIgnorable c = true) ∨ ¬ MeetAtSigma a.toList b.toList) := by
  have hthree : (spellingKey (a ++ w ++ b)).toList = spelling (a.toList ++ w.toList ++ b.toList) := by
    rw [spellingKey, String.toList_ofList, String.toList_append, String.toList_append]
  have htwo : (spellingKey (a ++ b)).toList = spelling (a.toList ++ b.toList) := by
    rw [spellingKey, String.toList_ofList, String.toList_append]
  rw [← String.toList_inj, hthree, htwo]
  exact ⟨withOneSigma_separated hlower, spelling_separated_eq_iff hw hlower⟩

/-- Between texts that meet at a sigma, an apostrophe changes nothing, as it is passed over. With a
    space behind it there is a change. -/
theorem spellingKey_separated_apostrophe :
    spellingKey ("ΑΣ" ++ "'" ++ "Α") = spellingKey ("ΑΣ" ++ "Α") ∧
      spellingKey ("ΑΣ" ++ "' " ++ "Α") ≠ spellingKey ("ΑΣ" ++ "Α") := by
  have hmeet : MeetAtSigma "ΑΣ".toList "Α".toList :=
    .inl ⟨⟨['Α'], [], by decide +kernel, by simp, by decide +kernel⟩, by decide +kernel⟩
  have hapostrophe := (spellingKey_separated "ΑΣ" "'" "Α" (List.all_eq_true.mp (by decide +kernel))
    (List.all_eq_true.mp (by decide +kernel))).2
  have hspace := (spellingKey_separated "ΑΣ" "' " "Α" (List.all_eq_true.mp (by decide +kernel))
    (List.all_eq_true.mp (by decide +kernel))).2
  rw [← List.all_eq_true] at hapostrophe hspace
  constructor
  · exact hapostrophe.mpr (.inl (by decide +kernel))
  · rw [ne_eq, hspace, not_or, not_not]
    exact ⟨by decide +kernel, hmeet⟩

/-- A space is a separator that is not passed over: with it the sigma is the last letter of a word,
    and a document with the title is found under one of the spellings only. -/
theorem spellingKey_split_at_sigma :
    let d : Document := { (default : Document) with id := "n", title := "ΑΣΑ" }
    let c := Catalog.build "/c" [d]
    (∀ blank ∈ " ".toList, isSeparator blank = true) ∧
      (∀ blank ∈ lower " ".toList, isSeparator blank = true) ∧
      spellingKey ("ΑΣ" ++ " " ++ "Α") ≠ spellingKey ("ΑΣ" ++ "Α") ∧
        c.findByTitle? "ΑΣΑ" = some "n" ∧ c.findByTitle? "ΑΣ Α" = none := by
  intro d c
  have hfinds := Catalog.finds_build "/c" [d]
  have hkept : Corpus.kept [d] = [d] := by decide +kernel
  rw [hkept] at hfinds
  refine ⟨List.all_eq_true.mp (by decide +kernel), List.all_eq_true.mp (by decide +kernel),
    by decide +kernel, ?_, ?_⟩
  · rw [hfinds.findByTitle?]
    decide +kernel
  · rw [hfinds.findByTitle?]
    decide +kernel

end LinkAtlas.Text
