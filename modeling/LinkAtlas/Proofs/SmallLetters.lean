import LinkAtlas.Catalog
import LinkAtlas.Text.Blank

namespace LinkAtlas

/-!
# Spellings are canonical

A title in small letters has no capital left, so to spell it once more changes nothing. The small
letters come from a finite table, whose entries are held against each other: no small letter of a
run of capitals is a capital itself.

* `Text.CaseRun.Has`, `Text.CaseRun.small` — the capitals of a run and their small letters;
  `Text.lowerPoint_cases` — every character keeps its place or goes where its run shifts it;
* `Text.CaseRun.avoids`, `Text.not_has_small` — no small letter is a capital;
* `Text.IsSmall`, `Text.isSmall_of_mem_lower`, `Text.lower_eq_self` — a text in small letters has
  nothing else in it, and such a text stays as it is;
* `Text.isSpellingChar_of_isBlank` — no blank is left in a spelling;
* `Text.spellingKey_canonical` — a spelling is its own spelling, and finds what every text with this
  spelling finds.
-/

namespace Text

/-! ### The table of small letters -/

namespace CaseRun

/-- Whether a code point is a capital of a run. -/
def Has (run : CaseRun) (n : Nat) : Prop :=
  run.first ≤ n ∧ n ≤ run.last ∧ (n - run.first) % run.step = 0

instance (run : CaseRun) : DecidablePred run.Has := fun n =>
  inferInstanceAs (Decidable (run.first ≤ n ∧ n ≤ run.last ∧ (n - run.first) % run.step = 0))

/-- The small letter of a capital of a run. -/
def small (run : CaseRun) (n : Nat) : Nat := (n + run.shift).toNat

/-- The capitals of a run one after the other. -/
def capitals (run : CaseRun) : List Nat :=
  (List.range ((run.last - run.first) / run.step + 1)).map fun k => run.first + run.step * k

/-- Whether no small letter of a run is a capital of another one. Where the two do not lie apart,
    the small letters are tried one by one. -/
def avoids (run other : CaseRun) : Bool :=
  other.last.blt (run.small run.first) || (run.small run.last).blt other.first ||
    run.capitals.all fun n => ! decide (other.Has (run.small n))

/-- The capitals of a run are listed. -/
theorem mem_capitals {run : CaseRun} {n : Nat} (h : run.Has n) : n ∈ run.capitals := by
  obtain ⟨hfirst, hlast, hstep⟩ := h
  refine List.mem_map.mpr ⟨(n - run.first) / run.step, ?_, ?_⟩
  · have hle : (n - run.first) / run.step ≤ (run.last - run.first) / run.step :=
      Nat.div_le_div_right (by omega)
    exact List.mem_range.mpr (by omega)
  · rw [Nat.mul_div_cancel' (Nat.dvd_of_mod_eq_zero hstep)]
    omega

/-- Small letters come in the order of their capitals. -/
theorem small_mono {run : CaseRun} {m n : Nat} (h : m ≤ n) : run.small m ≤ run.small n := by
  rw [small, small]
  omega

/-- Where a run avoids another one, none of its small letters is a capital there. -/
theorem not_has_of_avoids {run other : CaseRun} (h : run.avoids other = true) {n : Nat}
    (hn : run.Has n) : ¬ other.Has (run.small n) := by
  simp only [avoids, Bool.or_eq_true, Nat.blt_eq, List.all_eq_true, Bool.not_eq_true',
    decide_eq_false_iff_not] at h
  -- A run goes up with its capitals, so its ends bound it on either side.
  rcases h with (hbelow | habove) | heach
  · intro hother
    have hle : run.small run.first ≤ run.small n := small_mono hn.1
    have hlast := hother.2.1
    omega
  · intro hother
    have hle : run.small n ≤ run.small run.last := small_mono hn.2.1
    have hfirst := hother.1
    omega
  · exact heach n (mem_capitals hn)

end CaseRun

/-- A code point keeps its place, or is a capital of a run and goes where the run shifts it. -/
theorem lowerPoint_cases (runs : List CaseRun) (n : Nat) :
    lowerPoint runs n = n ∨ ∃ run ∈ runs, run.Has n ∧ lowerPoint runs n = run.small n := by
  induction runs with
  | nil => exact .inl rfl
  | cons run runs ih =>
    -- The search ends at a run that starts above the number, which then stays as it is.
    unfold lowerPoint
    split
    · exact .inl rfl
    · rename_i hfirst
      split
      · rename_i hrun
        simp only [Bool.and_eq_true, decide_eq_true_eq, beq_iff_eq] at hrun
        exact .inr ⟨run, List.mem_cons_self, ⟨Nat.not_lt.mp hfirst, hrun⟩, rfl⟩
      · refine ih.imp_right ?_
        rintro ⟨other, hother, hrest⟩
        exact ⟨other, List.mem_cons_of_mem run hother, hrest⟩

/-- A code point that is no capital keeps its place. -/
theorem lowerPoint_of_not_has {runs : List CaseRun} {n : Nat} (h : ∀ run ∈ runs, ¬ run.Has n) :
    lowerPoint runs n = n := by
  rcases lowerPoint_cases runs n with hsame | ⟨run, hrun, hhas, -⟩
  · exact hsame
  · exact absurd hhas (h run hrun)

/-- All runs of the table avoid each other, and themselves. -/
theorem avoids_lowerRuns :
    (lowerRuns.all fun run => lowerRuns.all fun other => run.avoids other) = true := by
  decide +kernel

/-- No small letter of the table is a capital of the table. -/
theorem not_has_small {run other : CaseRun} (hrun : run ∈ lowerRuns) (hother : other ∈ lowerRuns)
    {n : Nat} (hn : run.Has n) : ¬ other.Has (run.small n) := by
  have hall := List.all_eq_true.mp avoids_lowerRuns run hrun
  exact CaseRun.not_has_of_avoids (List.all_eq_true.mp hall other hother) hn

/-- The small letters of the table are characters, and none is the capital that it leaves out. -/
theorem isValidChar_small : ∀ run ∈ lowerRuns, ∀ n ∈ run.capitals,
    (run.small n).isValidChar ∧ run.small n ≠ 'İ'.toNat := by decide +kernel

/-- The sigma is a capital of the table. -/
theorem exists_run_sigma : ∃ run ∈ lowerRuns, run.Has 'Σ'.toNat := by
  have hrun : lowerRuns[70]? = some ⟨0x3A3, 0x3AB, 1, 32⟩ := rfl
  exact ⟨_, List.mem_of_getElem? hrun, by decide⟩

/-! ### Small letters -/

/-- Whether a character is its own small letter, in every place. -/
def IsSmall (c : Char) : Prop := c ≠ 'Σ' ∧ lowerChar c = [c]

/-- The small sigma is small. -/
theorem isSmall_sigma : IsSmall 'σ' := ⟨by decide, by decide +kernel⟩

/-- The final sigma is small too. -/
theorem isSmall_final_sigma : IsSmall 'ς' := ⟨by decide, by decide +kernel⟩

/-- What holds of each character below a bound can be tried one by one. -/
theorem of_toNat_lt {P : Char → Prop} {bound : Nat} (h : ∀ n < bound, P (Char.ofNat n)) {c : Char}
    (hc : c.toNat < bound) : P c := by
  have hall := h c.toNat hc
  rwa [Char.ofNat_toNat] at hall

/-- In ASCII the table says the same as core does. -/
theorem lowerChar_ascii {c : Char} (h : c.toNat < 0x80) :
    c.toLower = Char.ofNat (lowerPoint lowerRuns c.toNat) := by
  apply of_toNat_lt _ h
  decide +kernel

/-- But for the dotted capital, the small form of a character is one character of the table. -/
theorem lowerChar_eq {c : Char} (hc : c ≠ 'İ') :
    lowerChar c = [Char.ofNat (lowerPoint lowerRuns c.toNat)] := by
  rw [lowerChar]
  by_cases hascii : c.toNat < 0x80
  · rw [if_pos hascii, lowerChar_ascii hascii]
  · rw [if_neg hascii, if_neg hc]

/-- A valid code point is that of its character. -/
theorem toNat_ofNat {n : Nat} (h : n.isValidChar) : (Char.ofNat n).toNat = n := by
  rw [Char.ofNat, dif_pos h]
  rfl

/-- The small letter of a character is small. -/
theorem isSmall_of_mem_lowerChar {c d : Char} (hc : c ≠ 'Σ') (hd : d ∈ lowerChar c) :
    IsSmall d := by
  by_cases hdotted : c = 'İ'
  · subst hdotted
    have hforms : d = 'i' ∨ d = '\u0307' := by simpa [lowerChar] using hd
    rcases hforms with rfl | rfl <;> exact ⟨by decide, by rfl⟩
  · rw [lowerChar_eq hdotted, List.mem_singleton] at hd
    rcases lowerPoint_cases lowerRuns c.toNat with hsame | ⟨run, hrun, hhas, hsmall⟩
    · -- A character that keeps its place is its own small letter.
      rw [hsame, Char.ofNat_toNat] at hd
      subst hd
      exact ⟨hc, by rw [lowerChar_eq hdotted, hsame, Char.ofNat_toNat]⟩
    · obtain ⟨hvalid, hne⟩ := isValidChar_small run hrun _ (CaseRun.mem_capitals hhas)
      have hpoint : d.toNat = run.small c.toNat := by
        rw [hd, hsmall, toNat_ofNat hvalid]
      have hno : ∀ other ∈ lowerRuns, ¬ other.Has d.toNat := by
        intro other hother
        rw [hpoint]
        exact not_has_small hrun hother hhas
      constructor
      · rintro rfl
        obtain ⟨other, hother, hsigma⟩ := exists_run_sigma
        exact hno other hother hsigma
      · have hd' : d ≠ 'İ' := by
          rintro rfl
          exact hne hpoint.symm
        rw [lowerChar_eq hd', lowerPoint_of_not_has hno, Char.ofNat_toNat]

/-- Every letter of a text in small letters is small. -/
theorem isSmall_of_mem_lowerAfter {before s : List Char} {d : Char} (hd : d ∈ lowerAfter before s) :
    IsSmall d := by
  induction s generalizing before with
  | nil => exact nomatch hd
  | cons c rest ih =>
    rw [lowerAfter] at hd
    rcases List.mem_append.mp hd with hd | hd
    · split at hd
      · -- Both small forms of the sigma are small.
        split at hd
        · exact List.mem_singleton.mp hd ▸ isSmall_final_sigma
        · exact List.mem_singleton.mp hd ▸ isSmall_sigma
      · rename_i hc
        exact isSmall_of_mem_lowerChar hc hd
    · exact ih hd

/-- So it is when nothing stands before the text. -/
theorem isSmall_of_mem_lower {s : List Char} {d : Char} (hd : d ∈ lower s) : IsSmall d :=
  isSmall_of_mem_lowerAfter hd

/-- A text of small letters stays as it is. -/
theorem lowerAfter_eq_self (before : List Char) {s : List Char} (h : ∀ c ∈ s, IsSmall c) :
    lowerAfter before s = s := by
  induction s generalizing before with
  | nil => rfl
  | cons c rest ih =>
    obtain ⟨⟨hsigma, hsmall⟩, hrest⟩ := List.forall_mem_cons.mp h
    rw [lowerAfter, if_neg hsigma, hsmall, ih (c :: before) hrest]
    rfl

/-- Small letters stay as they are, whatever stands beside them. -/
theorem lower_eq_self {s : List Char} (h : ∀ c ∈ s, IsSmall c) : lower s = s :=
  lowerAfter_eq_self [] h

/-! ### Spellings -/

/-- The code points of the blanks. -/
def blankPoints : List Nat :=
  [0x9, 0xA, 0xB, 0xC, 0xD, 0x20, 0x85, 0xA0, 0x1680, 0x2000, 0x2001, 0x2002, 0x2003, 0x2004,
   0x2005, 0x2006, 0x2007, 0x2008, 0x2009, 0x200A, 0x2028, 0x2029, 0x202F, 0x205F, 0x3000]

/-- The blanks are those that are listed. -/
theorem toNat_mem_blankPoints {c : Char} (h : isBlank c = true) : c.toNat ∈ blankPoints := by
  simp only [isBlank, Bool.or_eq_true, Bool.and_eq_true, decide_eq_true_eq, beq_iff_eq] at h
  simp only [blankPoints, List.mem_cons, List.not_mem_nil, or_false]
  omega

/-- A blank does not matter when titles are compared. -/
theorem isSpellingChar_of_isBlank {c : Char} (h : isBlank c = true) : isSpellingChar c = false := by
  have hblanks : ∀ n ∈ blankPoints, isSpellingChar (Char.ofNat n) = false := by decide +kernel
  have hno := hblanks c.toNat (toNat_mem_blankPoints h)
  rwa [Char.ofNat_toNat] at hno

/-- No blank is left in a spelling. -/
theorem not_isBlank_of_mem_spelling {s : List Char} {c : Char} (h : c ∈ spelling s) :
    isBlank c = false := by
  cases hblank : isBlank c with
  | false => rfl
  | true =>
    have hno := isSpellingChar_of_isBlank hblank
    rw [isSpellingChar_of_mem_spelling h] at hno
    exact nomatch hno

/-- A spelling is its own spelling. -/
theorem spelling_spelling (s : List Char) : spelling (spelling s) = spelling s := by
  have hsmall : ∀ c ∈ spelling s, IsSmall c := fun c hc =>
    isSmall_of_mem_lower (List.mem_filter.mp hc).1
  rw [spelling, lower_eq_self hsmall]
  exact List.filter_eq_self.mpr fun c => isSpellingChar_of_mem_spelling

/-- A spelling is its own spelling. -/
theorem spellingKey_spellingKey (s : String) : spellingKey (spellingKey s) = spellingKey s := by
  rw [spellingKey, spellingKey, String.toList_ofList, spelling_spelling]

/-- A spelling is its own spelling. It is made of letters, digits and hyphens, and holds no blank. A
    catalog answers a text and its spelling alike. -/
theorem spellingKey_canonical (s : String) :
    spellingKey (spellingKey s) = spellingKey s ∧
      (∀ c ∈ (spellingKey s).toList,
        (isAlphanumeric c = true ∨ c = '-') ∧ isBlank c = false) ∧
      ∀ c : Catalog, c.findByTitle? (spellingKey s) = c.findByTitle? s := by
  refine ⟨spellingKey_spellingKey s, ?_, ?_⟩
  · intro c hc
    rw [spellingKey, String.toList_ofList] at hc
    refine ⟨?_, not_isBlank_of_mem_spelling hc⟩
    simpa [isSpellingChar] using isSpellingChar_of_mem_spelling hc
  · intro c
    rw [Catalog.findByTitle?, Catalog.findByTitle?, spellingKey_spellingKey]

end Text

end LinkAtlas
