import LinkAtlas.Proofs.EqualsSigns
import LinkAtlas.Yaml.Scalar
import Mathlib.Data.List.Induction
import Mathlib.Data.List.TakeWhile

namespace LinkAtlas.Yaml

/-!
# No equals sign of a scalar is lost

An equals sign means nothing to YAML. So a scalar that is read over one has one in its text, however
it is written.

* `Cursor.Skips` — from one place to another with every equals sign between them behind a veil;
* `Cursor.Takes` — a text is read from one place to another: what is between is skipped, or there is an
  equals sign in the text;
* `takes_of_quoted?`, `takes_of_plain?`, `takes_of_block?` — so it is with each kind of scalar.
-/

namespace Cursor

variable {c c₁ c' : Cursor} {acc acc₁ acc' : List Char} {n : Nat} {p : Char → Bool}

/-! ### Passing over text -/

/-- Between two places every equals sign stands behind a veil. -/
def Skips (c c' : Cursor) : Prop :=
  ∃ s, c.rest = s ++ c'.rest ∧ Text.veilsEquals false s = true

/-- A place is reached from itself without passing anything. -/
theorem Skips.refl (c : Cursor) : c.Skips c := ⟨[], rfl, rfl⟩

/-- What is passed in a row is passed. -/
theorem Skips.trans (h : c.Skips c₁) (h' : c₁.Skips c') : c.Skips c' := by
  obtain ⟨s, hs, hveils⟩ := h
  obtain ⟨t, ht, hveils'⟩ := h'
  exact ⟨s ++ t, by rw [hs, ht, List.append_assoc], Text.veilsEquals_append hveils hveils'⟩

/-- Characters without an equals sign are passed. -/
theorem skips_skip (h : '=' ∉ c.rest.take n) : c.Skips (c.skip n) :=
  ⟨c.rest.take n, (List.take_append_drop n c.rest).symm, Text.veilsEquals_of_notMem h⟩

/-- A character of a class without the equals sign is passed. -/
theorem skips_one {d : Char} {rest : List Char} (h : c.rest = d :: rest) (hd : p d = true)
    (hp : p '=' = false) : c.Skips (c.skip 1) := by
  refine skips_skip ?_
  rw [h, List.take_succ_cons, List.take_zero, List.mem_singleton]
  rintro rfl
  exact Bool.false_ne_true (hp.symm.trans hd)

/-- As many characters as a run has are the run. -/
theorem take_length_takeWhile : c.rest.take (c.rest.takeWhile p).length = c.rest.takeWhile p :=
  (List.prefix_iff_eq_take.mp (List.takeWhile_prefix p)).symm

/-- A run and what follows it make up the text. -/
theorem takeWhile_append_skipWhile : c.rest.takeWhile p ++ (c.skipWhile p).rest = c.rest := by
  rw [← take_length_takeWhile (p := p)]
  exact List.take_append_drop _ _

/-- What follows a run is left. -/
theorem rest_skipWhile : (c.skipWhile p).rest = c.rest.dropWhile p :=
  List.append_cancel_left (takeWhile_append_skipWhile.trans List.takeWhile_append_dropWhile.symm)

/-- The rest of a line ends at a line break or with the text. -/
theorem isBreakEnd_skipWhile : isBreakEnd (c.skipWhile (! isBreak ·)).rest = true := by
  rw [rest_skipWhile]
  have hhead := List.head?_dropWhile_not (! isBreak ·) c.rest
  cases h : c.rest.dropWhile (! isBreak ·) with
  | nil => rfl
  | cons d rest =>
    rw [h] at hhead
    simpa [isBreakEnd] using hhead

/-- What is not of a class is not among what is passed of the class. -/
theorem notMem_takeWhile {d : Char} (hd : p d = false) : d ∉ c.rest.takeWhile p :=
  fun h => Bool.false_ne_true (hd.symm.trans (List.mem_takeWhile_imp h))

/-- Part of a run without equals signs is passed. -/
theorem skips_skip_le (hn : n ≤ (c.rest.takeWhile p).length) (hp : p '=' = false) :
    c.Skips (c.skip n) := by
  refine skips_skip fun hmem => ?_
  rw [← Nat.min_eq_left hn, ← List.take_take, take_length_takeWhile] at hmem
  exact notMem_takeWhile hp (List.mem_of_mem_take hmem)

/-- A run without equals signs is passed. -/
theorem skips_skipWhile (hp : p '=' = false) : c.Skips (c.skipWhile p) :=
  ⟨_, takeWhile_append_skipWhile.symm, Text.veilsEquals_of_notMem (notMem_takeWhile hp)⟩

/-- A line break is passed. -/
theorem skips_skipBreak (h : isBreakEnd c.rest = true) : c.Skips c.skipBreak := by
  unfold skipBreak
  split
  next rest hrest => exact ⟨['\r', '\n'], hrest, by decide⟩
  next d rest _ hrest =>
    rw [hrest] at h
    refine ⟨[d], hrest, Text.veilsEquals_of_notMem ?_⟩
    rw [List.mem_singleton]
    rintro rfl
    exact absurd (show isBreak '=' = true from h) (by decide)
  next => exact .refl c

/-- A comment is veiled by its own mark. -/
theorem skips_comment :
    c.Skips (if c.rest.head? == some '#' then c.skipWhile (! isBreak ·) else c) := by
  split
  next h =>
    obtain ⟨rest, hrest⟩ := List.head?_eq_some_iff.mp (beq_iff_eq.mp h)
    refine ⟨_, takeWhile_append_skipWhile.symm, ?_⟩
    have hnewline : '\n' ∉ c.rest.takeWhile (! isBreak ·) := notMem_takeWhile (by decide)
    rw [hrest, List.takeWhile_cons_of_pos (by decide)] at hnewline ⊢
    exact Text.veilsEquals_cons (by decide) fun hmem => hnewline (List.mem_cons_of_mem _ hmem)
  next => exact .refl c

/-! ### Taking text -/

/-- A text is read from one place to another: there is an equals sign in it, or none in sight between
    the places. What the text was before stands for what has been read of it. -/
def Takes (c : Cursor) (acc : List Char) (c' : Cursor) (acc' : List Char) : Prop :=
  ('=' ∈ acc → '=' ∈ acc') ∧ (c.Skips c' ∨ '=' ∈ acc')

/-- Nothing is read where no character is passed. -/
theorem Takes.refl (c : Cursor) (acc : List Char) : c.Takes acc c acc := ⟨id, .inl (.refl c)⟩

/-- What is read in a row is read. -/
theorem Takes.trans (h : c.Takes acc c₁ acc₁) (h' : c₁.Takes acc₁ c' acc') :
    c.Takes acc c' acc' := by
  refine ⟨fun hmem => h'.1 (h.1 hmem), ?_⟩
  obtain hskips | hmem := h.2
  · exact h'.2.imp_left hskips.trans
  · exact .inr (h'.1 hmem)

/-- Where no equals sign comes in sight, the text may have any. -/
theorem Skips.takes (h : c.Skips c') (hacc : '=' ∈ acc → '=' ∈ acc') : c.Takes acc c' acc' :=
  ⟨hacc, .inl h⟩

/-- Characters are read if their equals signs are in the text. -/
theorem takes_skip (hacc : '=' ∈ acc → '=' ∈ acc') (h : '=' ∈ c.rest.take n → '=' ∈ acc') :
    c.Takes acc (c.skip n) acc' := by
  by_cases hmem : '=' ∈ c.rest.take n
  · exact ⟨hacc, .inr (h hmem)⟩
  · exact (skips_skip hmem).takes hacc

/-- A character is taken as it is. -/
theorem takes_char {d : Char} {rest : List Char} (h : c.rest = d :: rest) :
    c.Takes acc (c.skip 1) (acc ++ [d]) := by
  refine takes_skip (List.mem_append_left [d]) fun hmem => List.mem_append_right acc ?_
  rwa [h] at hmem

end Cursor

variable {c c' : Cursor} {g g' : Gap} {acc acc' : List Char} {fuel limit : Nat}

/-! ### Gaps -/

/-- The line breaks and blanks between words are passed. -/
theorem Gap.skips_of_read? (h : Gap.read? limit fuel c g = some (g', c')) : c.Skips c' := by
  induction fuel generalizing c g with
  | zero => exact nomatch h
  | succ fuel ih =>
    unfold Gap.read? at h
    split at h
    next =>
      obtain ⟨rfl, rfl⟩ := Prod.mk.inj (Option.some.inj h)
      exact .refl c
    next d rest hrest =>
      split at h
      -- Only blanks and line ends are passed, and neither is an equals sign.
      next hblank =>
        have hskips : c.Skips (c.skip 1) := Cursor.skips_one hrest hblank (by decide)
        split at h
        next =>
          split at h
          next => exact nomatch h
          next => exact hskips.trans (ih h)
        next => exact hskips.trans (ih h)
      next =>
        split at h
        next hbreak =>
          have hskips : c.Skips c.skipBreak := Cursor.skips_skipBreak (hrest ▸ hbreak)
          split at h
          next => exact hskips.trans (ih h)
          next => exact hskips.trans (ih h)
        next =>
          obtain ⟨rfl, rfl⟩ := Prod.mk.inj (Option.some.inj h)
          exact .refl c

/-! ### Between quotes -/

/-- Hexadecimal digits have no equals sign among them. -/
theorem notMem_of_hexNumber? {n v : Nat} {s : List Char} (h : hexNumber? n s = some v) :
    '=' ∉ s.take n := by
  unfold hexNumber? at h
  dsimp only at h
  split at h
  · exact nomatch h
  generalize s.take n = ds at h
  -- The number is put together from the left, so its last digit is the last step.
  induction ds using List.reverseRecOn generalizing v with
  | nil => exact List.not_mem_nil
  | append_singleton ds d ih =>
    rw [List.foldl_append] at h
    obtain ⟨w, hw, h⟩ := Option.bind_eq_some_iff.mp h
    obtain ⟨x, hx, -⟩ := Option.bind_eq_some_iff.mp h
    rw [List.mem_append, List.mem_singleton]
    rintro (hmem | rfl)
    · exact ih hw hmem
    · exact nomatch hx

/-- Nor has an escape by number. -/
theorem notMem_of_hexEscape? {n m : Nat} {s : List Char} {x : Char}
    (h : hexEscape? n s = some (x, m)) : m = n + 1 ∧ '=' ∉ s.take n := by
  obtain ⟨v, hv, h⟩ := Option.bind_eq_some_iff.mp h
  split at h
  · exact nomatch h
  · exact ⟨(Prod.mk.inj (Option.some.inj h)).2.symm, notMem_of_hexNumber? hv⟩

/-- No escape is written with an equals sign. -/
theorem notMem_of_escape? {s : List Char} {x : Char} {n : Nat} (h : escape? s = some (x, n)) :
    '=' ∉ s.take n := by
  -- An escape is a single character or a mark with its digits, and no equals sign is among them.
  have hone : ∀ {c d : Char} {rest : List Char}, c ≠ '=' → some (d, 1) = some (x, n) →
      '=' ∉ (c :: rest).take n := by
    rintro c d rest hc heq
    obtain ⟨-, rfl⟩ := Prod.mk.inj (Option.some.inj heq)
    simpa using hc.symm
  have hhex : ∀ {c : Char} {rest : List Char} {k : Nat}, c ≠ '=' →
      hexEscape? k rest = some (x, n) → '=' ∉ (c :: rest).take n := by
    rintro c rest k hc heq
    obtain ⟨rfl, hnot⟩ := notMem_of_hexEscape? heq
    rw [List.take_succ_cons, List.mem_cons, not_or]
    exact ⟨hc.symm, hnot⟩
  unfold escape? at h
  split at h
  next => exact nomatch h
  next =>
    split at h
    all_goals first
      | exact hone (by decide) h
      | exact hhex (by decide) h
      | exact nomatch h

/-- The words between two gaps of a quoted scalar are read. -/
theorem takes_of_quotedRun? {double joined : Bool}
    (h : quotedRun? double fuel c acc = some (acc', c', joined)) : c.Takes acc c' acc' := by
  induction fuel generalizing c acc with
  | zero => exact nomatch h
  | succ fuel ih =>
    have hstop : ∀ {j : Bool}, some (acc, c, j) = some (acc', c', joined) → c.Takes acc c' acc' := by
      intro j heq
      obtain ⟨rfl, hcursor⟩ := Prod.mk.inj (Option.some.inj heq)
      obtain ⟨rfl, -⟩ := Prod.mk.inj hcursor
      exact .refl c acc
    unfold quotedRun? at h
    split at h
    next => exact hstop h
    next d rest hrest =>
      split_ifs at h with hgap hmark hend hescape
      · exact hstop h
      · -- A single quote ends the text, unless it is doubled: then it stands for itself.
        split at h
        next =>
          obtain ⟨-, hmark⟩ := Bool.and_eq_true_iff.mp hmark
          obtain rfl := beq_iff_eq.mp hmark
          have hskips : c.Skips (c.skip 2) := Cursor.skips_skip (by simp [hrest])
          exact (hskips.takes (List.mem_append_left _)).trans (ih h)
        next => exact hstop h
      · exact hstop h
      · obtain ⟨-, hescape⟩ := Bool.and_eq_true_iff.mp hescape
        obtain rfl := beq_iff_eq.mp hescape
        split at h
        next e tail =>
          split at h
          -- A backslash at the end of a line is passed with the line end, any other is an escape.
          next hbreak =>
            obtain ⟨rfl, hcursor⟩ := Prod.mk.inj (Option.some.inj h)
            obtain ⟨rfl, -⟩ := Prod.mk.inj hcursor
            have hbackslash : c.Skips (c.skip 1) := Cursor.skips_skip (by simp [hrest])
            have hbreak : isBreakEnd (c.skip 1).rest = true := by
              rw [Cursor.skip, hrest]
              exact hbreak
            exact (hbackslash.trans (Cursor.skips_skipBreak hbreak)).takes id
          next =>
            split at h
            next x n hx =>
              have hskips : c.Skips (c.skip (n + 1)) := by
                refine Cursor.skips_skip ?_
                rw [hrest, List.take_succ_cons, List.mem_cons, not_or]
                exact ⟨by decide, notMem_of_escape? hx⟩
              exact (hskips.takes (List.mem_append_left _)).trans (ih h)
            next => exact nomatch h
        next => exact nomatch h
      · exact (Cursor.takes_char hrest).trans (ih h)

/-- A quoted scalar is read from any place in it. -/
theorem takes_of_quotedFrom? {double : Bool}
    (h : quotedFrom? double fuel c acc = some (acc', c')) : c.Takes acc c' acc' := by
  induction fuel generalizing c acc with
  | zero => exact nomatch h
  | succ fuel ih =>
    unfold quotedFrom? at h
    split at h
    next => exact nomatch h
    next =>
      split at h
      next => exact nomatch h
      next acc₁ c₁ joined hrun =>
        refine (takes_of_quotedRun? hrun).trans ?_
        -- Behind the run is the closing quote, or a gap with more text to come.
        have hmark : (if double then '"' else '\'') ≠ '=' := by cases double <;> decide
        generalize (if double then '"' else '\'') = mark at h hmark
        by_cases hquote : (! joined && c₁.rest.head? == some mark) = true
        · rw [if_pos hquote] at h
          obtain ⟨rfl, rfl⟩ := Prod.mk.inj (Option.some.inj h)
          obtain ⟨-, hquote⟩ := Bool.and_eq_true_iff.mp hquote
          obtain ⟨rest, hrest⟩ := List.head?_eq_some_iff.mp (beq_iff_eq.mp hquote)
          have hskips : c₁.Skips (c₁.skip 1) := Cursor.skips_skip (by simpa [hrest] using hmark.symm)
          exact hskips.takes id
        · rw [if_neg hquote] at h
          split at h
          next => exact nomatch h
          next g c₂ hgap =>
            exact ((Gap.skips_of_read? hgap).takes (List.mem_append_left _)).trans (ih h)

/-- A quoted scalar is read. -/
theorem takes_of_quoted? {double : Bool} {text : List Char} (h : quoted? double c = some (text, c')) :
    c.Takes [] c' text :=
  takes_of_quotedFrom? h

/-! ### Without quotes -/

/-- The words on a line of a plain scalar are read. -/
theorem takes_of_plainRun? {inFlow : Bool} (h : plainRun? inFlow fuel c acc = some (acc', c')) :
    c.Takes acc c' acc' := by
  induction fuel generalizing c acc with
  | zero => exact nomatch h
  | succ fuel ih =>
    -- The scalar ends with the text or where one of three tests fails; else the character belongs
    -- to it.
    have hstop : some (acc, c) = some (acc', c') → c.Takes acc c' acc' := by
      intro heq
      obtain ⟨rfl, rfl⟩ := Prod.mk.inj (Option.some.inj heq)
      exact .refl c acc
    unfold plainRun? at h
    split at h
    next => exact hstop h
    next d rest hrest =>
      split_ifs at h
      · exact hstop h
      · exact hstop h
      · exact hstop h
      · exact (Cursor.takes_char hrest).trans (ih h)

/-- A plain scalar is read from any place in it. -/
theorem takes_of_plainFrom? {inFlow broken : Bool} {indent : Nat}
    (h : plainFrom? inFlow indent fuel c acc g = some (acc', c', broken)) :
    c.Takes acc c' acc' := by
  induction fuel generalizing c acc g with
  | zero => exact nomatch h
  | succ fuel ih =>
    have hstop : ∀ {c acc b}, some (acc, c, b) = some (acc', c', broken) → c.Takes acc c' acc' := by
      intro c acc b heq
      obtain ⟨rfl, hcursor⟩ := Prod.mk.inj (Option.some.inj heq)
      obtain ⟨rfl, -⟩ := Prod.mk.inj hcursor
      exact .refl c acc
    unfold plainFrom? at h
    split at h
    next => exact hstop h
    next =>
      split at h
      next => exact nomatch h
      next run c₁ hrun =>
        -- The gap before a run is written with the run, and kept back when the run is empty.
        have htext : c.Takes acc c₁
            (if run.isEmpty then (acc, g) else (acc ++ g.text ++ run, .empty)).1 := by
          obtain ⟨-, hrun⟩ := takes_of_plainRun? hrun
          split
          next hempty =>
            obtain rfl := List.isEmpty_iff.mp hempty
            exact ⟨id, hrun.imp_right nofun⟩
          next =>
            exact ⟨fun hmem => List.mem_append_left _ (List.mem_append_left _ hmem),
              hrun.imp_right (List.mem_append_right _)⟩
        generalize (if run.isEmpty then (acc, g) else (acc ++ g.text ++ run, .empty)) = so_far
          at h htext
        obtain ⟨acc₁, g₁⟩ := so_far
        refine htext.trans ?_
        dsimp only at h
        split at h
        next => exact hstop h
        next d rest hrest =>
          split at h
          next =>
            split at h
            next => exact nomatch h
            next g₂ c₂ hgap =>
              have hskips := Gap.skips_of_read? hgap
              split at h
              next => exact (hskips.takes id).trans (hstop h)
              next => exact (hskips.takes id).trans (ih h)
          next => exact hstop h

/-- A plain scalar is read. -/
theorem takes_of_plain? {inFlow broken : Bool} {indent : Nat} {text : List Char}
    (h : plain? inFlow indent c = some (text, c', broken)) : c.Takes [] c' text :=
  takes_of_plainFrom? h

/-! ### Blocks -/

/-- The header of a block scalar is passed. -/
theorem skips_of_blockHeader? {chomping : Chomping} {given : Option Nat}
    (h : blockHeader? c = some (chomping, given, c')) : c.Skips c' := by
  have hstop : ∀ {c : Cursor} {x}, some x = some (chomping, given, c') → c.Skips x.2.2 →
      c.Skips c' := by
    intro c x heq hskips
    rwa [Option.some.inj heq] at hskips
  unfold blockHeader? at h
  extract_lets chomping? digit? at h
  have hchomping : ∀ {c : Cursor} {x}, chomping? c.rest = some x → c.Skips (c.skip 1) := by
    intro c x hx
    simp only [chomping?] at hx
    split at hx
    next hrest => exact Cursor.skips_skip (by simp [hrest])
    next hrest => exact Cursor.skips_skip (by simp [hrest])
    next => exact nomatch hx
  have hdigit : ∀ {c : Cursor} {n}, digit? c.rest = some n → c.Skips (c.skip 1) := by
    intro c n hn
    simp only [digit?] at hn
    split at hn
    next hrest =>
      split at hn
      next hd => exact Cursor.skips_one hrest hd (by decide)
      next => exact nomatch hn
    next => exact nomatch hn
  -- The two marks of a header come in either order, and each may be missing.
  split at h
  next hx =>
    refine (hchomping hx).trans ?_
    split at h
    next => exact nomatch h
    next n _ hn => exact hstop h (hdigit hn)
    next => exact hstop h (.refl _)
  next =>
    split at h
    next => exact nomatch h
    next n _ hn =>
      refine (hdigit hn).trans ?_
      split at h
      next hx => exact hstop h (hchomping hx)
      next => exact hstop h (.refl _)
    next => exact hstop h (.refl _)

/-- The empty lines of a block scalar are passed. -/
theorem skips_of_blockBreaks? {indent : Option Nat} {widest widest' : Nat}
    (h : blockBreaks? indent fuel c widest acc = some (acc', widest', c')) : c.Skips c' := by
  induction fuel generalizing c widest acc with
  | zero => exact nomatch h
  | succ fuel ih =>
    unfold blockBreaks? at h
    extract_lets blanks c₁ widest₁ early at h
    -- Blanks are taken up to the indentation.
    have hblanks : c.Skips c₁ := by
      refine Cursor.skips_skip_le (p := (· == ' ')) ?_ (by decide)
      split
      next => exact Nat.min_le_left _ _
      next => exact le_rfl
    refine hblanks.trans ?_
    -- A break goes on to the next line, and anything else ends the breaks.
    split at h
    next d rest hrest =>
      split at h
      next => exact nomatch h
      next =>
        split at h
        next hbreak => exact (Cursor.skips_skipBreak (hrest ▸ hbreak)).trans (ih h)
        next =>
          obtain ⟨-, hcursor⟩ := Prod.mk.inj (Option.some.inj h)
          exact (Prod.mk.inj hcursor).2 ▸ .refl _
    next =>
      obtain ⟨-, hcursor⟩ := Prod.mk.inj (Option.some.inj h)
      exact (Prod.mk.inj hcursor).2 ▸ .refl _

/-- The lines of a block scalar are read. -/
theorem takes_of_blockLines? {literal wasBlank : Bool} {indent : Nat}
    {first first' more more' : List Char}
    (h : blockLines? literal indent fuel c acc first more wasBlank = some (acc', first', more', c')) :
    c.Takes acc c' acc' := by
  induction fuel generalizing c acc first more wasBlank with
  | zero => exact nomatch h
  | succ fuel ih =>
    have hstop : some (acc, first, more, c) = some (acc', first', more', c') →
        c.Takes acc c' acc' := by
      intro heq
      obtain ⟨rfl, htail⟩ := Prod.mk.inj (Option.some.inj heq)
      obtain ⟨-, htail⟩ := Prod.mk.inj htail
      exact (Prod.mk.inj htail).2 ▸ .refl c acc
    unfold blockLines? at h
    split at h
    next => exact hstop h
    next d rest hrest =>
      split at h
      next => exact hstop h
      next =>
        extract_lets joint line after at h
        split at h
        next => exact nomatch h
        next breaks widest c₁ hbreaks =>
          -- The whole line is taken, and what is passed up to the next one are breaks and blanks.
          have hline : c.Takes acc after (acc ++ joint ++ more ++ line) := by
            refine Cursor.takes_skip (fun hmem => ?_) fun hmem => ?_
            · exact List.mem_append_left _ (List.mem_append_left _ (List.mem_append_left _ hmem))
            · rw [Cursor.take_length_takeWhile] at hmem
              exact List.mem_append_right _ hmem
          have hbreak : isBreakEnd after.rest = true := Cursor.isBreakEnd_skipWhile
          have hskips := (Cursor.skips_skipBreak hbreak).trans (skips_of_blockBreaks? hbreaks)
          exact (hline.trans (hskips.takes id)).trans (ih h)

/-- A block scalar is read. -/
theorem takes_of_block? {literal : Bool} {outer : Int} {text : List Char}
    (h : block? literal outer c = some (text, c')) : c.Takes [] c' text := by
  obtain ⟨⟨chomping, given, c₁⟩, hheader, h⟩ := Option.bind_eq_some_iff.mp h
  dsimp -zeta only at h
  extract_lets c₂ c₃ c₄ indent? at h
  split at h
  next => exact nomatch h
  next hbreak =>
    obtain ⟨⟨breaks, widest, c₅⟩, hbreaks, h⟩ := Option.bind_eq_some_iff.mp h
    obtain ⟨⟨lines, first, more, c₆⟩, hlines, h⟩ := Option.bind_eq_some_iff.mp h
    obtain ⟨rfl, rfl⟩ := Prod.mk.inj (Option.some.inj h)
    have hline : c.Skips c₃ := (skips_of_blockHeader? hheader).trans
      ((Cursor.skips_skipWhile (by decide)).trans Cursor.skips_comment)
    have hbreak : c₃.Skips c₄ := Cursor.skips_skipBreak (by simpa using hbreak)
    have hstart := (hline.trans hbreak).trans (skips_of_blockBreaks? hbreaks)
    -- How the end of the block is chomped takes nothing away from its lines.
    refine ((hstart.takes id).trans (takes_of_blockLines? hlines)).trans
      ((Cursor.Skips.refl c₆).takes fun hmem => ?_)
    split_ifs <;> simp [hmem]

end LinkAtlas.Yaml
