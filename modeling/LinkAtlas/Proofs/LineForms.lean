import LinkAtlas.Proofs.Lines
import LinkAtlas.Reference.Extract
import Mathlib.Data.List.TakeWhile

namespace LinkAtlas.Reference

/-!
# The forms on a line

A wiki form is what stands between double brackets, a link is a label in brackets that a destination
in parentheses follows. Wiki forms never share a character, so a search from left to right finds
them all. Links may do so, as in `[a](b[c)d](e)`; of these the search finds the first, and goes on
where it stops.

* `WikiSpan.IsOn`, `LinkSpan.IsOn` — the places where a line reads one of the forms;
* `LinkSpan.Leftmost`, `LinkSpan.Leftmost.unique` — the links that a search from left to right comes
  to; there is one such list;
* `wikiAt?_eq_some_iff`, `linkAt?_eq_some_iff` — the forms that a text starts with;
* `wikiAt?_drop_eq_none` — no wiki form starts inside another one;
* `mem_wikiSpans_iff`, `pairwise_wikiSpans` — so the wiki forms found are those on the line;
* `leftmost_plainSpans`, `isImage_iff_of_mem` — the links found are the leftmost ones, the images
  are those that a `!` stands before.
-/

/-! ### Where a line reads a form -/

/-- From the start of the wiki form on, the line reads `[[inner]]`. Something stands inside, and no
    bracket does. -/
structure WikiSpan.IsOn (w : WikiSpan) (line : List Char) : Prop where
  reads : ∃ back, line.drop w.start = '[' :: '[' :: (w.inner ++ ']' :: ']' :: back)
  stop_eq : w.stop = w.start + w.inner.length + 4
  ne_nil : w.inner ≠ []
  no_bracket : ∀ c ∈ w.inner, c ≠ '[' ∧ c ≠ ']'

/-- A place `[label](dest)`, which is an image when a `!` stands before it. -/
structure LinkSpan where
  start : Nat
  stop : Nat
  label : List Char
  dest : List Char
  deriving DecidableEq, Repr

namespace LinkSpan

/-- From the start of the link on, the line reads `[label](dest)`. The label has no bracket and the
    destination no parenthesis. -/
structure IsOn (l : LinkSpan) (line : List Char) : Prop where
  reads : ∃ back, line.drop l.start =
    '[' :: (l.label ++ ']' :: '(' :: (l.dest ++ ')' :: back))
  stop_eq : l.stop = l.start + l.label.length + l.dest.length + 4
  no_bracket : ∀ c ∈ l.label, c ≠ '[' ∧ c ≠ ']'
  no_parenthesis : ∀ c ∈ l.dest, c ≠ '(' ∧ c ≠ ')'

/-- Whether a `!` stands before the link. -/
def IsImage (line : List Char) (l : LinkSpan) : Prop :=
  ∃ k, k + 1 = l.start ∧ (line)[k]? = some '!'

/-- The links that a search from a position on comes to: each is the first one on the line that
    starts where the one before it stops, or later. -/
inductive Leftmost (line : List Char) : Nat → List LinkSpan → Prop where
  | done {pos : Nat} (hnone : ∀ m : LinkSpan, m.IsOn line → m.start < pos) : Leftmost line pos []
  | next {pos : Nat} {l : LinkSpan} {ls : List LinkSpan} (hon : l.IsOn line) (hpos : pos ≤ l.start)
      (hfirst : ∀ m : LinkSpan, m.IsOn line → pos ≤ m.start → l.start ≤ m.start)
      (hrest : Leftmost line l.stop ls) : Leftmost line pos (l :: ls)

end LinkSpan

/-! ### The forms that a text starts with -/

/-- A wiki form is read where double brackets stand around characters that are no brackets. -/
theorem wikiAt?_eq_some_iff {s inner : List Char} : wikiAt? s = some inner ↔
    inner ≠ [] ∧ (∀ c ∈ inner, isInner c = true) ∧
      ∃ back, s = '[' :: '[' :: (inner ++ ']' :: ']' :: back) := by
  constructor
  · intro h
    unfold wikiAt? at h
    split at h
    · rename_i rest
      dsimp only at h
      split at h
      · exact nomatch h
      · rename_i hne
        split at h
        · rename_i back hback
          obtain rfl := Option.some.inj h
          -- The scanner stops at the first character that is not inner, and there the brackets have
          -- to close.
          refine ⟨fun hnil => hne (by rw [hnil]; rfl), fun _ => List.mem_takeWhile_imp, back, ?_⟩
          rw [← Text.eq_takeWhile_append hback]
        · exact nomatch h
    · exact nomatch h
  · rintro ⟨hne, hinner, back, rfl⟩
    have htake := Text.takeWhile_append_of_neg hinner (c := ']') rfl (']' :: back)
    simp [wikiAt?, htake, hne]

/-- A link is read where a label between brackets and a destination between parentheses stand. -/
theorem linkAt?_eq_some_iff {s label dest : List Char} : linkAt? s = some (label, dest) ↔
    (∀ c ∈ label, isInner c = true) ∧ (∀ c ∈ dest, isDest c = true) ∧
      ∃ back, s = '[' :: (label ++ ']' :: '(' :: (dest ++ ')' :: back)) := by
  constructor
  · intro h
    unfold linkAt? at h
    split at h
    · rename_i rest
      dsimp only at h
      split at h
      · rename_i rest' hrest
        split at h
        · rename_i back hback
          obtain ⟨rfl, rfl⟩ := Prod.mk.inj (Option.some.inj h)
          refine ⟨fun _ => List.mem_takeWhile_imp, fun _ => List.mem_takeWhile_imp, back, ?_⟩
          rw [← Text.eq_takeWhile_append hback, ← Text.eq_takeWhile_append hrest]
        · exact nomatch h
      · exact nomatch h
    · exact nomatch h
  · rintro ⟨hlabel, hdest, back, rfl⟩
    have htakeLabel :=
      Text.takeWhile_append_of_neg hlabel (c := ']') rfl ('(' :: (dest ++ ')' :: back))
    have htakeDest := Text.takeWhile_append_of_neg hdest (c := ')') rfl back
    simp [linkAt?, htakeLabel, htakeDest]

/-! ### Wiki forms -/

/-- After the two brackets that open a wiki form, no bracket opens before its end. -/
theorem getElem?_of_wikiAt? {s inner : List Char} (h : wikiAt? s = some inner) {i : Nat}
    (hi : 2 ≤ i) (hstop : i < inner.length + 4) : s[i]? ≠ some '[' := by
  obtain ⟨-, hinner, back, rfl⟩ := wikiAt?_eq_some_iff.mp h
  obtain ⟨j, rfl⟩ := Nat.exists_eq_add_of_le' hi
  have hj : j < (inner ++ [']', ']']).length := by
    rw [List.length_append, List.length_cons, List.length_singleton]
    omega
  have hsplit : inner ++ ']' :: ']' :: back = inner ++ [']', ']'] ++ back := by simp
  -- A place behind the opening brackets lies in the inner text or in the closing ones.
  rw [List.getElem?_cons_succ, List.getElem?_cons_succ, hsplit, List.getElem?_append_left hj]
  intro hget
  rcases List.mem_append.mp (List.mem_of_getElem? hget) with hm | hm
  · exact absurd (hinner _ hm) (by decide)
  · exact absurd hm (by decide)

/-- No wiki form starts inside another one: it would need two brackets that open. -/
theorem wikiAt?_drop_eq_none {s inner : List Char} (h : wikiAt? s = some inner) {k : Nat}
    (hk : 0 < k) (hstop : k < inner.length + 4) : wikiAt? (s.drop k) = none := by
  refine Option.eq_none_iff_forall_ne_some.mpr fun other hother => ?_
  obtain ⟨-, -, back, hdrop⟩ := wikiAt?_eq_some_iff.mp hother
  have hfirst : s[k]? = some '[' := by
    rw [← Nat.add_zero k, ← List.getElem?_drop, hdrop]
    rfl
  have hsecond : s[k + 1]? = some '[' := by
    rw [← List.getElem?_drop, hdrop]
    rfl
  -- A form that starts inside has a bracket where the first form has none; at the last place it is
  -- its first bracket, before that its second.
  by_cases hlast : k + 1 < inner.length + 4
  · exact getElem?_of_wikiAt? h (by omega) hlast hsecond
  · exact getElem?_of_wikiAt? h (by omega) hstop hfirst

/-- A search for wiki forms finds those that start after the characters to be skipped. -/
theorem mem_wikiSpansFrom_iff {pos skip : Nat} {s : List Char} {w : WikiSpan} :
    w ∈ wikiSpansFrom pos skip s ↔ ∃ k, skip ≤ k ∧ w.start = pos + k ∧
      wikiAt? (s.drop k) = some w.inner ∧ w.stop = w.start + w.inner.length + 4 := by
  induction s generalizing pos skip with
  | nil =>
    refine iff_of_false List.not_mem_nil ?_
    rintro ⟨k, -, -, hat, -⟩
    rw [List.drop_nil] at hat
    exact nomatch hat
  | cons c rest ih =>
    cases skip with
    | succ skip =>
      rw [wikiSpansFrom, ih]
      constructor
      · rintro ⟨k, hk, hstart, hat⟩
        exact ⟨k + 1, by omega, by omega, hat⟩
      · rintro ⟨_ | k, hk, hstart, hat⟩
        · exact absurd hk (by omega)
        · exact ⟨k, by omega, by omega, hat⟩
    | zero =>
      rw [wikiSpansFrom]
      split
      · rename_i inner hinner
        rw [List.mem_cons, ih]
        constructor
        · rintro (rfl | ⟨k, -, hstart, hat⟩)
          · exact ⟨0, Nat.le_refl 0, rfl, hinner, rfl⟩
          · exact ⟨k + 1, Nat.zero_le _, by omega, hat⟩
        · rintro ⟨_ | k, -, hstart, hat, hstop⟩
          · left
            obtain rfl : inner = w.inner := Option.some.inj (hinner.symm.trans hat)
            obtain ⟨start, stop, inner⟩ := w
            simp_all
          · -- The characters that are skipped belong to a form, where no other one starts.
            right
            refine ⟨k, ?_, by omega, hat, hstop⟩
            by_contra hlt
            have hnone := wikiAt?_drop_eq_none hinner (Nat.succ_pos k) (by omega)
            exact nomatch hat.symm.trans hnone
      · rename_i hnone
        rw [ih]
        constructor
        · rintro ⟨k, -, hstart, hat⟩
          exact ⟨k + 1, Nat.zero_le _, by omega, hat⟩
        · rintro ⟨_ | k, -, hstart, hat⟩
          · exact nomatch hat.1.symm.trans hnone
          · exact ⟨k, Nat.zero_le k, by omega, hat⟩

/-- Wiki forms are found from left to right and do not overlap. -/
theorem pairwise_wikiSpansFrom (pos skip : Nat) (s : List Char) :
    (wikiSpansFrom pos skip s).Pairwise fun v w => v.stop ≤ w.start := by
  -- By induction on the text that is left; while characters are skipped the form found before
  -- lasts.
  induction s generalizing pos skip with
  | nil => exact .nil
  | cons c rest ih =>
    cases skip with
    | succ skip => exact ih (pos + 1) skip
    | zero =>
      rw [wikiSpansFrom]
      split
      · refine .cons (fun w hw => ?_) (ih _ _)
        obtain ⟨k, hk, hstart, -⟩ := mem_wikiSpansFrom_iff.mp hw
        show pos + _ + 4 ≤ w.start
        omega
      · exact ih (pos + 1) 0

/-- No wiki form stops after the start of a later one. -/
theorem pairwise_wikiSpans (line : List Char) :
    (wikiSpans line).Pairwise fun v w => v.stop ≤ w.start := pairwise_wikiSpansFrom 0 0 line

/-- On a line, the characters inside brackets are those that are no brackets. -/
theorem isInner_iff {c : Char} (hc : c ≠ '\n') : isInner c = true ↔ c ≠ '[' ∧ c ≠ ']' := by
  simp [isInner, hc]

/-- The characters of a part of a line are on the line. -/
theorem ne_newline_of_drop {line : List Char} (hline : '\n' ∉ line) {k : Nat} (front : List Char)
    {t back : List Char} (h : line.drop k = front ++ (t ++ back)) {c : Char} (hc : c ∈ t) :
    c ≠ '\n' := by
  rintro rfl
  refine hline (List.mem_of_mem_drop (i := k) ?_)
  rw [h]
  simp [hc]

/-- The wiki forms that are found are those on the line; none is missed. -/
theorem mem_wikiSpans_iff {line : List Char} (hline : '\n' ∉ line) {w : WikiSpan} :
    w ∈ wikiSpans line ↔ w.IsOn line := by
  rw [wikiSpans, mem_wikiSpansFrom_iff]
  constructor
  · rintro ⟨k, -, hstart, hat, hstop⟩
    rw [Nat.zero_add] at hstart
    obtain ⟨hne, hinner, back, hdrop⟩ := wikiAt?_eq_some_iff.mp hat
    refine ⟨⟨back, by rw [hstart, hdrop]⟩, hstop, hne, fun c hc => ?_⟩
    exact (isInner_iff (ne_newline_of_drop hline ['[', '['] hdrop hc)).mp (hinner c hc)
  · rintro ⟨⟨back, hdrop⟩, hstop, hne, hbracket⟩
    refine ⟨w.start, Nat.zero_le _, (Nat.zero_add _).symm, ?_, hstop⟩
    -- What the scanner takes for inner text may hold a line break, but a line has none.
    refine wikiAt?_eq_some_iff.mpr ⟨hne, fun c hc => ?_, back, hdrop⟩
    exact (isInner_iff (ne_newline_of_drop hline ['[', '['] hdrop hc)).mpr (hbracket c hc)

/-! ### Links -/

/-- A link is on a line exactly if the reader finds it at its start. -/
theorem LinkSpan.isOn_iff {line : List Char} (hline : '\n' ∉ line) {l : LinkSpan} : l.IsOn line ↔
    linkAt? (line.drop l.start) = some (l.label, l.dest) ∧
      l.stop = l.start + l.label.length + l.dest.length + 4 := by
  have hdest : ∀ {c : Char}, c ≠ '\n' → (isDest c = true ↔ c ≠ '(' ∧ c ≠ ')') := fun hc => by
    simp [isDest, hc]
  -- The line has no line feed, neither in the label nor in the destination.
  have hfeed : ∀ {back : List Char},
      line.drop l.start = '[' :: (l.label ++ ']' :: '(' :: (l.dest ++ ')' :: back)) →
      (∀ c ∈ l.label, c ≠ '\n') ∧ ∀ c ∈ l.dest, c ≠ '\n' := by
    intro back hdrop
    constructor
    · exact fun c hc => ne_newline_of_drop hline ['['] hdrop hc
    · have hdrop' : line.drop l.start =
          ('[' :: (l.label ++ [']', '('])) ++ (l.dest ++ ')' :: back) := by simp [hdrop]
      exact fun c hc => ne_newline_of_drop hline _ hdrop' hc
  rw [linkAt?_eq_some_iff]
  constructor
  · rintro ⟨⟨back, hdrop⟩, hstop, hbracket, hparenthesis⟩
    obtain ⟨hlabelFeed, hdestFeed⟩ := hfeed hdrop
    exact ⟨⟨fun c hc => (isInner_iff (hlabelFeed c hc)).mpr (hbracket c hc),
      fun c hc => (hdest (hdestFeed c hc)).mpr (hparenthesis c hc), back, hdrop⟩, hstop⟩
  · rintro ⟨⟨hinner, hisDest, back, hdrop⟩, hstop⟩
    obtain ⟨hlabelFeed, hdestFeed⟩ := hfeed hdrop
    exact ⟨⟨back, hdrop⟩, hstop, fun c hc => (isInner_iff (hlabelFeed c hc)).mp (hinner c hc),
      fun c hc => (hdest (hdestFeed c hc)).mp (hisDest c hc)⟩

namespace PlainSpan

/-- The link of a plain form, which stands behind the mark of an image. -/
def link (p : PlainSpan) : LinkSpan :=
  ⟨if p.isImage then p.start + 1 else p.start, p.stop, p.label, p.dest⟩

/-- The link of a span that is no image is the whole span. -/
theorem link_of_not_isImage {p : PlainSpan} (h : p.isImage = false) :
    p.link = ⟨p.start, p.stop, p.label, p.dest⟩ := by
  simp [link, h]

end PlainSpan

/-- A plain form is a link at the start of the text, or one behind a mark with which the text
    starts. -/
theorem plainAt?_eq_some {pos : Nat} {s : List Char} {p : PlainSpan} (h : plainAt? pos s = some p) :
    p.start = pos ∧ linkAt? (s.drop (p.link.start - pos)) = some (p.label, p.dest) ∧
      p.stop = p.link.start + p.label.length + p.dest.length + 4 ∧
      (p.isImage = true ↔ s.head? = some '!') := by
  unfold plainAt? at h
  split at h
  · rename_i rest
    obtain ⟨⟨label, dest⟩, hlink, rfl⟩ := Option.map_eq_some_iff.mp h
    refine ⟨rfl, ?_, ?_, iff_of_true rfl rfl⟩
    · simpa [PlainSpan.link] using hlink
    · simp only [PlainSpan.link, if_true]
      omega
  · rename_i hmark
    obtain ⟨⟨label, dest⟩, hlink, rfl⟩ := Option.map_eq_some_iff.mp h
    refine ⟨rfl, ?_, ?_, iff_of_false Bool.false_ne_true fun hhead => ?_⟩
    · simpa [PlainSpan.link] using hlink
    · simp [PlainSpan.link]
    · obtain ⟨rest, rfl⟩ := List.head?_eq_some_iff.mp hhead
      exact hmark rest rfl

/-- A text that starts with no plain form starts with no link, and neither does what follows a
    mark. -/
theorem linkAt?_of_plainAt?_eq_none {pos : Nat} {c : Char} {rest : List Char}
    (h : plainAt? pos (c :: rest) = none) :
    linkAt? (c :: rest) = none ∧ (c = '!' → linkAt? rest = none) := by
  unfold plainAt? at h
  split at h
  · rename_i rest' heq
    obtain ⟨rfl, rfl⟩ := List.cons.inj heq
    exact ⟨rfl, fun _ => Option.map_eq_none_iff.mp h⟩
  · rename_i hmark
    exact ⟨Option.map_eq_none_iff.mp h, fun hc => absurd (by rw [hc]) (hmark rest)⟩

namespace LinkSpan

variable {line : List Char}

/-- Nothing is lost by starting a search where no link starts. -/
theorem Leftmost.of_succ {pos : Nat} {ls : List LinkSpan} (h : Leftmost line (pos + 1) ls)
    (hpos : ∀ m : LinkSpan, m.IsOn line → m.start ≠ pos) : Leftmost line pos ls := by
  cases h with
  | done hnone =>
    refine .done fun m hm => ?_
    have hlt := hnone m hm
    have hne := hpos m hm
    omega
  | next hon hle hfirst hrest =>
    refine .next hon (by omega) (fun m hm hpm => ?_) hrest
    have hne := hpos m hm
    exact hfirst m hm (by omega)

/-- Links that are leftmost from a position start there or later. -/
theorem Leftmost.le_start {pos : Nat} {ls : List LinkSpan} (h : Leftmost line pos ls) :
    ∀ l ∈ ls, pos ≤ l.start := by
  induction h with
  | done => exact fun l hl => nomatch hl
  | next hon hpos _ _ ih =>
    intro l hl
    rcases List.mem_cons.mp hl with rfl | hl
    · exact hpos
    · have hle := ih l hl
      have hstop := hon.stop_eq
      omega

/-- No link stops after the start of a later one. -/
theorem Leftmost.pairwise {pos : Nat} {ls : List LinkSpan} (h : Leftmost line pos ls) :
    ls.Pairwise fun l m => l.stop ≤ m.start := by
  induction h with
  | done => exact .nil
  | next _ _ _ hrest ih => exact .cons (fun l hl => hrest.le_start l hl) ih

/-- Leftmost links are on the line. -/
theorem Leftmost.isOn {pos : Nat} {ls : List LinkSpan} (h : Leftmost line pos ls) :
    ∀ l ∈ ls, l.IsOn line := by
  induction h with
  | done => exact fun l hl => nomatch hl
  | next hon _ _ _ ih =>
    intro l hl
    rcases List.mem_cons.mp hl with rfl | hl
    · exact hon
    · exact ih l hl

/-- A link starts on its line. -/
theorem IsOn.start_lt_length {l : LinkSpan} (h : l.IsOn line) : l.start < line.length := by
  obtain ⟨back, hreads⟩ := h.reads
  by_contra hge
  rw [List.drop_eq_nil_iff.mpr (Nat.le_of_not_lt hge)] at hreads
  exact nomatch hreads

/-- The last character of a link is a closing parenthesis. -/
theorem IsOn.getElem?_last {l : LinkSpan} (h : l.IsOn line) {k : Nat} (hk : k + 1 = l.stop) :
    (line)[k]? = some ')' := by
  obtain ⟨back, hreads⟩ := h.reads
  have hstop := h.stop_eq
  -- The closing parenthesis stands behind the label, the destination and three other marks.
  have hsplit : line.drop l.start =
      ('[' :: (l.label ++ ']' :: '(' :: l.dest)) ++ ')' :: back := by simp [hreads]
  have hlength : ('[' :: (l.label ++ ']' :: '(' :: l.dest)).length =
      l.label.length + l.dest.length + 3 := by
    simp only [List.length_cons, List.length_append]
    omega
  have hindex : k = l.start + ('[' :: (l.label ++ ']' :: '(' :: l.dest)).length := by
    rw [hlength]
    omega
  rw [hindex, ← List.getElem?_drop, hsplit, List.getElem?_append_right (Nat.le_refl _),
    Nat.sub_self]
  rfl

/-- One link at most starts at a place. -/
theorem IsOn.eq_of_start_eq (hline : '\n' ∉ line) {l m : LinkSpan} (hl : l.IsOn line)
    (hm : m.IsOn line) (hstart : l.start = m.start) : l = m := by
  obtain ⟨hlat, hlstop⟩ := (isOn_iff hline).mp hl
  obtain ⟨hmat, hmstop⟩ := (isOn_iff hline).mp hm
  rw [hstart] at hlat
  obtain ⟨hlabel, hdest⟩ := Prod.mk.inj (Option.some.inj (hlat.symm.trans hmat))
  have hstop : l.stop = m.stop := by rw [hlstop, hmstop, hstart, hlabel, hdest]
  cases l
  cases m
  simp_all

/-- A search has one result. -/
theorem Leftmost.unique (hline : '\n' ∉ line) {pos : Nat} {ls ls' : List LinkSpan}
    (h : Leftmost line pos ls) (h' : Leftmost line pos ls') : ls = ls' := by
  induction h generalizing ls' with
  | done hnone =>
    cases h' with
    | done => rfl
    | next hon hpos => exact absurd (hnone _ hon) (Nat.not_lt.mpr hpos)
  | next hon hpos hfirst _ ih =>
    cases h' with
    | done hnone => exact absurd (hnone _ hon) (Nat.not_lt.mpr hpos)
    | next hon' hpos' hfirst' hrest' =>
      -- Two leftmost links start at one place, and one place has one link.
      obtain rfl := hon.eq_of_start_eq hline hon'
        (Nat.le_antisymm (hfirst _ hon' hpos') (hfirst' _ hon hpos))
      rw [ih hrest']

end LinkSpan

/-- Dropping one character more leaves the rest. -/
theorem drop_succ_of_drop_eq_cons {line rest : List Char} {c : Char} {pos : Nat}
    (h : line.drop pos = c :: rest) : line.drop (pos + 1) = rest := by
  rw [← List.drop_drop, h]
  rfl

/-- The first character that is left stands at the position. -/
theorem getElem?_of_drop_eq_cons {line rest : List Char} {c : Char} {pos : Nat}
    (h : line.drop pos = c :: rest) : (line)[pos]? = some c := by
  rw [← Nat.add_zero pos, ← List.getElem?_drop, h]
  rfl

section Line

variable {line : List Char} (hline : '\n' ∉ line)
include hline

/-- The link of a plain form at a place of a line is on the line, at the place or behind a mark that
    stands there. -/
theorem isOn_link_of_plainAt? {pos : Nat} {p : PlainSpan}
    (h : plainAt? pos (line.drop pos) = some p) :
    p.link.IsOn line ∧ pos ≤ p.link.start ∧
      p.link.start = (if (line)[pos]? = some '!' then pos + 1 else pos) ∧
      (p.isImage = true ↔ (line)[pos]? = some '!') := by
  obtain ⟨hstart, hlink, hstop, himage⟩ := plainAt?_eq_some h
  rw [List.head?_drop] at himage
  -- An exclamation mark belongs to the image and not to the link behind it.
  have hlinkStart : p.link.start = if (line)[pos]? = some '!' then pos + 1 else pos := by
    simp only [PlainSpan.link, hstart, himage]
  have hle : pos ≤ p.link.start := by
    rw [hlinkStart]
    split <;> omega
  rw [List.drop_drop, Nat.add_sub_cancel' hle] at hlink
  exact ⟨(LinkSpan.isOn_iff hline).mpr ⟨hlink, hstop⟩, hle, hlinkStart, himage⟩

/-- The link of a plain form at a place is the first one from there on. -/
theorem start_le_of_plainAt? {pos : Nat} {p : PlainSpan}
    (h : plainAt? pos (line.drop pos) = some p) {m : LinkSpan} (hm : m.IsOn line)
    (hpos : pos ≤ m.start) : p.link.start ≤ m.start := by
  obtain ⟨-, -, hstart, -⟩ := isOn_link_of_plainAt? hline h
  rw [hstart]
  split
  · -- At the place itself stands the mark of an image, where no link starts.
    rename_i hmark
    have hne : m.start ≠ pos := by
      intro heq
      obtain ⟨back, hreads⟩ := hm.reads
      rw [heq] at hreads
      exact absurd ((getElem?_of_drop_eq_cons hreads).symm.trans hmark) (by decide)
    omega
  · exact hpos

/-- A search for plain forms comes to the links that a search from left to right does. -/
theorem leftmost_plainSpansFrom {pos : Nat} (skip : Nat) {s : List Char} (hs : line.drop pos = s) :
    LinkSpan.Leftmost line (pos + skip) ((plainSpansFrom pos skip s).map PlainSpan.link) := by
  -- By induction on the text that is left; what was found before ends `skip` characters from here.
  induction s generalizing pos skip with
  | nil =>
    refine .done fun m hm => ?_
    have hlength := hm.start_lt_length
    rw [List.drop_eq_nil_iff] at hs
    omega
  | cons c rest ih =>
    have hrest := drop_succ_of_drop_eq_cons hs
    cases skip with
    | succ skip =>
      rw [← Nat.succ_add_eq_add_succ]
      exact ih skip hrest
    | zero =>
      rw [plainSpansFrom]
      split
      · rename_i p hp
        rw [← hs] at hp
        obtain ⟨hon, hpos, -, -⟩ := isOn_link_of_plainAt? hline hp
        refine .next hon hpos (fun m hm => start_le_of_plainAt? hline hp hm) ?_
        have hstop := hon.stop_eq
        -- The next one is looked for behind this link and not behind its first character.
        have heq : p.link.stop = pos + 1 + (p.stop - pos - 1) := by
          show p.link.stop = pos + 1 + (p.link.stop - pos - 1)
          omega
        rw [heq]
        exact ih _ hrest
      · rename_i hnone
        show LinkSpan.Leftmost line pos _
        -- No link starts here, so the leftmost one behind is the leftmost of all.
        refine .of_succ (ih 0 hrest) fun m hm heq => ?_
        have hat := ((LinkSpan.isOn_iff hline).mp hm).1
        rw [heq, hs, (linkAt?_of_plainAt?_eq_none hnone).1] at hat
        exact nomatch hat

/-- The links behind the plain forms that are found are the leftmost ones. -/
theorem leftmost_plainSpans :
    LinkSpan.Leftmost line 0 ((plainSpans line).map PlainSpan.link) :=
  leftmost_plainSpansFrom hline 0 List.drop_zero

/-- A search that does not start behind the mark of an image finds out which links are images. -/
theorem isImage_iff_of_mem_plainSpansFrom {pos skip : Nat} {s : List Char} (hs : line.drop pos = s)
    (hmark : ∀ k, k + 1 = pos + skip → (line)[k]? = some '!' →
      linkAt? (line.drop (pos + skip)) = none) {p : PlainSpan}
    (hp : p ∈ plainSpansFrom pos skip s) :
    p.isImage = true ↔ p.link.IsImage line := by
  induction s generalizing pos skip with
  | nil => exact nomatch hp
  | cons c rest ih =>
    have hrest := drop_succ_of_drop_eq_cons hs
    have hc := getElem?_of_drop_eq_cons hs
    cases skip with
    | succ skip =>
      rw [← Nat.succ_add_eq_add_succ] at hmark
      exact ih hrest hmark hp
    | zero =>
      rw [plainSpansFrom] at hp
      split at hp
      · rename_i q hq
        rw [← hs] at hq
        obtain ⟨hon, hpos, hstart, himage⟩ := isOn_link_of_plainAt? hline hq
        rcases List.mem_cons.mp hp with rfl | hp
        · rw [himage]
          constructor
          · intro h
            exact ⟨pos, by rw [hstart, if_pos h], h⟩
          · rintro ⟨k, hk, hget⟩
            by_contra hne
            rw [hstart, if_neg hne] at hk
            -- The mark before the link would make it a form that starts one character earlier.
            have hnone := hmark k hk hget
            have hat := ((LinkSpan.isOn_iff hline).mp hon).1
            rw [hstart, if_neg hne] at hat
            exact nomatch hat.symm.trans hnone
        · refine ih hrest (fun k hk hget => ?_) hp
          -- The character before the next place is the one that ends the form.
          have hstop := hon.stop_eq
          have hqstop : q.link.stop = q.stop := rfl
          rw [hon.getElem?_last (by omega)] at hget
          exact absurd hget (by decide)
      · rename_i hnone
        refine ih hrest (fun k hk hget => ?_) hp
        obtain rfl : k = pos := Nat.succ.inj hk
        rw [Nat.add_zero, hrest]
        exact (linkAt?_of_plainAt?_eq_none hnone).2 (Option.some.inj (hc.symm.trans hget))

/-- A span counts as an image exactly if its link is one on the line. -/
theorem isImage_iff_of_mem {p : PlainSpan} (hp : p ∈ plainSpans line) :
    p.isImage = true ↔ p.link.IsImage line :=
  isImage_iff_of_mem_plainSpansFrom hline List.drop_zero
    (fun k hk => absurd hk (Nat.succ_ne_zero k)) hp

end Line

end LinkAtlas.Reference
