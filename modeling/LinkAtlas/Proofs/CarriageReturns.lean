import LinkAtlas.Proofs.HeaderCut
import LinkAtlas.Proofs.LineReferences

namespace LinkAtlas

/-!
# How lines end

A text may end its lines in a line feed alone or in a carriage return and a line feed. From the first
line on all positions differ between the two forms, but neither where a document is cut nor what its
lines refer to does.

* `Text.withReturns` — the form of a text with carriage returns, `Text.lines_withReturns` — its lines
  are those of the text, each in this form;
* `Text.exists_ends_of_mem_lines` — a line differs from its other form in its end only, so fences
  (`Header.isFence_withReturns`) and contents (`Text.content_withReturns`) are the same;
* `Header.split_withReturns` — the other form is cut at the same line;
* `Text.MarksAlike` — two codes mark the same characters of a text and of its other form,
  `Text.MarksAlike.right` — and so they do behind the first line;
* `Reference.ofLine_congr`, `Reference.ofLines_withReturns` — a line hangs on the marks of its own
  characters only, and the lines of both forms refer to the same;
* `Document.withReturns_unnoticed` — both together.
-/

namespace Text

/-! ### The form with carriage returns -/

/-- The form of a text in which a carriage return stands before every line feed. -/
def withReturns (s : List Char) : List Char :=
  s.flatMap fun c => if c = '\n' then ['\r', '\n'] else [c]

@[simp] theorem withReturns_nil : withReturns [] = [] := rfl

/-- The other form is made of a text piece by piece. -/
theorem withReturns_append (s t : List Char) :
    withReturns (s ++ t) = withReturns s ++ withReturns t := List.flatMap_append

/-- A line feed gets its carriage return. -/
theorem withReturns_newline (s : List Char) :
    withReturns ('\n' :: s) = '\r' :: '\n' :: withReturns s := rfl

/-- All other characters stay as they are. -/
theorem withReturns_cons {c : Char} (hc : c ≠ '\n') (s : List Char) :
    withReturns (c :: s) = c :: withReturns s := by
  simp [withReturns, hc]

/-- A text without line feeds is its own other form. -/
theorem withReturns_of_notMem {s : List Char} (h : '\n' ∉ s) : withReturns s = s := by
  induction s with
  | nil => rfl
  | cons c s ih =>
    rw [withReturns_cons fun hc => h (by simp [hc]), ih fun hs => h (by simp [hs])]

/-- The other form of pieces in a row is that of each of them. -/
theorem withReturns_flatten (ls : List (List Char)) :
    withReturns ls.flatten = (ls.map withReturns).flatten := by
  induction ls with
  | nil => rfl
  | cons l ls ih => simp [withReturns_append, ih]

/-- The lines of the other form are the lines in that form. -/
theorem lines_withReturns (s : List Char) :
    lines (withReturns s) = (lines s).map withReturns := by
  induction s with
  | nil => rfl
  | cons c s ih =>
    by_cases hc : c = '\n'
    · subst hc
      simp [withReturns_newline, lines, ih]
    · rw [withReturns_cons hc, lines, lines, if_neg hc, if_neg hc, ih]
      cases lines s with
      | nil => simp [withReturns_of_notMem, Ne.symm hc]
      | cons l ls => simp [withReturns_cons hc]

/-! ### Lines and their ends -/

/-- Characters that end a line do not belong to its content, however many there are. -/
theorem content_append_of_isLineEnd {text ends : List Char} (h : ∀ c ∈ ends, isLineEnd c = true) :
    content (text ++ ends) = content text := by
  rw [content, content, List.reverse_append,
    List.dropWhile_append_of_pos fun c hc => h c (List.mem_reverse.mp hc)]

section Line

variable {s l : List Char} (h : l ∈ lines s)
include h

/-- A line and its other form are one text with two ends. -/
theorem exists_ends_of_mem_lines : ∃ text ends ends', l = text ++ ends ∧
    withReturns l = text ++ ends' ∧ ∀ c ∈ ends ++ ends', isLineEnd c = true := by
  obtain ⟨text, htext, rfl | rfl⟩ := exists_of_mem_lines h
  · exact ⟨l, [], [], by simp, by simp [withReturns_of_notMem htext], by simp⟩
  · refine ⟨text, ['\n'], ['\r', '\n'], rfl, ?_, by simp [isLineEnd]⟩
    rw [withReturns_append, withReturns_of_notMem htext]
    rfl

/-- No line feed belongs to the content of a line. -/
theorem newline_notMem_of_mem_lines : '\n' ∉ content l := by
  obtain ⟨before, after, hlines⟩ := List.append_of_mem h
  exact newline_notMem_content hlines

/-- Trimming takes off either end of a line. -/
theorem trimEnd_withReturns : trimEnd (withReturns l) = trimEnd l := by
  obtain ⟨text, ends, ends', hl, hl', hends⟩ := exists_ends_of_mem_lines h
  have hblank : ∀ c ∈ ends ++ ends', isBlank c = true := fun c hc =>
    isBlank_of_isLineEnd (hends c hc)
  rw [hl', hl, trimEnd_append_of_isBlank fun c hc => hblank c (List.mem_append_right ends hc),
    trimEnd_append_of_isBlank fun c hc => hblank c (List.mem_append_left ends' hc)]

/-- A line and its other form have one content. -/
theorem content_withReturns : content (withReturns l) = content l := by
  obtain ⟨text, ends, ends', hl, hl', hends⟩ := exists_ends_of_mem_lines h
  rw [hl', hl, content_append_of_isLineEnd fun c hc => hends c (List.mem_append_right ends hc),
    content_append_of_isLineEnd fun c hc => hends c (List.mem_append_left ends' hc)]

end Line

end Text

/-! ### Where a document is cut -/

namespace Header

open Text (withReturns)

/-- The parts of a document, with carriage returns. -/
def Split.withReturns (x : Split) : Split :=
  ⟨x.header.map Text.withReturns, Text.withReturns x.body, x.offset⟩

/-- The mark at the start of a file is taken off either form. -/
theorem withoutMark_withReturns (s : List Char) :
    withoutMark (withReturns s) = withReturns (withoutMark s) := by
  cases s with
  | nil => rfl
  | cons c s =>
    -- Only the very first character can be a mark, and it is no line break.
    by_cases hmark : c = '\ufeff'
    · subst hmark
      rw [Text.withReturns_cons (by decide)]
      rfl
    · have hkeep : withoutMark (c :: s) = c :: s := by simp [withoutMark, hmark]
      rw [hkeep]
      by_cases hc : c = '\n'
      · subst hc
        rfl
      · rw [Text.withReturns_cons hc]
        simp [withoutMark, hmark]

section Line

variable {s l : List Char} (h : l ∈ Text.lines s)
include h

/-- A line is a fence in both forms or in none. -/
theorem isFence_withReturns : isFence (withReturns l) = isFence l := by
  rw [isFence, isFence, Text.trimEnd_withReturns h]

/-- A line closes a header in both forms or in none. -/
theorem isClosingFence_withReturns : isClosingFence (withReturns l) = isClosingFence l := by
  rw [isClosingFence, isClosingFence, isFence_withReturns h, Text.trimEnd_withReturns h]

end Line

/-- The other form of a document has the same fault, or the same parts in that form. -/
theorem split_withReturns (s : List Char) :
    split (withReturns s) = (split s).map Split.withReturns := by
  have hlines := Text.lines_withReturns (withoutMark s)
  rw [← withoutMark_withReturns] at hlines
  -- The cases of the cut: no line, no fence on the first line, a fence that is closed, one that is
  -- not.
  cases hs : Text.lines (withoutMark s) with
  | nil =>
    have hempty : withoutMark s = [] := by rw [← Text.flatten_lines (withoutMark s), hs]; rfl
    show splitPlain (withoutMark (withReturns s)) = (splitPlain (withoutMark s)).map _
    rw [withoutMark_withReturns, hempty]
    rfl
  | cons first later =>
    rw [hs, List.map_cons] at hlines
    have hmem : ∀ l ∈ first :: later, l ∈ Text.lines (withoutMark s) := fun l hl => hs ▸ hl
    have hfence := isFence_withReturns (hmem first List.mem_cons_self)
    have hclosing : ∀ l ∈ later, isClosingFence (withReturns l) = isClosingFence l := fun l hl =>
      isClosingFence_withReturns (hmem l (List.mem_cons_of_mem first hl))
    cases hfirst : isFence first with
    | false =>
      rw [split_of_not_isFence hs hfirst, split_of_not_isFence hlines (hfence.trans hfirst),
        withoutMark_withReturns]
      rfl
    | true =>
      by_cases hcloses : ∃ l ∈ later, isClosingFence l = true
      -- Each line closes a header in both forms or in none, so the first that does is the same.
      · obtain ⟨block, closing, rest, rfl, hblock, hclose⟩ := exists_first_closing hcloses
        have hlater : (block ++ closing :: rest).map withReturns =
            block.map withReturns ++ withReturns closing :: rest.map withReturns := by simp
        have hblock' : ∀ l ∈ block.map withReturns, isClosingFence l = false := by
          intro l' hl'
          obtain ⟨l, hl, rfl⟩ := List.mem_map.mp hl'
          rw [hclosing l (List.mem_append_left _ hl), hblock l hl]
        rw [split_of_closing hs hfirst rfl hblock hclose,
          split_of_closing hlines (hfence.trans hfirst) hlater hblock'
            ((hclosing closing (by simp)).trans hclose),
          ← Text.withReturns_flatten, ← Text.withReturns_flatten, List.length_map]
        rfl
      · have hnone : ∀ l ∈ later, isClosingFence l = false := by simpa using hcloses
        have hnone' : ∀ l ∈ later.map withReturns, isClosingFence l = false := by
          intro l' hl'
          obtain ⟨l, hl, rfl⟩ := List.mem_map.mp hl'
          rw [hclosing l hl, hnone l hl]
        rw [split_of_unclosed hs hfirst hnone,
          split_of_unclosed hlines (hfence.trans hfirst) hnone']
        rfl

end Header

/-! ### What is marked as code -/

namespace Text

/-- A mark on positions of a text and one on positions of its form with carriage returns mark the
    same characters. A character that `n` characters stand before in the text has the other form of
    these before it in the other one. Marks on the line ends do not matter. -/
def MarksAlike (s : List Char) (isCode isCode' : Nat → Bool) : Prop :=
  ∀ n < s.length, s[n]? ≠ some '\n' → isCode' (withReturns (s.take n)).length = isCode n

/-- The position that a mark is moved to holds the character that was marked. -/
theorem getElem?_withReturns {s : List Char} {n : Nat} (h : s[n]? ≠ some '\n') :
    (withReturns s)[(withReturns (s.take n)).length]? = s[n]? := by
  have hsplit : withReturns s = withReturns (s.take n) ++ withReturns (s.drop n) := by
    rw [← withReturns_append, List.take_append_drop]
  rw [hsplit, List.getElem?_append_right le_rfl, Nat.sub_self]
  have hget : s[n]? = (s.drop n)[0]? := by rw [List.getElem?_drop, Nat.add_zero]
  rw [hget] at h ⊢
  cases hdrop : s.drop n with
  | nil => rfl
  | cons c rest =>
    rw [hdrop] at h
    rw [withReturns_cons (by simpa using h)]
    rfl

namespace MarksAlike

variable {l t : List Char} {isCode isCode' : Nat → Bool}
variable (h : MarksAlike (l ++ t) isCode isCode')
include h

/-- Behind the start of a text the marks are those on the rest of it. -/
theorem right :
    MarksAlike t (fun n => isCode (l.length + n)) fun n => isCode' ((withReturns l).length + n) := by
  intro n hn hne
  have htake : (l ++ t).take (l.length + n) = l ++ t.take n := List.take_length_add_append n
  have hmark := h (l.length + n) (by simpa using hn)
    (by rwa [List.getElem?_append_right (by omega), Nat.add_sub_cancel_left])
  rwa [htake, withReturns_append, List.length_append] at hmark

/-- On the first line nothing is moved. -/
theorem left {s : List Char} (hl : l ∈ lines s) {n : Nat} (hn : n < (content l).length) :
    isCode' n = isCode n := by
  obtain ⟨rest, hrest⟩ := isPrefix_content l
  have hline : '\n' ∉ content l := newline_notMem_of_mem_lines hl
  have hlength : n < l.length := hn.trans_le (isPrefix_content l).length_le
  have hget : l[n]? = (content l)[n]? := by
    conv_lhs => rw [← hrest]
    exact List.getElem?_append_left hn
  have htake : (l ++ t).take n = (content l).take n := by
    rw [List.take_append_of_le_length hlength.le]
    conv_lhs => rw [← hrest]
    exact List.take_append_of_le_length hn.le
  -- What stands before a place in the line has no line break, so it is the same text in both forms
  -- and the place has the same number in it.
  have hmark := h n (by rw [List.length_append]; omega) ?_
  · rwa [htake, withReturns_of_notMem fun hm => hline (List.mem_of_mem_take hm), List.length_take,
      Nat.min_eq_left hn.le] at hmark
  · rw [List.getElem?_append_left hlength, hget]
    exact fun hnewline => hline (List.mem_of_getElem? hnewline)

end MarksAlike

end Text

/-! ### What the lines refer to -/

namespace Reference

open Text (withReturns)

/-- What a line refers to hangs on the marks of its own characters only. -/
theorem ofLine_congr (source : String) (number : Nat) {isCode isCode' : Nat → Bool}
    {line : List Char} (hline : '\n' ∉ line) (h : ∀ n < line.length, isCode' n = isCode n) :
    ofLine source number isCode' line = ofLine source number isCode line := by
  have hwiki : ∀ w ∈ wikiSpans line, isCode' w.start = isCode w.start := by
    intro w hw
    obtain ⟨back, hreads⟩ := ((mem_wikiSpans_iff hline).mp hw).reads
    refine h w.start (Nat.lt_of_not_le fun hle => ?_)
    rw [List.drop_eq_nil_of_le hle] at hreads
    exact nomatch hreads
  have hplain : ∀ p ∈ plainSpans line, isCode' p.start = isCode p.start := by
    intro p hp
    have hon := (leftmost_plainSpans hline).isOn p.link (List.mem_map_of_mem hp)
    -- An image starts with its mark, one character before its link.
    have hstart : p.start ≤ p.link.start := by
      simp only [PlainSpan.link]
      split <;> omega
    exact h p.start (hstart.trans_lt hon.start_lt_length)
  have hmentions : mentions isCode' line = mentions isCode line := by
    unfold mentions
    extract_lets wiki fromWiki fromPlain fromWiki' fromPlain'
    have hfromWiki : fromWiki = fromWiki' :=
      List.filterMap_congr fun w hw => by rw [hwiki w hw]
    have hfromPlain : fromPlain = fromPlain' :=
      List.filterMap_congr fun p hp => by rw [hplain p hp]
    rw [hfromWiki, hfromPlain]
  rw [ofLine, ofLine, hmentions]

/-- Lines and their other forms refer to the same, if the same is marked on them. -/
theorem ofLines_withReturns (source : String) {isCode isCode' : Nat → Bool} {s : List Char}
    {ls : List (List Char)} (hls : ∀ l ∈ ls, l ∈ Text.lines s) (before : Nat) {pos pos' : Nat}
    (h : Text.MarksAlike ls.flatten (fun n => isCode (pos + n)) fun n => isCode' (pos' + n)) :
    ofLines source isCode' before pos' (ls.map withReturns) =
      ofLines source isCode before pos ls := by
  -- By induction on the lines, with the marks on the rest of the text as the hypothesis that moves.
  induction ls generalizing before pos pos' with
  | nil => rfl
  | cons l ls ih =>
    have hl : l ∈ Text.lines s := hls l List.mem_cons_self
    have hfirst : ofLine source (before + 1) (fun n => isCode' (pos' + n)) (Text.content l) =
        ofLine source (before + 1) (fun n => isCode (pos + n)) (Text.content l) :=
      ofLine_congr source (before + 1) (Text.newline_notMem_of_mem_lines hl) fun n hn =>
        Text.MarksAlike.left h hl hn
    have hlater := Text.MarksAlike.right h
    simp only [← Nat.add_assoc] at hlater
    rw [List.map_cons, ofLines, ofLines, Text.content_withReturns hl, hfirst,
      ih (fun l' hl' => hls l' (List.mem_cons_of_mem l hl')) (before + 1) hlater]

/-- A text and its form with carriage returns refer to the same. -/
theorem ofBody_withReturns (source : String) (before : Nat) {s : List Char}
    {isCode isCode' : Nat → Bool} (h : Text.MarksAlike s isCode isCode') :
    ofBody source isCode' before (withReturns s) = ofBody source isCode before s := by
  rw [ofBody, ofBody, Text.lines_withReturns]
  refine ofLines_withReturns source (fun _ hl => hl) before ?_
  simpa [Text.flatten_lines] using h

end Reference

namespace Document

open Text (withReturns)

/-- It makes no difference whether lines end in a line feed or in a carriage return and a line feed.
    Where one form of a document has no closing line, the other has none either. Else both are cut
    after as many lines, the header and the body of the one are those of the other in its form, and
    a header is absent from both if from one. All references of a body are found in the other form
    as well, with the same targets, labels, numbers and contexts, whatever is marked as code, as long
    as the same characters are marked in both. -/
theorem withReturns_unnoticed (s : List Char) :
    Header.split (withReturns s) = (Header.split s).map Header.Split.withReturns ∧
    ∀ (source : String) (before : Nat) (isCode isCode' : Nat → Bool),
      Text.MarksAlike s isCode isCode' →
      Reference.ofBody source isCode' before (withReturns s) =
        Reference.ofBody source isCode before s :=
  ⟨Header.split_withReturns s, fun source before _ _ h =>
    Reference.ofBody_withReturns source before h⟩

/-- A document whose body has a wiki form between backquotes, one on an indented line, a link behind
    an image, and a last line that does not end. What Markdown masks in the two forms of the body
    are other positions, but the same characters. -/
theorem withReturns_unnoticed_masked :
    let body := "`[[a]]` [[b|c]]\n\n    [[d]]\n\n![e](f) [g](<h i#j>)".toList
    let document := "---\nid: k\n...\n".toList ++ body
    let isCode (s : List Char) (n : Nat) := (Markdown.codeOf s).any (·.contains n)
    Text.MarksAlike body (isCode body) (isCode (withReturns body)) ∧
      Markdown.codeOf body ≠ Markdown.codeOf (withReturns body) ∧
      Header.split (withReturns document) =
        .ok ⟨some "id: k\r\n".toList, withReturns body, 3⟩ ∧
      (Reference.ofBody "k" (isCode body) 3 body).map (fun r => (r.line, r.rawTarget)) =
        [(4, "b"), (8, "h i")] ∧
      Reference.ofBody "k" (isCode (withReturns body)) 3 (withReturns body) =
        Reference.ofBody "k" (isCode body) 3 body := by
  intro body document isCode
  have hmarks : Text.MarksAlike body (isCode body) (isCode (withReturns body)) := by
    unfold Text.MarksAlike
    decide +kernel
  have hsplit : Header.split document = .ok ⟨some "id: k\n".toList, body, 3⟩ := rfl
  refine ⟨hmarks, by decide +kernel, ?_, by decide +kernel, ?_⟩
  · rw [(withReturns_unnoticed document).1, hsplit]
    rfl
  · exact (withReturns_unnoticed body).2 "k" 3 _ _ hmarks

end Document

end LinkAtlas
