import LinkAtlas.Header.Split
import LinkAtlas.Proofs.Lines

namespace LinkAtlas.Header

/-!
# Cutting a header off loses nothing

A text that opens with a fence is cut at the first line that can close the header. The fence, the
header, that line and the body are the whole text again, whatever characters end the lines and
whether the last one is ended at all.

* `Closes` — the lines that close a header;
* `split_of_not_isFence`, `split_of_closing`, `split_of_unclosed` — a text without a fence, one whose
  header is closed, and one whose header is not;
* `Split.IsCutAt` — what the parts of a text are that is cut at a closing line, `exists_isCutAt` — the
  parts of a text whose header is closed;
* `split_lossless` — every text is cut so, or has no header, or is at fault.
-/

/-- A line closes a header if it is three dashes or three dots, up to blanks at its end. -/
def Closes (line : List Char) : Prop :=
  Text.trimEnd line = ['-', '-', '-'] ∨ Text.trimEnd line = ['.', '.', '.']

/-- A fence is three dashes, with blanks behind them at most. -/
theorem isFence_iff {line : List Char} :
    isFence line = true ↔ Text.trimEnd line = ['-', '-', '-'] := beq_iff_eq

/-- The lines that close a header, told by what they are without blanks behind. -/
theorem isClosingFence_iff {line : List Char} : isClosingFence line = true ↔ Closes line := by
  rw [isClosingFence, Bool.or_eq_true, isFence_iff, beq_iff_eq, Closes]

/-- And the lines that do not. -/
theorem isClosingFence_eq_false_iff {line : List Char} :
    isClosingFence line = false ↔ ¬ Closes line := by
  rw [← isClosingFence_iff, Bool.not_eq_true]

/-! ### The three ways to split a text -/

section Lines

variable {s first : List Char} {later : List (List Char)}

/-- A document whose first line is no fence has no header. -/
theorem split_of_not_isFence (hlines : Text.lines (withoutMark s) = first :: later)
    (hfirst : isFence first = false) : split s = .ok ⟨none, withoutMark s, 0⟩ := by
  simp [split, splitPlain, hlines, hfirst]

variable (hlines : Text.lines (withoutMark s) = first :: later) (hfirst : isFence first = true)
include hlines hfirst

/-- A header ends at the first line that can close it. -/
theorem split_of_closing {block rest : List (List Char)} {closing : List Char}
    (hlater : later = block ++ closing :: rest) (hblock : ∀ l ∈ block, isClosingFence l = false)
    (hclosing : isClosingFence closing = true) :
    split s = .ok ⟨some block.flatten, rest.flatten, block.length + 2⟩ := by
  have htake : later.takeWhile (! isClosingFence ·) = block := by
    rw [hlater]
    exact Text.takeWhile_append_of_neg (fun l hl => by rw [hblock l hl]; rfl)
      (by rw [hclosing]; rfl) rest
  have hdrop : later.drop block.length = closing :: rest := by rw [hlater, List.drop_left]
  simp only [split, splitPlain, hlines, hfirst, if_true, htake, hdrop]

/-- A header that no line closes is at fault. -/
theorem split_of_unclosed (hlater : ∀ l ∈ later, isClosingFence l = false) :
    split s = .error .unclosed := by
  have htake : later.takeWhile (! isClosingFence ·) = later :=
    List.takeWhile_eq_self_iff.mpr fun l hl => by rw [hlater l hl]; rfl
  have hdrop : later.drop later.length = [] := List.drop_length
  simp only [split, splitPlain, hlines, hfirst, if_true, htake, hdrop]

end Lines

/-- Some line of a list closes a header first, or none does. -/
theorem exists_first_closing {ls : List (List Char)} (h : ∃ l ∈ ls, isClosingFence l = true) :
    ∃ block closing rest, ls = block ++ closing :: rest ∧
      (∀ l ∈ block, isClosingFence l = false) ∧ isClosingFence closing = true := by
  obtain ⟨closing, hfind⟩ := Option.isSome_iff_exists.mp (List.find?_isSome.mpr h)
  obtain ⟨hclosing, block, rest, hls, hblock⟩ := List.find?_eq_some_iff_append.mp hfind
  exact ⟨block, closing, rest, hls, fun l hl => by simpa using hblock l hl, hclosing⟩

/-! ### Cuts -/

/-- What the parts are of a text that opens with a line and is cut at another one: the first line,
    the header, the closing line and the body are the text. That line is the first of all later ones
    to close the header, and the lines before the body are counted. -/
structure Split.IsCutAt (t first : List Char) (later : List (List Char))
    (header closing : List Char) (x : Split) : Prop where
  header_eq : x.header = some header
  text_eq : t = first ++ header ++ closing ++ x.body
  later_eq : later = Text.lines header ++ closing :: Text.lines x.body
  not_closes : ∀ line ∈ Text.lines header, ¬ Closes line
  closes : Closes closing
  offset_eq : x.offset = (Text.lines (first ++ header ++ closing)).length

/-- The parts of a text around the first closing line are a cut. -/
theorem isCutAt_closing {t first closing : List Char} {block rest : List (List Char)}
    (hlines : Text.lines t = first :: (block ++ closing :: rest))
    (hblock : ∀ l ∈ block, isClosingFence l = false) (hclosing : isClosingFence closing = true) :
    Split.IsCutAt t first (block ++ closing :: rest) block.flatten closing
      ⟨some block.flatten, rest.flatten, block.length + 2⟩ := by
  -- The lines of each part are those that it is put together from, as they follow each other.
  have hheader : Text.lines block.flatten = block :=
    Text.lines_flatten_of_isInfix ⟨[first], closing :: rest, by rw [hlines]; simp⟩
  have hbody : Text.lines rest.flatten = rest :=
    Text.lines_flatten_of_isInfix ⟨first :: (block ++ [closing]), [], by rw [hlines]; simp⟩
  have hfront : Text.lines (first :: (block ++ [closing])).flatten = first :: (block ++ [closing]) :=
    Text.lines_flatten_of_isInfix ⟨[], rest, by rw [hlines]; simp⟩
  exact
    { header_eq := rfl
      text_eq := by
        have htext := Text.flatten_lines t
        rw [hlines] at htext
        simpa using htext.symm
      later_eq := by rw [hheader, hbody]
      not_closes := by
        rw [hheader]
        exact fun l hl => isClosingFence_eq_false_iff.mp (hblock l hl)
      closes := isClosingFence_iff.mp hclosing
      offset_eq := by
        have hparts : first ++ block.flatten ++ closing = (first :: (block ++ [closing])).flatten := by
          simp
        rw [hparts, hfront]
        simp }

/-- A text that opens with a fence is cut at the first line that closes the header. -/
theorem exists_isCutAt {s first : List Char} {later : List (List Char)}
    (hlines : Text.lines (withoutMark s) = first :: later) (hfirst : isFence first = true)
    (h : ∃ line ∈ later, Closes line) :
    ∃ x header closing, split s = .ok x ∧ x.IsCutAt (withoutMark s) first later header closing := by
  simp only [← isClosingFence_iff] at h
  obtain ⟨block, closing, rest, rfl, hblock, hclosing⟩ := exists_first_closing h
  exact ⟨_, _, closing, split_of_closing hlines hfirst rfl hblock hclosing,
    isCutAt_closing hlines hblock hclosing⟩

/-- A text that opens with a fence has a header, or is at fault. -/
theorem split_ne_of_isFence {s first : List Char} {later : List (List Char)}
    (hlines : Text.lines (withoutMark s) = first :: later) (hfirst : isFence first = true) :
    split s ≠ .ok ⟨none, withoutMark s, 0⟩ := by
  intro h
  by_cases hcloses : ∃ line ∈ later, Closes line
  · obtain ⟨x, header, closing, hx, hcut⟩ := exists_isCutAt hlines hfirst hcloses
    obtain rfl := Except.ok.inj (h.symm.trans hx)
    exact Option.some_ne_none header hcut.header_eq.symm
  · rw [split_of_unclosed hlines hfirst fun line hline =>
      isClosingFence_eq_false_iff.mpr fun hline' => hcloses ⟨line, hline, hline'⟩] at h
    exact nomatch h

/-- Without a byte-order mark at its start, a text that is empty or does not open with three dashes
    is all body, and no other one is. A text that opens with them is cut at the first later line that
    closes the header, such that nothing is lost, or is at fault if no line does. -/
theorem split_lossless (s : List Char) :
    (split s = .ok ⟨none, withoutMark s, 0⟩ ↔
      withoutMark s = [] ∨ ∃ first later, Text.lines (withoutMark s) = first :: later ∧
        Text.trimEnd first ≠ ['-', '-', '-']) ∧
    ∀ first later, Text.lines (withoutMark s) = first :: later →
      Text.trimEnd first = ['-', '-', '-'] →
      ((∃ line ∈ later, Closes line) → ∃ x header closing, split s = .ok x ∧
        x.IsCutAt (withoutMark s) first later header closing) ∧
      ((∀ line ∈ later, ¬ Closes line) → split s = .error .unclosed) := by
  refine ⟨⟨?all, ?noHeader⟩, ?header⟩
  case all =>
    intro h
    cases hlines : Text.lines (withoutMark s) with
    | nil => exact .inl (by rw [← Text.flatten_lines (withoutMark s), hlines]; rfl)
    | cons first later =>
      refine .inr ⟨first, later, rfl, fun hfirst => ?_⟩
      exact split_ne_of_isFence hlines (isFence_iff.mpr hfirst) h
  case noHeader =>
    rintro (hempty | ⟨first, later, hlines, hfirst⟩)
    · show splitPlain (withoutMark s) = _
      rw [hempty]
      rfl
    · exact split_of_not_isFence hlines (by rw [← Bool.not_eq_true, isFence_iff]; exact hfirst)
  case header =>
    intro first later hlines hfirst
    have hfence : isFence first = true := isFence_iff.mpr hfirst
    constructor
    · exact exists_isCutAt hlines hfence
    · intro hnone
      exact split_of_unclosed hlines hfence fun line hline =>
        isClosingFence_eq_false_iff.mpr (hnone line hline)

/-- A byte-order mark, a blank behind the fence, a letter of two bytes, a line of four dashes in the
    header, and dots that close it at the very end, without a line feed. Without the dots the same
    text is at fault. -/
theorem split_lossless_marked :
    let first := "--- \r\n".toList
    let block := ["id: é\r\n".toList, "----\n".toList]
    let s := '\ufeff' :: (first ++ block.flatten)
    (∃ x header closing, split (s ++ "...".toList) = .ok x ∧
      x.IsCutAt (first ++ block.flatten ++ "...".toList) first (block ++ ["...".toList])
        header closing ∧ (x.body, x.offset) = ([], 4)) ∧
      split s = .error .unclosed := by
  intro first block s
  have hfirst : Text.trimEnd first = ['-', '-', '-'] := by decide
  have hclosed : Text.lines (withoutMark (s ++ "...".toList)) =
      first :: (block ++ ["...".toList]) := by decide +kernel
  have hunclosed : Text.lines (withoutMark s) = first :: block := by decide +kernel
  constructor
  · obtain ⟨x, header, closing, hx, hcut⟩ := ((split_lossless _).2 _ _ hclosed hfirst).1
      ⟨"...".toList, by simp, .inr (by decide)⟩
    have hparts : split (s ++ "...".toList) = .ok ⟨some block.flatten, [], 4⟩ := rfl
    obtain rfl := Except.ok.inj (hparts.symm.trans hx)
    exact ⟨_, header, closing, hparts, hcut, rfl⟩
  · refine ((split_lossless s).2 _ _ hunclosed hfirst).2 fun line hline => ?_
    rw [← isClosingFence_eq_false_iff]
    revert line
    decide +kernel

end LinkAtlas.Header
