import LinkAtlas.Proofs.HeaderCut
import LinkAtlas.Proofs.LineReferences
import LinkAtlas.Proofs.Location

namespace LinkAtlas

/-!
# Where references stand in a file

References are searched in the body alone, but their numbers count the lines of the whole file, and
what they show is the line with that number. A byte-order mark, the form of the closing fence and
the way the lines end make no difference.

* `Header.Frame` — a header with its fences, and the body; a file has no two of them;
* `Header.split_eq_ok_iff` — a file is split where its frame says;
* `Reference.IsShownOn` — a line holds the target of a reference and gives its context;
* `Document.exists_frame_of_ofText` — all references of a document stand below the frame, on the
  lines that they tell.
-/

/-! ### The frame of a file -/

/-- The first line of a text starts as the text does. -/
theorem Text.head?_of_lines_eq_cons {s l : List Char} {ls : List (List Char)}
    (h : lines s = l :: ls) : l.head? = s.head? := by
  cases s with
  | nil => exact nomatch h
  | cons c rest =>
    unfold lines at h
    split at h
    · obtain ⟨rfl, -⟩ := List.cons.inj h
      rfl
    · split at h
      · obtain ⟨rfl, -⟩ := List.cons.inj h
        rfl
      · obtain ⟨rfl, -⟩ := List.cons.inj h
        rfl

namespace Header

/-- The lines of a file with a header: the header between two fences, and the body. A byte-order
    mark may stand before the first fence. -/
@[ext] structure Frame (ls : List (List Char)) where
  fence : List Char
  block : List (List Char)
  closing : List Char
  body : List (List Char)
  lines_eq : ls = fence :: (block ++ closing :: body)
  isFence_fence : isFence (withoutMark fence) = true
  not_closing : ∀ l ∈ block, isClosingFence l = false
  isClosingFence_closing : isClosingFence closing = true

namespace Frame

variable {ls : List (List Char)}

/-- The number of lines of the header and its fences. -/
def height (f : Frame ls) : Nat := f.block.length + 2

/-- The lines before the body. -/
theorem lines_eq_append (f : Frame ls) :
    ls = (f.fence :: (f.block ++ [f.closing])) ++ f.body := by
  rw [List.cons_append, List.append_assoc, List.singleton_append]
  exact f.lines_eq

/-- The lines of a framed document are those of its frame and of its body. -/
theorem length_eq (f : Frame ls) : ls.length = f.height + f.body.length := by
  have hlength := congrArg List.length f.lines_eq_append
  simp only [List.length_append, List.length_cons, List.length_nil] at hlength
  rw [hlength, height]

/-- The lines of the body come after those of the frame. -/
theorem getElem?_height_add (f : Frame ls) (i : Nat) : ls[f.height + i]? = f.body[i]? := by
  have hlength : (f.fence :: (f.block ++ [f.closing])).length = f.height := by
    simp only [List.length_append, List.length_cons, List.length_nil, height]
  have hls := congrArg (fun lines => lines[f.height + i]?) f.lines_eq_append
  rw [hls, List.getElem?_append_right (by omega), hlength, Nat.add_sub_cancel_left]

/-- The header reaches up to the first line that closes it. -/
theorem takeWhile_not_closing (f : Frame ls) :
    (f.block ++ f.closing :: f.body).takeWhile (! isClosingFence ·) = f.block :=
  Text.takeWhile_append_of_neg (fun l hl => by rw [f.not_closing l hl]; rfl)
    (by rw [f.isClosingFence_closing]; rfl) f.body

/-- The header ends at the first line that can close it, so there is one frame at most. -/
instance : Subsingleton (Frame ls) where
  allEq f g := by
    obtain ⟨hfence, hrest⟩ := List.cons.inj (f.lines_eq.symm.trans g.lines_eq)
    have hblock : f.block = g.block := by
      rw [← f.takeWhile_not_closing, hrest, g.takeWhile_not_closing]
    rw [hblock] at hrest
    obtain ⟨hclosing, hbody⟩ := List.cons.inj (List.append_cancel_left hrest)
    exact Frame.ext hfence hblock hclosing hbody

end Frame

/-- A text that does not start with the mark has none to lose. -/
theorem withoutMark_of_head? {s : List Char} (h : s.head? ≠ some '\ufeff') : withoutMark s = s := by
  unfold withoutMark
  split
  · exact absurd rfl h
  · rfl

/-- Without a byte-order mark a text has the same lines, up to the mark on the first one. -/
theorem lines_withoutMark_iff {s first : List Char} {ls : List (List Char)} (hfirst : first ≠ []) :
    Text.lines (withoutMark s) = first :: ls ↔
      ∃ fence, Text.lines s = fence :: ls ∧ withoutMark fence = first := by
  by_cases hs : s.head? = some '\ufeff'
  · -- The mark ends no line, so it is the start of the first one.
    obtain ⟨rest, rfl⟩ := List.head?_eq_some_iff.mp hs
    rw [Text.lines, if_neg (by decide), withoutMark]
    cases Text.lines rest with
    | nil =>
      refine iff_of_false (List.cons_ne_nil first ls).symm ?_
      rintro ⟨fence, h, rfl⟩
      obtain ⟨rfl, -⟩ := List.cons.inj h
      exact hfirst rfl
    | cons l ls' =>
      constructor
      · intro h
        obtain ⟨rfl, rfl⟩ := List.cons.inj h
        exact ⟨_, rfl, rfl⟩
      · rintro ⟨fence, h, rfl⟩
        obtain ⟨rfl, rfl⟩ := List.cons.inj h
        rfl
  · rw [withoutMark_of_head? hs]
    constructor
    · intro h
      exact ⟨first, h, withoutMark_of_head? (by rwa [Text.head?_of_lines_eq_cons h])⟩
    · rintro ⟨fence, h, rfl⟩
      rw [withoutMark_of_head? (by rwa [Text.head?_of_lines_eq_cons h])]
      exact h

/-- A fence is not an empty line. -/
theorem ne_nil_of_isFence {line : List Char} (h : isFence line = true) : line ≠ [] := by
  rintro rfl
  exact absurd h (by decide)

/-- A document is split into header and body just where its lines have a frame. -/
theorem split_eq_ok_iff {s header body : List Char} {n : Nat} :
    split s = .ok ⟨some header, body, n⟩ ↔ ∃ f : Frame (Text.lines s),
      header = f.block.flatten ∧ body = f.body.flatten ∧ n = f.height := by
  constructor
  · intro h
    unfold split splitPlain at h
    split at h
    · exact nomatch h
    · rename_i first rest hlines
      split at h
      · rename_i hfence
        dsimp only at h
        split at h
        · exact nomatch h
        · rename_i closing after hdrop
          obtain ⟨hheader, rfl, rfl⟩ := Split.mk.inj (Except.ok.inj h)
          obtain rfl := Option.some.inj hheader
          obtain ⟨fence, hs, rfl⟩ := (lines_withoutMark_iff (ne_nil_of_isFence hfence)).mp hlines
          have hclosing := Text.eq_false_of_drop_takeWhile hdrop
          refine ⟨⟨fence, _, closing, after, ?_, hfence, fun l hl => ?_, ?_⟩, rfl, rfl, rfl⟩
          -- The closing fence is the first one, so what stands before it is the header.
          · rw [hs, ← Text.eq_takeWhile_append hdrop]
          · simpa using List.mem_takeWhile_imp hl
          · simpa using hclosing
      · exact nomatch h
  · rintro ⟨f, rfl, rfl, rfl⟩
    have hlines := (lines_withoutMark_iff (ne_nil_of_isFence f.isFence_fence)).mpr
      ⟨f.fence, f.lines_eq, rfl⟩
    exact split_of_closing hlines f.isFence_fence rfl f.not_closing f.isClosingFence_closing

end Header

/-! ### What is shown of a line -/

namespace Reference

/-- A line shows what a reference says: the target is written on it, and the context is the line,
    trimmed and cut after 120 characters. -/
structure IsShownOn (line : List Char) (r : Reference) : Prop where
  isInfix_content : r.rawTarget.toList <:+: Text.content line
  context_eq : r.context.toList =
    if (Text.trim line).length ≤ 120 then Text.trim line else (Text.trim line).take 120 ++ ['…']

/-- A reference stands below the frame of a file, on the line of the file that has its number. -/
structure StandsBelow {ls : List (List Char)} (f : Header.Frame ls) (r : Reference) : Prop where
  height_lt : f.height < r.line
  line_le : r.line ≤ ls.length
  isShown : ∃ line, ls[r.line - 1]? = some line ∧ r.IsShownOn line

/-- What stands between the brackets of a wiki form is written on its line. -/
theorem WikiSpan.IsOn.isInfix_inner {w : WikiSpan} {line : List Char} (h : w.IsOn line) :
    w.inner <:+: line := by
  obtain ⟨back, hback⟩ := h.reads
  have hinner : w.inner <:+: line.drop w.start :=
    ⟨['[', '['], ']' :: ']' :: back, by rw [hback]; simp⟩
  exact hinner.trans (List.drop_suffix w.start line).isInfix

/-- What stands between the parentheses of a link is written on its line. -/
theorem LinkSpan.IsOn.isInfix_dest {l : LinkSpan} {line : List Char} (h : l.IsOn line) :
    l.dest <:+: line := by
  obtain ⟨back, hback⟩ := h.reads
  have hdest : l.dest <:+: line.drop l.start :=
    ⟨'[' :: (l.label ++ [']', '(']), ')' :: back, by rw [hback]; simp⟩
  exact hdest.trans (List.drop_suffix l.start line).isInfix

/-- The references on a line without its end are shown on the line. -/
theorem isShownOn_of_mem_ofLine {source : String} {number : Nat} {isCode : Nat → Bool}
    {line : List Char} (hend : '\n' ∉ Text.content line) {r : Reference}
    (h : r ∈ ofLine source number isCode (Text.content line)) : r.IsShownOn line := by
  obtain ⟨p, hp, rfl⟩ := mem_ofLine_iff.mp h
  refine ⟨?_, ?_⟩
  · show (String.ofList p.mention.target).toList <:+: Text.content line
    rw [String.toList_ofList]
    -- A wiki target is a part of what the brackets hold, and a link target of what the parentheses
    -- hold.
    rcases (mem_located_iff hend).mp hp with ⟨w, hw, rfl⟩ | ⟨l, hl, -, rfl⟩
    · rw [show w.place.mention.target = w.target from w.target_mention]
      exact w.isInfix_target.trans hw.isOn.isInfix_inner
    · exact l.isInfix_target.trans ((leftmost_plainSpans hend).isOn l hl).isInfix_dest
  · show (String.ofList (contextOf (Text.content line))).toList = _
    rw [String.toList_ofList, contextOf, Text.trim_content]
    rfl

end Reference

namespace Document

/-- A file that a document is read from has a frame, and the references of the document stand below
    it, on the lines of the file that have their numbers. -/
theorem exists_frame_of_ofText {root path text : String} {d : Document}
    (h : ofText root path text = .ok d) :
    ∃ f : Header.Frame (Text.lines text.toList), ∀ r ∈ d.references, r.StandsBelow f := by
  obtain ⟨header, ⟨_ | block, body, before⟩, ⟨hsplit, hblock⟩, rfl⟩ := exists_ofHeader_of_ofText h
  -- Without a header there is no document at all.
  · exact absurd rfl hblock
  · obtain ⟨f, -, rfl, rfl⟩ := Header.split_eq_ok_iff.mp hsplit
    refine ⟨f, fun r hr => ?_⟩
    obtain ⟨front, line, back, hlines, hr⟩ := Reference.mem_ofBody_iff.mp hr
    have hbody : f.body = front ++ line :: back := by
      rw [← hlines, Text.lines_flatten_of_lines_eq_append f.lines_eq_append]
    have hnumber : r.line = f.height + front.length + 1 := Reference.line_of_mem_ofLine hr
    have hlength : f.body.length = front.length + 1 + back.length := by
      rw [hbody, List.length_append, List.length_cons]
      omega
    -- The lines of the header and its fences stand above the line.
    have hget : (Text.lines text.toList)[r.line - 1]? = some line := by
      rw [hnumber, Nat.add_sub_cancel, f.getElem?_height_add, hbody,
        List.getElem?_append_right le_rfl, Nat.sub_self]
      rfl
    have hend := Text.newline_notMem_content hlines
    refine ⟨?_, ?_, line, hget, Reference.isShownOn_of_mem_ofLine hend hr⟩
    · omega
    · rw [f.length_eq]
      omega

/-- A file with a byte-order mark, carriage returns, dots that close the header and no line feed at
    its end. Its references stand on the fifth line, the second one of the body. -/
theorem exists_frame_of_ofText_marked :
    let text := "\ufeff---\r\nid: a\r\n...\r\n\r\né [[b|c]], [d](<e f.md#g>)"
    ∃ d, ofText "/d" "/d/a.md" text = .ok d ∧
      d.references.map (fun r => (r.line, r.rawTarget)) = [(5, "b"), (5, "e f.md")] ∧
      ∃ f : Header.Frame (Text.lines text.toList), ∀ r ∈ d.references, r.StandsBelow f := by
  intro text
  have hread : (ofText "/d" "/d/a.md" text).toOption.map
      (fun d => d.references.map fun r => (r.line, r.rawTarget)) =
        some [(5, "b"), (5, "e f.md")] := by decide +kernel
  obtain ⟨d, hd, hreferences⟩ := Option.map_eq_some_iff.mp hread
  cases hok : ofText "/d" "/d/a.md" text with
  | error x =>
    rw [hok] at hd
    exact nomatch hd
  | ok d' =>
    rw [hok] at hd
    obtain rfl : d' = d := Option.some.inj hd
    exact ⟨d', rfl, hreferences, exists_frame_of_ofText hok⟩

end Document

end LinkAtlas
