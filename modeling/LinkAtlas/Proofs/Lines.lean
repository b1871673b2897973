import LinkAtlas.Text.Blank
import LinkAtlas.Text.Lines
import Mathlib.Data.List.DropRight

namespace LinkAtlas.Text

/-!
# What trimming and cutting into lines leave

A text that is trimmed is a part of the text, and so is a line without its end. Both are needed to
say where in a document something was found.

* `takeWhile_append_of_neg`, `eq_false_of_drop_takeWhile` — what is taken while a condition holds
  ends at the first item without it;
* `isInfix_trim`, `trim_trim` — a trimmed text is a part of the text, and trimming leaves it alone;
* `trimEnd_mono` — trimming the end keeps the order of prefixes;
* `trim_append_of_isBlank` — blanks at the end make no difference, so `trim_content` — nor does the
  end of a line;
* `lines_flatten_of_lines_eq_append`, `lines_flatten_of_isInfix` — the last lines of a text are the
  lines of its end, and any that follow each other are the lines of what they are together;
* `newline_notMem_content` — a line of a text has no line feed but the one that ends it.
-/

/-! ### Taking while a condition holds -/

section Take

variable {α : Type} {p : α → Bool}

/-- Items of a kind are taken up to the first one that is of another kind. -/
theorem takeWhile_append_of_neg {t : List α} (h : ∀ c ∈ t, p c = true) {c : α} (hc : p c = false)
    (rest : List α) : (t ++ c :: rest).takeWhile p = t := by
  rw [List.takeWhile_append_of_pos h, List.takeWhile_cons_of_neg (by simp [hc]), List.append_nil]

/-- A list begins with the items that are taken from it. -/
theorem eq_takeWhile_append {s t : List α} (h : s.drop (s.takeWhile p).length = t) :
    s = s.takeWhile p ++ t := by
  rw [← h]
  exact (List.prefix_iff_eq_append.mp (List.takeWhile_prefix p)).symm

/-- The item that follows them is of another kind. -/
theorem eq_false_of_drop_takeWhile {s t : List α} {c : α}
    (h : s.drop (s.takeWhile p).length = c :: t) : p c = false := by
  have hdrop : s.dropWhile p = c :: t :=
    List.append_cancel_left (List.takeWhile_append_dropWhile.trans (eq_takeWhile_append h))
  have hhead := List.head?_dropWhile_not p s
  rw [hdrop] at hhead
  exact hhead

end Take

/-! ### Trimming -/

/-- Trimming the start leaves the end of a text. -/
theorem isSuffix_trimStart (s : List Char) : trimStart s <:+ s := List.dropWhile_suffix isBlank

/-- Trimming the end leaves the start of a text. -/
theorem isPrefix_trimEnd (s : List Char) : trimEnd s <+: s := List.rdropWhile_prefix isBlank s

/-- Trimming leaves a piece of a text. -/
theorem isInfix_trim (s : List Char) : trim s <:+: s :=
  (isPrefix_trimEnd (trimStart s)).isInfix.trans (isSuffix_trimStart s).isInfix

/-- A text that starts with no blank keeps its first character when its end is trimmed. -/
theorem trimStart_trimEnd_of_trimStart {s : List Char} (h : trimStart s = s) :
    trimStart (trimEnd s) = trimEnd s := by
  rw [trimStart_eq_self_iff] at h ⊢
  intro c hc
  obtain ⟨rest, hrest⟩ := List.head?_eq_some_iff.mp hc
  obtain ⟨blanks, hs⟩ := isPrefix_trimEnd s
  rw [hrest] at hs
  exact h c (by rw [← hs]; rfl)

/-- A trimmed text has nothing left to trim. -/
theorem trim_trim (s : List Char) : trim (trim s) = trim s := by
  have hstart : trimStart (trimStart s) = trimStart s := List.dropWhile_idempotent isBlank s
  have hend : trimEnd (trim s) = trim s := List.rdropWhile_idempotent isBlank (trimStart s)
  rw [trim, trim, trimStart_trimEnd_of_trimStart hstart]
  exact hend

/-- A prefix of a text is one still when blanks are taken from the ends of both. -/
theorem trimEnd_mono {s t : List Char} (h : s <+: t) : trimEnd s <+: trimEnd t := by
  induction t using List.reverseRecOn with
  | nil => exact List.prefix_nil.mp h ▸ List.prefix_rfl
  | append_singleton t c ih =>
    rcases List.prefix_concat_iff.mp h with rfl | hst
    · exact List.prefix_rfl
    · by_cases hc : isBlank c = true
      · rw [show trimEnd (t ++ [c]) = trimEnd t from List.rdropWhile_concat_pos isBlank t c hc]
        exact ih hst
      · rw [show trimEnd (t ++ [c]) = t ++ [c] from List.rdropWhile_concat_neg isBlank t c hc]
        exact (isPrefix_trimEnd s).trans h

/-- Blanks at the end are trimmed, however many there are. -/
theorem trimEnd_append_of_isBlank {s t : List Char} (h : ∀ c ∈ t, isBlank c = true) :
    trimEnd (s ++ t) = trimEnd s := by
  induction t using List.reverseRecOn with
  | nil => rw [List.append_nil]
  | append_singleton t c ih =>
    rw [← List.append_assoc]
    have hc : isBlank c = true := h c (List.mem_append_right t List.mem_cons_self)
    rw [show trimEnd (s ++ t ++ [c]) = trimEnd (s ++ t) from List.rdropWhile_concat_pos _ _ _ hc]
    exact ih fun a ha => h a (List.mem_append_left [c] ha)

/-- Blanks that follow a text go with the blanks at its end. -/
theorem trim_append_of_isBlank {s t : List Char} (h : ∀ c ∈ t, isBlank c = true) :
    trim (s ++ t) = trim s := by
  rw [trim, trim, trimStart, trimStart, List.dropWhile_append]
  split
  · rename_i hs
    rw [List.isEmpty_iff.mp hs, List.dropWhile_eq_nil_iff.mpr h]
  · exact trimEnd_append_of_isBlank h

/-! ### Lines -/

/-- A line is its content and the characters that end it. -/
theorem exists_content_append (line : List Char) :
    ∃ ends, line = content line ++ ends ∧ ∀ c ∈ ends, isLineEnd c = true :=
  ⟨line.rtakeWhile isLineEnd, List.rdropWhile_append_rtakeWhile.symm,
    fun _ hc => List.mem_rtakeWhile_imp hc⟩

/-- The content of a line is where it starts. -/
theorem isPrefix_content (line : List Char) : content line <+: line :=
  List.rdropWhile_prefix isLineEnd line

/-- The characters that end a line are blank. -/
theorem isBlank_of_isLineEnd {c : Char} (h : isLineEnd c = true) : isBlank c = true := by
  rcases Bool.or_eq_true_iff.mp h with h | h <;> rw [beq_iff_eq.mp h] <;> decide

/-- The characters that end a line are blank. -/
theorem trim_content (line : List Char) : trim (content line) = trim line := by
  obtain ⟨ends, hline, hends⟩ := exists_content_append line
  conv_rhs => rw [hline]
  exact (trim_append_of_isBlank fun c hc => isBlank_of_isLineEnd (hends c hc)).symm

/-- The rest of a text after its first line has the other lines. -/
theorem lines_flatten_of_lines_eq_cons {s l : List Char} {ls : List (List Char)}
    (h : lines s = l :: ls) : lines ls.flatten = ls := by
  induction s generalizing l with
  | nil => exact nomatch h
  | cons c rest ih =>
    unfold lines at h
    split at h
    · obtain ⟨-, rfl⟩ := List.cons.inj h
      rw [flatten_lines]
    · split at h
      · obtain ⟨-, rfl⟩ := List.cons.inj h
        rfl
      · rename_i l' ls' hrest
        obtain ⟨-, rfl⟩ := List.cons.inj h
        exact ih hrest

/-- Lines at the end of a text are its lines when they are taken alone. -/
theorem lines_flatten_of_lines_eq_append {s : List Char} {ls ls' : List (List Char)}
    (h : lines s = ls ++ ls') : lines ls'.flatten = ls' := by
  induction ls generalizing s with
  | nil =>
    rw [← List.nil_append ls', ← h, flatten_lines]
  | cons l ls ih => exact ih (lines_flatten_of_lines_eq_cons h)

/-- The first lines of a text are the lines of its start. -/
theorem lines_flatten_of_isPrefix {s : List Char} {ls : List (List Char)} (h : ls <+: lines s) :
    lines ls.flatten = ls := by
  induction s generalizing ls with
  | nil => rw [List.prefix_nil.mp h]; rfl
  | cons c rest ih =>
    cases ls with
    | nil => rfl
    | cons l ls =>
      unfold lines at h
      split at h
      · rename_i hc
        obtain ⟨rfl, hls⟩ := List.cons_prefix_cons.mp h
        rw [List.flatten_cons, List.singleton_append, lines, if_pos hc, ih hls]
      · rename_i hc
        split at h
        · obtain ⟨rfl, hls⟩ := List.cons_prefix_cons.mp h
          rw [List.prefix_nil.mp hls, List.flatten_cons, List.singleton_append, lines, if_neg hc]
          rfl
        · rename_i l' ls' hrest
          obtain ⟨rfl, hls⟩ := List.cons_prefix_cons.mp h
          -- The first line goes on in the rest of the text, of which it is the first line.
          have hfirst : lines (l' :: ls).flatten = l' :: ls :=
            ih (by rw [hrest]; exact List.cons_prefix_cons.mpr ⟨rfl, hls⟩)
          rw [List.flatten_cons, List.cons_append, ← List.flatten_cons, lines, if_neg hc, hfirst]

/-- Lines that follow each other in a text are the lines of what they are together. -/
theorem lines_flatten_of_isInfix {s : List Char} {ls : List (List Char)} (h : ls <:+: lines s) :
    lines ls.flatten = ls := by
  obtain ⟨before, after, hlines⟩ := h
  have hrest : lines (ls ++ after).flatten = ls ++ after :=
    lines_flatten_of_lines_eq_append (by rw [← hlines, List.append_assoc])
  apply lines_flatten_of_isPrefix (s := (ls ++ after).flatten)
  rw [hrest]
  exact List.prefix_append ls after

/-- A line feed stands at the end of a line only. -/
theorem exists_of_mem_lines {s l : List Char} (h : l ∈ lines s) :
    ∃ text, '\n' ∉ text ∧ (l = text ∨ l = text ++ ['\n']) := by
  induction s generalizing l with
  | nil => exact nomatch h
  | cons c rest ih =>
    unfold lines at h
    split at h
    · rename_i hc
      rcases List.mem_cons.mp h with rfl | h
      · exact ⟨[], List.not_mem_nil, .inr (by rw [hc]; rfl)⟩
      · exact ih h
    · rename_i hc
      have hne : ∀ {text : List Char}, '\n' ∉ text → '\n' ∉ c :: text := fun ht hm =>
        (List.mem_cons.mp hm).elim (fun heq => hc heq.symm) ht
      split at h
      · rw [List.mem_singleton.mp h]
        exact ⟨[c], hne List.not_mem_nil, .inl rfl⟩
      · rename_i l' ls' hrest
        rw [hrest] at ih
        -- The first line is the first character and what the rest begins with.
        rcases List.mem_cons.mp h with rfl | h
        · obtain ⟨text, htext, hl⟩ := ih List.mem_cons_self
          exact ⟨c :: text, hne htext, hl.imp (congrArg _) (congrArg _)⟩
        · exact ih (List.mem_cons_of_mem l' h)

/-- No line feed belongs to the content of a line. -/
theorem newline_notMem_content {s l : List Char} {ls ls' : List (List Char)}
    (h : lines s = ls ++ l :: ls') : '\n' ∉ content l := by
  have hl : l ∈ lines s := by
    rw [h]
    exact List.mem_append_right ls List.mem_cons_self
  obtain ⟨text, htext, rfl | rfl⟩ := exists_of_mem_lines hl
  · exact fun hm => htext ((isPrefix_content _).subset hm)
  · have hcontent : content (text ++ ['\n']) = content text :=
      List.rdropWhile_concat_pos isLineEnd text '\n' rfl
    rw [hcontent]
    exact fun hm => htext ((isPrefix_content _).subset hm)

end LinkAtlas.Text
