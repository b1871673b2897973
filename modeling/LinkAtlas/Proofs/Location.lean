import LinkAtlas.Path.Components
import LinkAtlas.Document.Parse
import Mathlib.Data.List.Basic

namespace LinkAtlas

/-!
# Locations and their texts

Several texts may name one location, but the text that a document carries names only one. A path is
a text, so writing out its components loses nothing.

* `Path.IsCanonical` — the component sequences that some text has; `Path.isCanonical_partsOf`;
* `Path.partsOf_ofParts` — the text of such a sequence has exactly these components;
* `Path.parts_eq_of_relativeTo_eq` — hence two absolute paths with one text below a root have the
  same components, whether they lie below it or not;
* `Document.relPath_of_ofText`, `Document.path_of_ofText`, `Document.ofText_congr` — a document
  carries this text and that of its whole path, and depends on the path by the components alone.
-/

namespace Path

/-! ### Canonical components -/

/-- Whether a component may stand behind the first one. -/
def Part.IsInner (p : Part) : Prop := innerPart? p.text = some p ∧ '/' ∉ p.text

/-- The component sequences of texts: the root and a leading dot stand nowhere but at the start. -/
inductive IsCanonical : List Part → Prop where
  | relative {ps : List Part} (h : ∀ p ∈ ps, p.IsInner) : IsCanonical ps
  | absolute {ps : List Part} (h : ∀ p ∈ ps, p.IsInner) : IsCanonical (.root :: ps)
  | dotted {ps : List Part} (h : ∀ p ∈ ps, p.IsInner) : IsCanonical (.here :: ps)

/-- No slash is in a piece between slashes. -/
theorem not_mem_of_mem_splitSlash {s piece : List Char} (h : piece ∈ splitSlash s) :
    '/' ∉ piece := by
  -- By induction on the text: a slash ends the piece, and any other character joins the next piece.
  induction s generalizing piece with
  | nil => simp [List.mem_singleton.mp h]
  | cons c rest ih =>
    unfold splitSlash at h
    split at h
    · rcases List.mem_cons.mp h with rfl | h
      · exact List.not_mem_nil
      · exact ih h
    · rename_i hc
      split at h
      · rw [List.mem_singleton.mp h]
        simpa using Ne.symm hc
      · rename_i part parts hsplit
        rw [hsplit] at ih
        rcases List.mem_cons.mp h with rfl | h
        · have hpart := ih List.mem_cons_self
          simpa using ⟨Ne.symm hc, hpart⟩
        · exact ih (List.mem_cons_of_mem part h)

/-- A component has the text of the piece that it stands for. -/
theorem Part.text_of_innerPart? {s : List Char} {p : Part} (h : innerPart? s = some p) :
    p.text = s := by
  unfold innerPart? at h
  split at h
  · exact nomatch h
  · split at h
    · rename_i hup
      rw [← Option.some.inj h, hup, Part.text]
    · rw [← Option.some.inj h, Part.text]

/-- What a piece between slashes stands for may stand inside a path. -/
theorem Part.isInner_of_innerPart? {s : List Char} {p : Part} (h : innerPart? s = some p)
    (hs : '/' ∉ s) : p.IsInner := by
  have htext := text_of_innerPart? h
  exact ⟨htext ▸ h, htext ▸ hs⟩

/-- So may what all pieces stand for. -/
theorem isInner_of_mem_pieces {pieces : List (List Char)} (h : ∀ s ∈ pieces, '/' ∉ s) {p : Part}
    (hp : p ∈ pieces.filterMap innerPart?) : p.IsInner := by
  obtain ⟨s, hs, hpart⟩ := List.mem_filterMap.mp hp
  exact Part.isInner_of_innerPart? hpart (h s hs)

/-- The components of a text are canonical. -/
theorem isCanonical_partsOf (s : List Char) : IsCanonical (partsOf s) := by
  unfold partsOf
  split
  · exact .absolute fun p => isInner_of_mem_pieces fun _ => not_mem_of_mem_splitSlash
  · have hpieces : ∀ piece ∈ splitSlash s, '/' ∉ piece := fun _ => not_mem_of_mem_splitSlash
    split
    · rename_i rest hsplit
      rw [hsplit] at hpieces
      exact .dotted fun p =>
        isInner_of_mem_pieces fun piece hpiece => hpieces piece (List.mem_cons_of_mem _ hpiece)
    · exact .relative fun p => isInner_of_mem_pieces hpieces

/-- The components of an absolute path start with the root. -/
theorem exists_parts_eq {s : List Char} (h : isAbsolute s = true) :
    ∃ ps, partsOf s = .root :: ps ∧ ∀ p ∈ ps, p.IsInner := by
  obtain ⟨rest, rfl⟩ := exists_eq_slash_cons h
  exact ⟨_, rfl, fun p => isInner_of_mem_pieces fun _ => not_mem_of_mem_splitSlash⟩

/-! ### From components to text and back -/

/-- The texts of inner components stand for these components. -/
theorem filterMap_text {ps : List Part} (h : ∀ p ∈ ps, p.IsInner) :
    (ps.map Part.text).filterMap innerPart? = ps := by
  have hself : ∀ p ∈ ps, (innerPart? ∘ Part.text) p = some p := fun p hp => (h p hp).1
  rw [List.filterMap_map, List.filterMap_congr hself, List.filterMap_some]

/-- The texts of components are the pieces of the text that they are joined to. -/
theorem splitSlash_text {ps : List Part} (hne : ps ≠ []) (h : ∀ p ∈ ps, '/' ∉ p.text) :
    splitSlash (joinSlash (ps.map Part.text)) = ps.map Part.text := by
  apply splitSlash_joinSlash (by simpa using hne)
  intro piece hpiece
  obtain ⟨p, hp, rfl⟩ := List.mem_map.mp hpiece
  exact h p hp

/-- The components of a text that does not start with a slash. -/
theorem partsOf_of_splitSlash {s first : List Char} {rest : List (List Char)}
    (h : splitSlash s = first :: rest) (hfirst : first ≠ []) :
    partsOf s = if first = ['.'] then .here :: rest.filterMap innerPart?
      else (first :: rest).filterMap innerPart? := by
  -- Only the first piece is kept when it is a dot.
  unfold partsOf
  split
  · rw [splitSlash, if_pos rfl] at h
    exact absurd (List.cons.inj h).1.symm hfirst
  · rw [h]
    split
    · rename_i heq
      obtain ⟨rfl, rfl⟩ := List.cons.inj heq
      rw [if_pos rfl]
    · rename_i hdot
      rw [if_neg fun hfirst => hdot rest (by rw [hfirst])]

/-- The text of canonical components has these components. -/
theorem partsOf_ofParts {ps : List Part} (h : IsCanonical ps) : partsOf (ofParts ps) = ps := by
  cases h with
  | relative h =>
    cases ps with
    | nil => rfl
    | cons p ps =>
      obtain ⟨hp, -⟩ := h p List.mem_cons_self
      have hroot : p :: ps ≠ [.root] := by
        rintro heq
        rw [(List.cons.inj heq).1] at hp
        exact nomatch hp
      have hsplit := splitSlash_text (List.cons_ne_nil p ps) fun q hq => (h q hq).2
      -- The first piece is not one that starts an absolute or a dotted path.
      have hempty : p.text ≠ [] := by
        intro hempty
        rw [hempty] at hp
        exact nomatch hp
      have hdot : p.text ≠ ['.'] := by
        intro hdot
        rw [hdot] at hp
        exact nomatch hp
      rw [ofParts, if_neg hroot, partsOf_of_splitSlash hsplit hempty, if_neg hdot]
      exact filterMap_text h
  | absolute h =>
    rename_i ps
    cases ps with
    | nil => rfl
    | cons p ps =>
      have hsplit := splitSlash_text (List.cons_ne_nil p ps) fun q hq => (h q hq).2
      rw [ofParts, if_neg (by simp), List.map_cons, joinSlash_cons _ (by simp)]
      show Part.root :: (splitSlash _).filterMap innerPart? = _
      rw [hsplit, filterMap_text h]
  | dotted h =>
    rename_i ps
    have hsplit : splitSlash (joinSlash ((Part.here :: ps).map Part.text)) =
        ['.'] :: ps.map Part.text := by
      refine splitSlash_text (List.cons_ne_nil _ _) fun p hp => ?_
      rcases List.mem_cons.mp hp with rfl | hp
      · decide
      · exact (h p hp).2
    rw [ofParts, if_neg (by simp), partsOf_of_splitSlash hsplit (by simp), if_pos rfl,
      filterMap_text h]

/-- Canonical components are told by their text. -/
theorem ofParts_inj {ps qs : List Part} (hps : IsCanonical ps) (hqs : IsCanonical qs)
    (h : ofParts ps = ofParts qs) : ps = qs := by
  rw [← partsOf_ofParts hps, h, partsOf_ofParts hqs]

/-! ### Texts below a root -/

/-- The root does not stand inside a path. -/
theorem Part.not_isInner_root : ¬ Part.root.IsInner := fun h => nomatch h.1

/-- What is left of an absolute path below a directory is canonical. It starts with the root only
    below the empty path. -/
theorem below?_absolute {dir ps rest : List Part} (hps : ∀ p ∈ ps, p.IsInner)
    (h : below? dir (.root :: ps) = some rest) :
    .root :: ps = dir ++ rest ∧ IsCanonical rest ∧ (dir = [] ∨ .root ∉ rest) := by
  unfold below? at h
  split at h
  · rename_i hprefix
    obtain ⟨tail, htail⟩ := List.isPrefixOf_iff_prefix.mp hprefix
    rw [← htail, List.drop_left] at h
    obtain rfl := Option.some.inj h
    -- The root is a component of `dir` unless `dir` is empty.
    cases dir with
    | nil =>
      rw [List.nil_append] at htail
      exact ⟨htail.symm, htail ▸ .absolute hps, .inl rfl⟩
    | cons p dir =>
      have hinner : ∀ q ∈ tail, q.IsInner := fun q hq =>
        hps q ((List.cons.inj htail).2 ▸ List.mem_append_right dir hq)
      exact ⟨htail.symm, .relative hinner, .inr fun hroot =>
        Part.not_isInner_root (hinner .root hroot)⟩
  · exact nomatch h

/-- A path that lies below a directory and one that does not have different texts. -/
theorem ofParts_ne_of_below? {dir ps qs rest : List Part} (hps : ∀ p ∈ ps, p.IsInner)
    (hqs : ∀ p ∈ qs, p.IsInner) (hp : below? dir (.root :: ps) = some rest)
    (hq : below? dir (.root :: qs) = none) : ofParts rest ≠ ofParts (.root :: qs) := by
  intro htext
  obtain ⟨-, hcanonical, hroot⟩ := below?_absolute hps hp
  have hrest := ofParts_inj hcanonical (.absolute hqs) htext
  rcases hroot with rfl | hroot
  · exact nomatch hq
  · exact hroot (hrest ▸ List.mem_cons_self)

/-- Absolute paths with one text relative to a directory have the same components. -/
theorem parts_eq_of_relativeTo_eq {dir p q : String} (hp : isAbsolute p.toList = true)
    (hq : isAbsolute q.toList = true) (h : relativeTo dir p = relativeTo dir q) :
    parts p = parts q := by
  obtain ⟨ps, hps, hpinner⟩ := exists_parts_eq hp
  obtain ⟨qs, hqs, hqinner⟩ := exists_parts_eq hq
  have htext := String.ofList_inj.mp h
  simp only [parts, hps, hqs] at htext ⊢
  -- Both lie below the directory, neither does, or one of them; in the last two the texts differ
  -- already in whether they start with a slash.
  cases hpbelow : below? (partsOf dir.toList) (.root :: ps) with
  | none =>
    cases hqbelow : below? (partsOf dir.toList) (.root :: qs) with
    | none =>
      rw [hpbelow, hqbelow] at htext
      exact ofParts_inj (.absolute hpinner) (.absolute hqinner) htext
    | some rest =>
      rw [hpbelow, hqbelow] at htext
      exact absurd htext.symm (ofParts_ne_of_below? hqinner hpinner hqbelow hpbelow)
  | some rest =>
    obtain ⟨hpeq, hpcanonical, -⟩ := below?_absolute hpinner hpbelow
    cases hqbelow : below? (partsOf dir.toList) (.root :: qs) with
    | none =>
      rw [hpbelow, hqbelow] at htext
      exact absurd htext (ofParts_ne_of_below? hpinner hqinner hpbelow hqbelow)
    | some rest' =>
      obtain ⟨hqeq, hqcanonical, -⟩ := below?_absolute hqinner hqbelow
      rw [hpbelow, hqbelow] at htext
      rw [hpeq, hqeq, ofParts_inj hpcanonical hqcanonical htext]

/-! ### What depends on the components alone -/

section Congr

variable {p q : String} (h : parts p = parts q)
include h

/-- Paths with the same components have one text below a directory. -/
theorem relativeTo_congr (dir : String) : relativeTo dir p = relativeTo dir q := by
  rw [relativeTo, relativeTo, h]

/-- Paths with the same components have one text. -/
theorem render_congr : render p = render q := by rw [render, render, h]

/-- Paths with the same components have one stem. -/
theorem stem?_congr : stem? p = stem? q := by rw [stem?, stem?, fileName?, fileName?, h]

end Congr

end Path

/-! ### Documents and their locations -/

/-- What a sequence gives was given by its second part, from what the first part gave. -/
theorem exists_of_bind_eq_ok {ε α β : Type} {x : Except ε α} {f : α → Except ε β} {b : β}
    (h : x >>= f = .ok b) : ∃ a, x = .ok a ∧ f a = .ok b := by
  cases x with
  | error e => exact nomatch h
  | ok a => exact ⟨a, rfl, h⟩

/-- Translating errors leaves results as they are. -/
theorem eq_ok_of_mapError_eq_ok {ε δ α : Type} {x : Except ε α} {f : ε → δ} {a : α}
    (h : x.mapError f = .ok a) : x = .ok a := by
  cases x with
  | error e => exact nomatch h
  | ok b => exact congrArg Except.ok (Except.ok.inj h)

namespace Document

/-- The document of a text is that of a header, which its text was split from. -/
theorem exists_ofHeader_of_ofText {root path text : String} {d : Document}
    (h : ofText root path text = .ok d) : ∃ header s,
      (Header.split text.toList = .ok s ∧ s.header ≠ none) ∧
        ofHeader root path text header s = d := by
  obtain ⟨s, hsplit, h⟩ := exists_of_bind_eq_ok (eq_ok_of_mapError_eq_ok h)
  split at h
  · exact nomatch h
  · rename_i block hblock
    obtain ⟨header, -, h⟩ := exists_of_bind_eq_ok h
    exact ⟨header, s, ⟨hsplit, by rw [hblock]; exact nofun⟩, Except.ok.inj h⟩

/-- A document carries the text of its path below the root. -/
theorem relPath_of_ofText {root path text : String} {d : Document}
    (h : ofText root path text = .ok d) : d.relPath = Path.relativeTo root path := by
  obtain ⟨header, s, -, rfl⟩ := exists_ofHeader_of_ofText h
  rfl

/-- A document carries the canonical text of its path. -/
theorem path_of_ofText {root path text : String} {d : Document}
    (h : ofText root path text = .ok d) : d.path = Path.render path := by
  obtain ⟨header, s, -, rfl⟩ := exists_ofHeader_of_ofText h
  rfl

section Congr

variable {p q : String} (h : Path.parts p = Path.parts q) (root text : String)
include h

/-- Reading a document hangs on the components of its path only. -/
theorem read_congr : read root p text = read root q text := by
  have hheader : ofHeader root p text = ofHeader root q text := by
    funext header s
    simp only [ofHeader, titleAt, Path.relativeTo_congr h, Path.render_congr h, Path.stem?_congr h]
  simp only [read, hheader]

/-- A document depends on its path by the components alone. -/
theorem ofText_congr : ofText root p text = ofText root q text := by
  simp only [ofText, read_congr h, Path.relativeTo_congr h]

end Congr

end Document

end LinkAtlas
