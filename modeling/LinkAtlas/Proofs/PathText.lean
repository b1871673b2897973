import LinkAtlas.Proofs.Normalization
import LinkAtlas.Proofs.PathKeys
import Mathlib.Logic.Relation

namespace LinkAtlas.Path

/-!
# One text for all spellings of a path

A path may be written with more slashes and dots than it needs. Its components do not show them, and
neither does its text, which is the same for all spellings and names the path again.

* `Shortens` — leaving out a slash, or a dot and a slash, that a path does not need;
* `eqvGen_ofParts` — every path comes to its canonical text in this way, so `partsOf_eq_iff` — two
  paths have the same components exactly if such steps lead from one to the other;
* `isInner_of_relative` — the components of a relative path, none of which stands for its start;
* `relativeTo_joined` — what is left of such a path that was read from a root;
* `render_faithful` — hence texts of paths are faithful, also of those below a root.
-/

/-! ### Spellings of a path -/

/-- A step to a shorter spelling: an empty component or a dot is left out, between two others or at
    the end, and one of the slashes around it. -/
inductive Shortens : List Char → List Char → Prop where
  | inner (dir s : List Char) {idle : List Char} (h : IsIdle idle) :
      Shortens (dir ++ '/' :: (idle ++ '/' :: s)) (dir ++ '/' :: s)
  | last {dir idle : List Char} (hdir : dir ≠ []) (h : IsIdle idle) :
      Shortens (dir ++ '/' :: idle) dir

/-- An idle piece has no slash in it. -/
theorem IsIdle.slash_notMem {part : List Char} (h : IsIdle part) : '/' ∉ part := by
  rcases h with rfl | rfl <;> decide

/-- A piece stands for no component exactly if it is idle. -/
theorem innerPart?_eq_none_iff {part : List Char} : innerPart? part = none ↔ IsIdle part := by
  unfold innerPart? IsIdle
  split
  · simp_all
  · split <;> simp_all

/-- The components of a shorter spelling are the same. -/
theorem partsOf_of_shortens {s t : List Char} (h : Shortens s t) : partsOf s = partsOf t := by
  -- What a step takes away is an idle piece, inside the text or at its end, and no component comes
  -- from an idle piece.
  cases h with
  | @inner dir s idle h =>
    have hpieces : (splitSlash (idle ++ '/' :: s)).filterMap innerPart? =
        (splitSlash s).filterMap innerPart? := by
      rw [splitSlash_append_slash h.slash_notMem,
        List.filterMap_cons_none (innerPart?_eq_none_iff.mpr h)]
    by_cases hdir : dir = []
    · subst hdir
      exact congrArg (Part.root :: ·) hpieces
    · rw [partsOf_append hdir, partsOf_append hdir, hpieces]
  | last hdir h =>
    rw [partsOf_append hdir, splitSlash_eq_singleton h.slash_notMem,
      List.filterMap_cons_none (innerPart?_eq_none_iff.mpr h), List.filterMap_nil, List.append_nil]

/-- Pieces behind a directory, each with a slash before it. -/
def behind (pieces : List (List Char)) : List Char := pieces.flatMap ('/' :: ·)

@[simp] theorem behind_nil : behind [] = [] := rfl

/-- The first piece behind a directory comes first. -/
@[simp] theorem behind_cons (piece : List Char) (pieces : List (List Char)) :
    behind (piece :: pieces) = '/' :: (piece ++ behind pieces) := rfl

/-- Joining puts a slash before all pieces but the first. -/
theorem joinSlash_eq (piece : List Char) (pieces : List (List Char)) :
    joinSlash (piece :: pieces) = piece ++ behind pieces := by
  induction pieces generalizing piece with
  | nil => simp [joinSlash]
  | cons next pieces ih => rw [joinSlash_cons piece (by simp), ih, behind_cons]

/-- The canonical text of components that do not start with the root. -/
theorem ofParts_cons {p : Part} (hp : p ≠ .root) (ps : List Part) :
    ofParts (p :: ps) = p.text ++ behind (ps.map Part.text) := by
  rw [ofParts, if_neg (by simp [hp]), List.map_cons, joinSlash_eq]

open Relation (EqvGen)

/-- Behind a directory, all pieces that stand for no component can be left out. -/
theorem eqvGen_behind {dir : List Char} (hdir : dir ≠ []) (pieces : List (List Char)) :
    EqvGen Shortens (dir ++ behind pieces)
      (dir ++ behind ((pieces.filterMap innerPart?).map Part.text)) := by
  induction pieces generalizing dir with
  | nil => exact .refl _
  | cons piece pieces ih =>
    cases hpiece : innerPart? piece with
    | none =>
      rw [List.filterMap_cons_none hpiece]
      have hidle := innerPart?_eq_none_iff.mp hpiece
      refine .trans _ (dir ++ behind pieces) _ (.rel _ _ ?_) (ih hdir)
      cases pieces with
      | nil => simpa using Shortens.last hdir hidle
      | cons next pieces => simpa using Shortens.inner dir (next ++ behind pieces) hidle
    | some p =>
      -- The piece stays, and the ones after it stand behind a longer directory.
      have hlonger := ih (List.append_ne_nil_of_right_ne_nil dir (List.cons_ne_nil '/' piece))
      rw [List.filterMap_cons_some hpiece, List.map_cons, Part.text_of_innerPart? hpiece]
      simpa using hlonger

/-- Behind the root they can be left out as well, but for a last slash. -/
theorem eqvGen_behind_root {pieces : List (List Char)} (hne : pieces ≠ []) :
    EqvGen Shortens (behind pieces) (ofParts (.root :: pieces.filterMap innerPart?)) := by
  induction pieces with
  | nil => contradiction
  | cons piece pieces ih =>
    cases hpiece : innerPart? piece with
    | none =>
      rw [List.filterMap_cons_none hpiece]
      have hidle := innerPart?_eq_none_iff.mp hpiece
      cases pieces with
      | nil =>
        -- A dot behind the root takes a detour, as the root is not left out.
        refine .trans _ ('/' :: (piece ++ ['/'])) _ (.symm _ _ (.rel _ _ ?_)) (.rel _ _ ?_)
        · simpa using Shortens.last (List.cons_ne_nil '/' piece) (.inl rfl)
        · simpa [ofParts] using Shortens.inner [] [] hidle
      | cons next pieces =>
        refine .trans _ _ _ (.rel _ _ ?_) (ih (by simp))
        simpa using Shortens.inner [] (next ++ behind pieces) hidle
    | some p =>
      have hlonger := eqvGen_behind (List.cons_ne_nil '/' piece) pieces
      rw [List.filterMap_cons_some hpiece, ofParts, if_neg (by simp), List.map_cons, joinSlash_eq,
        List.map_cons, Part.text_of_innerPart? hpiece]
      simpa [Part.text] using hlonger

/-- The pieces of a text, with a slash before each. -/
theorem behind_splitSlash (s : List Char) : behind (splitSlash s) = '/' :: s := by
  obtain ⟨piece, pieces, hsplit⟩ := List.exists_cons_of_ne_nil (splitSlash_ne_nil s)
  rw [hsplit, behind_cons, ← joinSlash_eq, ← hsplit, joinSlash_splitSlash]

/-- The canonical text of a relative path has the first piece as it is, whatever it stands for. -/
theorem ofParts_partsOf {s part : List Char} {pieces : List (List Char)}
    (h : splitSlash s = part :: pieces) (hpart : part ≠ []) :
    ofParts (partsOf s) = part ++ behind ((pieces.filterMap innerPart?).map Part.text) := by
  rw [partsOf_of_splitSlash h hpart]
  split
  · rename_i hdot
    rw [ofParts_cons (by simp), hdot]
    rfl
  · rename_i hdot
    cases hp : innerPart? part with
    | none => exact absurd (innerPart?_eq_none_iff.mp hp) (by simp [IsIdle, hpart, hdot])
    | some p =>
      have htext := Part.text_of_innerPart? hp
      have hroot : p ≠ .root := by
        rintro rfl
        exact hpart htext.symm
      rw [List.filterMap_cons_some hp, ofParts_cons hroot, htext]

/-- The canonical text of its components is a spelling of every path. -/
theorem eqvGen_ofParts (s : List Char) : EqvGen Shortens s (ofParts (partsOf s)) := by
  cases s with
  | nil => exact .refl _
  | cons c s =>
    -- A leading slash is a component of its own; without one the first piece is kept even when it
    -- is a dot.
    by_cases hc : c = '/'
    · subst hc
      show EqvGen Shortens ('/' :: s) (ofParts (.root :: (splitSlash s).filterMap innerPart?))
      rw [← behind_splitSlash s]
      exact eqvGen_behind_root (splitSlash_ne_nil s)
    · obtain ⟨part, pieces, hsplit⟩ := exists_splitSlash_eq_cons hc s
      have hs : c :: s = (c :: part) ++ behind pieces := by
        rw [← joinSlash_eq, ← hsplit, joinSlash_splitSlash]
      rw [ofParts_partsOf hsplit (List.cons_ne_nil c part), hs]
      exact eqvGen_behind (List.cons_ne_nil c part) pieces

/-- Two paths have the same components exactly if they are spellings of one path. -/
theorem partsOf_eq_iff {s t : List Char} : partsOf s = partsOf t ↔ EqvGen Shortens s t := by
  constructor
  · intro h
    refine .trans _ _ _ (eqvGen_ofParts s) ?_
    rw [h]
    exact .symm _ _ (eqvGen_ofParts t)
  · intro h
    induction h with
    | rel s t h => exact partsOf_of_shortens h
    | refl => rfl
    | symm _ _ _ ih => exact ih.symm
    | trans _ _ _ _ _ ih ih' => exact ih.trans ih'

/-! ### Texts -/

/-- On disk the slash stands between components too. -/
@[simp] theorem ofText_eq (s : String) : ofText s = s := by
  have hself : ∀ c, (if c = '/' then separator else c) = c := by
    intro c
    split
    · rename_i hc
      rw [hc, separator]
    · rfl
  simp [ofText, hself]

/-- A text names the components that it is the canonical text of. -/
theorem render_eq_iff {p q : String} : render p = render q ↔ parts p = parts q := by
  constructor
  · intro h
    rw [← parts_render p, h, parts_render]
  · exact render_congr

/-- A relative path that starts with no dot has inner components only. -/
theorem isInner_of_relative {s : List Char} (hs : isAbsolute s = false)
    (hdot : (partsOf s).head? ≠ some .here) : ∀ p ∈ partsOf s, p.IsInner := by
  have hroot : .root ∉ partsOf s := fun hroot =>
    absurd (isAbsolute_of_root_mem hroot) (by simp [hs])
  have hcanonical := isCanonical_partsOf s
  generalize partsOf s = ps at hdot hroot hcanonical ⊢
  cases hcanonical with
  | relative h => exact h
  | absolute h => exact absurd List.mem_cons_self hroot
  | dotted h => exact absurd rfl hdot

/-- Below a root, the text of a path that is read from the root is that of the path on its own. -/
theorem relativeTo_joined {root rel : String} (hroot : isAbsolute root.toList = true)
    (hrel : isAbsolute rel.toList = false) (hdot : (parts rel).head? ≠ some .here) :
    relativeTo root (joined root rel) = render rel := by
  have hinner : ∀ p ∈ parts rel, p.IsInner := isInner_of_relative hrel hdot
  rw [relativeTo_of_append (parts_joined hinner hroot rfl), render]

/-- The text of a path is faithful. Two paths have one text exactly if they have the same components,
    and these are the same exactly if the paths differ in repeated slashes, slashes at the end and
    dots that are not at the start. As a path the text has the components that it was made of. Relative
    to an absolute root, a path that was read from the root has the text that it has on its own,
    unless it is absolute or starts with a dot. -/
theorem render_faithful :
    (∀ p q : String, (render p = render q ↔ parts p = parts q) ∧
      (parts p = parts q ↔ EqvGen Shortens p.toList q.toList) ∧
      parts (ofText (render p)) = parts p) ∧
    ∀ root rel : String, isAbsolute root.toList = true → isAbsolute rel.toList = false →
      (parts rel).head? ≠ some .here → relativeTo root (joined root rel) = render rel := by
  refine ⟨fun p q => ⟨render_eq_iff, partsOf_eq_iff, ?_⟩, fun root rel => relativeTo_joined⟩
  rw [ofText_eq, parts_render]

/-- A root and a path below it that are both written with slashes and dots to spare: with them and
    without them the path has one text, and this is also what is left of it below the root. -/
theorem render_faithful_untidy :
    let root := "/srv//docs/."
    let rel := "../a//./b.md/"
    isAbsolute root.toList = true ∧ isAbsolute rel.toList = false ∧
      (parts rel).head? ≠ some .here ∧ EqvGen Shortens rel.toList "../a/b.md".toList ∧
      render rel = render "../a/b.md" ∧ relativeTo root (joined root rel) = render rel := by
  intro root rel
  have hroot : isAbsolute root.toList = true := by decide +kernel
  have hrel : isAbsolute rel.toList = false := by decide +kernel
  have hdot : (parts rel).head? ≠ some .here := by decide +kernel
  have hparts : parts rel = parts "../a/b.md" := by decide +kernel
  obtain ⟨hspellings, hbelow⟩ := render_faithful
  obtain ⟨htext, hsteps, -⟩ := hspellings rel "../a/b.md"
  exact ⟨hroot, hrel, hdot, hsteps.mp hparts, htext.mpr hparts, hbelow root rel hroot hrel hdot⟩

end LinkAtlas.Path
