import LinkAtlas.Proofs.Duplicates

namespace LinkAtlas

/-!
# Both locations of a scanned document

A catalog has one table for locations below the root and for locations on disk, and the first
document with a location keeps it. No document loses one: read from the root, either location of a
document is the file that it was read from.

* `Path.IsBelow` — a path that lies strictly below a directory;
* `Path.parts_relativeTo`, `Path.parts_joined`, `Path.parts_render` — the components of the texts
  that a document carries, and of a path that is read from a directory; `Path.partsOf_joinedChars`
  — for a directory that is written in any way;
* `Scan.parts_joined_of_liesAt` — either location of a document, read from the root, has the
  components of its file;
* `Scan.eq_of_liesAt` — hence documents at one location are one document;
* `Catalog.FindsBoth` — a catalog finds documents by both of their locations, and none of these are
  shared;
* `Scan.Pool.findsBoth_of_finishes` — which the catalog of what a scan leaves does.
-/

namespace Path

/-! ### Paths below a directory -/

/-- Whether a path lies below a directory and is not the directory. -/
def IsBelow (dir path : String) : Prop := parts dir <+: parts path ∧ parts dir ≠ parts path

instance (dir path : String) : Decidable (IsBelow dir path) :=
  inferInstanceAs (Decidable (parts dir <+: parts path ∧ parts dir ≠ parts path))

/-- No piece between slashes stands for the root. -/
theorem root_notMem_filterMap (pieces : List (List Char)) :
    Part.root ∉ pieces.filterMap innerPart? := by
  intro hmem
  obtain ⟨piece, -, hpiece⟩ := List.mem_filterMap.mp hmem
  unfold innerPart? at hpiece
  split at hpiece
  · exact nomatch hpiece
  · split at hpiece <;> exact nomatch hpiece

/-- A path is absolute when the root is one of its components. -/
theorem isAbsolute_of_root_mem {s : List Char} (h : .root ∈ partsOf s) : isAbsolute s = true := by
  unfold partsOf at h
  split at h
  · rfl
  · split at h
    · rcases List.mem_cons.mp h with h | h
      · exact nomatch h
      · exact absurd h (root_notMem_filterMap _)
    · exact absurd h (root_notMem_filterMap _)

/-- A path is absolute exactly if the root is one of its components. -/
theorem isAbsolute_iff {s : List Char} : isAbsolute s = true ↔ .root ∈ partsOf s := by
  constructor
  · intro h
    obtain ⟨ps, hps, -⟩ := exists_parts_eq h
    rw [hps]
    exact List.mem_cons_self
  · exact isAbsolute_of_root_mem

/-- The root is no inner component. -/
theorem root_notMem_of_isInner {ps : List Part} (h : ∀ p ∈ ps, p.IsInner) : .root ∉ ps :=
  fun hroot => Part.not_isInner_root (h .root hroot)

/-- Behind the root there are inner components only. -/
theorem isInner_of_isCanonical_root {ps : List Part} (h : IsCanonical (.root :: ps)) :
    ∀ p ∈ ps, p.IsInner := by
  cases h with
  | relative h => exact absurd (h .root List.mem_cons_self) Part.not_isInner_root
  | absolute h => exact h

section Below

variable {dir path : String} (hdir : isAbsolute dir.toList = true) (h : IsBelow dir path)
include hdir h

/-- The components of a path below an absolute directory are those of the directory and some more,
    all of which stand behind the root. -/
theorem IsBelow.exists_rest :
    ∃ rest, parts path = parts dir ++ rest ∧ rest ≠ [] ∧ ∀ p ∈ rest, p.IsInner := by
  obtain ⟨⟨rest, hrest⟩, hne⟩ := h
  refine ⟨rest, hrest.symm, ?_, ?_⟩
  · rintro rfl
    exact hne (by rw [← hrest, List.append_nil])
  · obtain ⟨ds, hds, -⟩ := exists_parts_eq hdir
    -- What stands below the root is inner, because the components of a path are canonical.
    have hcanonical : IsCanonical (.root :: (ds ++ rest)) := by
      have hpath := isCanonical_partsOf path.toList
      rw [← List.cons_append, ← hds]
      exact hrest ▸ hpath
    intro p hp
    exact isInner_of_isCanonical_root hcanonical p (List.mem_append_right ds hp)

/-- What lies below a root is absolute. -/
theorem IsBelow.isAbsolute : Path.isAbsolute path.toList = true := by
  apply isAbsolute_of_root_mem
  exact h.1.subset (isAbsolute_iff.mp hdir)

end Below

/-! ### Texts of a path -/

/-- The canonical text of a path has its components. -/
@[simp] theorem parts_render (s : String) : parts (render s) = parts s := by
  rw [parts, render, String.toList_ofList]
  exact partsOf_ofParts (isCanonical_partsOf s.toList)

/-- A path that starts with no slash starts with its first piece. -/
theorem exists_splitSlash_eq_cons {c : Char} (hc : c ≠ '/') (s : List Char) :
    ∃ part others, splitSlash (c :: s) = (c :: part) :: others := by
  obtain ⟨part, others, hsplit⟩ := List.exists_cons_of_ne_nil (splitSlash_ne_nil s)
  exact ⟨part, others, by simp [splitSlash, hc, hsplit]⟩

/-- What stands behind a directory and a slash adds its components, whatever the directory starts
    with. -/
theorem partsOf_append {dir : List Char} (hne : dir ≠ []) (s : List Char) :
    partsOf (dir ++ '/' :: s) = partsOf dir ++ (splitSlash s).filterMap innerPart? := by
  obtain ⟨c, rest, rfl⟩ := List.exists_cons_of_ne_nil hne
  by_cases hc : c = '/'
  · subst hc
    show Part.root :: (splitSlash (rest ++ '/' :: s)).filterMap innerPart? = _
    rw [splitSlash_append, List.filterMap_append]
    rfl
  · obtain ⟨part, others, hsplit⟩ := exists_splitSlash_eq_cons hc rest
    have hall : splitSlash (c :: rest ++ '/' :: s) = (c :: part) :: (others ++ splitSlash s) := by
      rw [splitSlash_append, hsplit, List.cons_append]
    rw [partsOf_of_splitSlash hall (List.cons_ne_nil c part),
      partsOf_of_splitSlash hsplit (List.cons_ne_nil c part)]
    -- The first component is the same in both, so it stands for a leading dot in both or in none.
    split
    · rw [List.filterMap_append, List.cons_append]
    · rw [← List.cons_append, List.filterMap_append]

/-- So does a path that is read from a directory. -/
theorem partsOf_joinedChars {dir s : List Char} (hne : dir ≠ []) (hs : isAbsolute s = false) :
    partsOf (joinedChars dir s) = partsOf dir ++ (splitSlash s).filterMap innerPart? := by
  rcases List.eq_nil_or_concat dir with rfl | ⟨init, last, rfl⟩
  · contradiction
  · rw [joinedChars, hs, Bool.false_or, List.concat_eq_append, if_neg (by simp),
      List.getLast?_concat]
    split
    · rename_i hlast
      obtain rfl := Option.some.inj hlast
      rw [List.append_assoc, List.singleton_append]
      by_cases hinit : init = []
      · subst hinit
        rfl
      · -- The slash at the end of the directory is the one between the two paths.
        rw [partsOf_append hinit s, partsOf_append hinit []]
        simp [splitSlash, innerPart?]
    · exact partsOf_append (by simp) s

/-- Relative to a directory, a path below it is what stands behind the directory. -/
theorem relativeTo_of_append {dir path : String} {rest : List Part}
    (h : parts path = parts dir ++ rest) : relativeTo dir path = String.ofList (ofParts rest) := by
  have hbelow : below? (parts dir) (parts path) = some rest := by
    rw [below?, h, List.isPrefixOf_iff_prefix.mpr (List.prefix_append _ _), if_pos rfl,
      List.drop_left]
  rw [relativeTo, hbelow, Option.getD_some]

section Texts

variable {dir path : String} {rest : List Part} (hrest : ∀ p ∈ rest, p.IsInner)
include hrest

/-- The text of a path below a folder has the components that follow those of the folder. -/
theorem parts_relativeTo (h : parts path = parts dir ++ rest) :
    parts (relativeTo dir path) = rest := by
  rw [relativeTo_of_append h, parts, String.toList_ofList]
  exact partsOf_ofParts (.relative hrest)

/-- The components of a text are those of its pieces, if none of them has to stand in front. -/
theorem filterMap_splitSlash {t : List Char} (ht : partsOf t = rest) :
    (splitSlash t).filterMap innerPart? = rest := by
  unfold partsOf at ht
  split at ht
  · exact absurd (ht ▸ List.mem_cons_self) (root_notMem_of_isInner hrest)
  · split at ht
    · have hhere : Part.here.IsInner := hrest .here (ht ▸ List.mem_cons_self)
      exact nomatch hhere.1
    · exact ht

/-- A path that is read from an absolute directory has its components behind those of the
    directory, whether or not the directory is written with a slash at its end. -/
theorem parts_joined {rel : String} (hdir : isAbsolute dir.toList = true)
    (hrel : parts rel = rest) : parts (joined dir rel) = parts dir ++ rest := by
  have hnot : isAbsolute rel.toList = false := by
    rw [Bool.eq_false_iff, ne_eq, isAbsolute_iff]
    intro hroot
    exact root_notMem_of_isInner hrest (hrel ▸ hroot)
  -- The directory is absolute, so it is not empty and a slash is written behind it.
  have hne : dir.toList ≠ [] := by
    intro hempty
    rw [hempty] at hdir
    exact nomatch hdir
  rw [parts, joined, String.toList_ofList, partsOf_joinedChars hne hnot,
    filterMap_splitSlash hrest hrel]
  rfl

end Texts

end Path

/-! ### Locations of documents -/

namespace Scan

variable {read : FileReader} {root : String} {p q : String} {d e : Document}

/-- A document that was read knows the path of its file. -/
theorem path_of_readDocument (h : readDocument read root p = .ok d) : d.path = Path.render p := by
  obtain ⟨text, -, h⟩ := exists_of_bind_eq_ok h
  exact Document.path_of_ofText h

section Root

variable (hroot : Path.isAbsolute root.toList = true)
include hroot

/-- Either location of a document, read from the root, has the components of its file. -/
theorem parts_joined_of_liesAt (hp : Path.IsBelow root p) (hd : readDocument read root p = .ok d)
    {path : String} (h : d.liesAt path = true) :
    Path.parts (Path.joined root path) = Path.parts p := by
  simp only [Document.liesAt, Bool.and_eq_true, Bool.or_eq_true, beq_iff_eq] at h
  rcases h.2 with hrel | habsolute
  · obtain ⟨rest, hparts, -, hinner⟩ := hp.exists_rest hroot
    have hrest : Path.parts path = rest := by
      rw [← hrel, relPath_of_readDocument hd]
      exact Path.parts_relativeTo hinner hparts
    rw [Path.parts_joined hinner hroot hrest, hparts]
  · have hpath : Path.parts path = Path.parts p := by
      rw [← habsolute, path_of_readDocument hd, Path.parts_render]
    -- An absolute path does not need the root.
    have hslash : Path.isAbsolute path.toList = true := by
      rw [Path.isAbsolute_iff]
      show .root ∈ Path.parts path
      rw [hpath]
      exact Path.isAbsolute_iff.mp (hp.isAbsolute hroot)
    rw [Path.joined, Path.joinedChars, hslash, Bool.true_or, if_pos rfl, String.ofList_toList,
      hpath]

/-- Documents with a location in common are one document. -/
theorem eq_of_liesAt (hread : read.FactorsThrough Path.parts) (hp : Path.IsBelow root p)
    (hq : Path.IsBelow root q) (hd : readDocument read root p = .ok d)
    (he : readDocument read root q = .ok e) {path : String} (hdp : d.liesAt path = true)
    (hep : e.liesAt path = true) : d = e := by
  have hparts : Path.parts p = Path.parts q := by
    rw [← parts_joined_of_liesAt hroot hp hd hdp, parts_joined_of_liesAt hroot hq he hep]
  exact Except.ok.inj (hd.symm.trans ((readDocument_congr hread hparts).trans he))

/-- A document lies at both of its locations: neither is empty. -/
theorem liesAt_relPath (hp : Path.IsBelow root p) (hd : readDocument read root p = .ok d) :
    d.liesAt d.relPath = true := by
  obtain ⟨rest, hparts, hne, hinner⟩ := hp.exists_rest hroot
  have hrest : Path.parts d.relPath = rest := by
    rw [relPath_of_readDocument hd]
    exact Path.parts_relativeTo hinner hparts
  have hempty : d.relPath ≠ "" := by
    intro hempty
    rw [hempty] at hrest
    exact hne hrest.symm
  simp [Document.liesAt, hempty]

/-- A document lies at the path of its file. -/
theorem liesAt_path (hp : Path.IsBelow root p) (hd : readDocument read root p = .ok d) :
    d.liesAt d.path = true := by
  have hroot' : .root ∈ Path.parts d.path := by
    rw [path_of_readDocument hd, Path.parts_render]
    exact Path.isAbsolute_iff.mp (hp.isAbsolute hroot)
  have hempty : d.path ≠ "" := by
    intro hempty
    rw [hempty] at hroot'
    exact List.not_mem_nil hroot'
  simp [Document.liesAt, hempty]

/-- The location on disk is the one below the root, read from the root. -/
theorem render_joined (hp : Path.IsBelow root p) (hd : readDocument read root p = .ok d) :
    Path.render (Path.joined root d.relPath) = d.path := by
  rw [path_of_readDocument hd]
  apply Path.render_congr
  exact parts_joined_of_liesAt hroot hp hd (liesAt_relPath hroot hp hd)

end Root

end Scan

namespace Catalog

/-- A catalog finds documents by both of their locations. The one below a root, read from the root,
    is the one on disk, and no location belongs to two documents. -/
structure FindsBoth (c : Catalog) (root : String) (ds : List Document) : Prop where
  byRelPath : ∀ d ∈ ds, c.findByPath? d.relPath = some d.id
  byPath : ∀ d ∈ ds, c.findByPath? d.path = some d.id
  joined : ∀ d ∈ ds, Path.render (Path.joined root d.relPath) = d.path
  eq_of_liesAt : ∀ d ∈ ds, ∀ e ∈ ds, ∀ path, d.liesAt path = true → e.liesAt path = true → d = e

/-- The only document at a path is found there. -/
theorem Finds.findByPath?_eq_some {c : Catalog} {ks : List Document} (h : Finds c ks) {k : Document}
    (hk : k ∈ ks) {path : String} (hpath : k.liesAt path = true)
    (honly : ∀ k' ∈ ks, k'.liesAt path = true → k' = k) : c.findByPath? path = some k.id := by
  rw [h.findByPath?]
  cases hfind : ks.find? (·.liesAt path) with
  | none => exact absurd hpath (List.find?_eq_none.mp hfind k hk)
  | some k' =>
    rw [honly k' (List.mem_of_find?_eq_some hfind) (List.find?_some hfind)]
    rfl

end Catalog

namespace Scan.Pool

variable {read : FileReader} {root : String} {workers : Nat}

/-- Every document that a scan leaves was read from one of the files. -/
theorem exists_file_of_mem {e : Enumeration} {s : Pool} (h : Finishes read root workers e s)
    {d : Document} (hd : d ∈ (s.result root).documents) :
    ∃ p ∈ e.files, readDocument read root p = .ok d := by
  obtain ⟨done, hall, hresult⟩ := exists_perm_of_finishes h
  rw [hresult] at hd
  have hkept : d ∈ Corpus.kept (documentsOf (done.map (readDocument read root))) := by
    rw [← Corpus.keepFirst_documents]
    exact hd
  obtain ⟨p, hp, hpd⟩ := List.mem_map.mp (mem_documentsOf.mp (Corpus.mem_of_mem_kept hkept))
  exact ⟨p, hall.mem_iff.mp hp, hpd⟩

/-- The ids of what a scan finds ascend, however the scan runs. -/
theorem ascending_documents {e : Enumeration} {s : Pool} (h : Finishes read root workers e s) :
    ((s.result root).documents.map (·.id)).Pairwise (· < ·) := by
  obtain ⟨done, -, hresult⟩ := exists_perm_of_finishes h
  rw [hresult]
  exact (Corpus.parted_keepFirst _).ascending

/-- The documents of every scan of files below an absolute root are found by both of their
    locations. Whatever there is to read at the components of a path, some run of a pool stops; and
    the catalog of what a run leaves, in whatever order the files got done, leads from both
    locations of each document to its id. -/
theorem findsBoth_of_finishes (contents : List Path.Part → Except IoCause (List UInt8))
    (root : String) (e : Enumeration) (hroot : Path.isAbsolute root.toList = true)
    (hbelow : ∀ p ∈ e.files, Path.IsBelow root p) (workers : Nat) :
    let read : FileReader := fun p => contents (Path.parts p)
    (∃ s, Finishes read root workers e s) ∧
      ∀ s, Finishes read root workers e s →
        let documents := (s.result root).documents
        (Catalog.build root documents).FindsBoth root documents := by
  intro read
  refine ⟨exists_finishes read root workers e, ?_⟩
  intro s hs documents
  have hread : read.FactorsThrough Path.parts := fun _ _ h => congrArg contents h
  have hfile : ∀ d ∈ documents, ∃ p, Path.IsBelow root p ∧ readDocument read root p = .ok d := by
    intro d hd
    obtain ⟨p, hp, hpd⟩ := exists_file_of_mem hs hd
    exact ⟨p, hbelow p hp, hpd⟩
  have hboth : ∀ d ∈ documents, d.liesAt d.relPath = true ∧ d.liesAt d.path = true ∧
      Path.render (Path.joined root d.relPath) = d.path := by
    intro d hd
    obtain ⟨p, hp, hpd⟩ := hfile d hd
    exact ⟨liesAt_relPath hroot hp hpd, liesAt_path hroot hp hpd, render_joined hroot hp hpd⟩
  have honly : ∀ d ∈ documents, ∀ d' ∈ documents, ∀ path,
      d.liesAt path = true → d'.liesAt path = true → d = d' := by
    intro d hd d' hd' path hpath hpath'
    obtain ⟨p, hp, hpd⟩ := hfile d hd
    obtain ⟨q, hq, hqd⟩ := hfile d' hd'
    exact eq_of_liesAt hroot hread hp hq hpd hqd hpath hpath'
  -- No id is repeated in what a scan leaves, so the catalog has all of its documents.
  have hfinds : (Catalog.build root documents).Finds documents := by
    have hbuild := Catalog.finds_build root documents
    rwa [Corpus.kept_of_ascending (ascending_documents hs)] at hbuild
  have hfound : ∀ d ∈ documents, ∀ path, d.liesAt path = true →
      (Catalog.build root documents).findByPath? path = some d.id := by
    intro d hd path hpath
    apply hfinds.findByPath?_eq_some hd hpath
    intro d' hd' hpath'
    exact honly d' hd' d hd path hpath' hpath
  exact
    { byRelPath := fun d hd => hfound d hd d.relPath (hboth d hd).1
      byPath := fun d hd => hfound d hd d.path (hboth d hd).2.1
      joined := fun d hd => (hboth d hd).2.2
      eq_of_liesAt := honly }

/-- Three listed paths of two files below a root that is written with a slash at its end. -/
theorem findsBoth_of_finishes_two_files :
    let bytes (s : String) : List UInt8 := s.toList.map fun c => c.toNat.toUInt8
    let contents : List Path.Part → Except IoCause (List UInt8) := fun ps =>
      .ok (bytes (if ps = Path.parts "/d/a.md" then "---\nid: n\n---\n" else "---\nid: m\n---\n"))
    let read : FileReader := fun p => contents (Path.parts p)
    let e : Enumeration := ⟨["/d/s//b.md", "/d/a.md", "/d/./a.md"], []⟩
    ∃ s, Finishes read "/d/" 2 e s ∧
      (Catalog.build "/d/" (s.result "/d/").documents).FindsBoth "/d/" (s.result "/d/").documents ∧
      (s.result "/d/").documents.map (fun d => (d.id, d.relPath, d.path)) =
        [("m", "s/b.md", "/d/s/b.md"), ("n", "a.md", "/d/a.md")] := by
  intro bytes contents read e
  obtain ⟨⟨s, hs⟩, hboth⟩ := findsBoth_of_finishes contents "/d/" e (by decide) (by decide) 2
  refine ⟨s, hs, hboth s hs, ?_⟩
  have hread : read.FactorsThrough Path.parts := fun _ _ h => congrArg contents h
  rw [result_eq_run_of_finishes hread (by decide) (.refl _) (.refl _) hs]
  show (keepFirst (documentsOf (e.files.map (readDocument read "/d/")))).1.map _ = _
  rw [Corpus.keepFirst_documents]
  decide +kernel

end Scan.Pool

end LinkAtlas
