import LinkAtlas.Proofs.Normalization
import LinkAtlas.Proofs.PathKeys

namespace LinkAtlas

/-!
# Readings stay below the content root

A document that is located below the content root cannot refer to what lies outside of it, unless
its target starts with a slash. Readings from the document and from the root are normal, so they
have no component left that goes up, and an absolute reading is made of an absolute target only.

* `Path.StaysIn` — a path that goes from a directory downwards only;
* `Path.staysIn_joined` — a tidy path that is read from a directory stays in it;
* `Path.isTidy_of_normalizeChars?`, `Path.isTidy_of_resolveChars?` — a normal form is tidy if nothing
  in it starts at the root;
* `Candidate.IsContained`, `Candidate.isContained_of_mem_ofTarget` — what every reading is;
* `Resolver.AgreeBelowRoot`, `Resolver.verdict_eq_of_agree` — resolvers that cannot be told apart
  below the root come to one verdict;
* `Resolver.ofTarget_contained` — all this together.
-/

namespace Path

/-! ### Components behind a directory -/

/-- Whether a path is a directory, or goes down from it by names only. -/
def StaysIn (dir path : String) : Prop :=
  ∃ names : List (List Char), (∀ name ∈ names, IsName name) ∧
    parts path = parts dir ++ names.map Part.name

/-- A name stands for itself as a component. -/
theorem innerPart?_of_isName {part : List Char} (h : IsName part) :
    innerPart? part = some (.name part) := by
  obtain ⟨hempty, hdot, hup⟩ := h
  simp [innerPart?, hempty, hdot, hup]

/-- A tidy path has names for components. -/
theorem IsTidy.exists_names {s : List Char} (h : IsTidy s) :
    ∃ names : List (List Char), (∀ name ∈ names, IsName name) ∧
      (splitSlash s).filterMap innerPart? = names.map Part.name := by
  rcases h with rfl | hplain
  · exact ⟨[], by simp, rfl⟩
  · refine ⟨splitSlash s, hplain, ?_⟩
    rw [← List.filterMap_eq_map']
    apply List.filterMap_congr
    intro part hpart
    exact innerPart?_of_isName (hplain part hpart)

/-- A tidy path does not start with a slash. -/
theorem IsTidy.isAbsolute {s : List Char} (h : IsTidy s) : Path.isAbsolute s = false := by
  rcases h with rfl | hplain
  · rfl
  · exact hplain.isAbsolute

/-- A tidy path on its own has the components that stand between its slashes. -/
theorem IsTidy.partsOf_eq {s : List Char} (h : IsTidy s) :
    partsOf s = (splitSlash s).filterMap innerPart? := by
  rcases h with rfl | hplain
  · rfl
  · obtain ⟨first, others, hsplit⟩ := List.exists_cons_of_ne_nil (splitSlash_ne_nil s)
    obtain ⟨hempty, hdot, -⟩ := hplain first (hsplit ▸ List.mem_cons_self)
    rw [partsOf_of_splitSlash hsplit hempty, if_neg hdot, hsplit]

/-- A tidy path that is read from a directory adds names only, so it stays in the directory. -/
theorem staysIn_joined (dir : String) {path : String} (h : IsTidy path.toList) :
    StaysIn dir (joined dir path) := by
  obtain ⟨names, hnames, hparts⟩ := IsTidy.exists_names h
  refine ⟨names, hnames, ?_⟩
  rw [parts, joined, String.toList_ofList, ← hparts]
  by_cases hdir : dir.toList = []
  · -- Read from nowhere, the path is on its own.
    rw [joinedChars, parts, hdir, List.isEmpty_nil, Bool.or_true, if_pos rfl, h.partsOf_eq]
    rfl
  · rw [partsOf_joinedChars hdir (IsTidy.isAbsolute h)]
    rfl

/-! ### Paths that do not start at the root -/

/-- The folder of a path is a prefix of it. -/
theorem beforeLastSlash_isPrefix (s : List Char) : Document.beforeLastSlash s <+: s := by
  have hsuffix : (s.reverse.dropWhile (· != '/')).drop 1 <:+ s.reverse :=
    (List.drop_suffix 1 _).trans (List.dropWhile_suffix _)
  rw [Document.beforeLastSlash, ← List.reverse_suffix, List.reverse_reverse]
  exact hsuffix

/-- A prefix of a path that is not absolute is not absolute either. -/
theorem isAbsolute_of_isPrefix {s t : List Char} (h : s <+: t) (ht : isAbsolute t = false) :
    isAbsolute s = false := by
  cases s with
  | nil => rfl
  | cons c s =>
    obtain ⟨rest, rfl⟩ := h
    exact ht

/-- Without its leading slashes no path is absolute. -/
theorem isAbsolute_dropWhile_slash (s : List Char) :
    isAbsolute (s.dropWhile (· == '/')) = false := by
  induction s with
  | nil => rfl
  | cons c s ih =>
    by_cases hc : c = '/'
    · subst hc
      exact ih
    · have hstop : (c :: s).dropWhile (· == '/') = c :: s := by simp [hc]
      rw [hstop]
      simpa [isAbsolute] using hc

/-- A path that is read from its document is not absolute. -/
theorem not_isAbsolute_of_isDocumentRelative {s : List Char} (h : isDocumentRelative s = true) :
    isAbsolute s = false := by
  cases s with
  | nil => rfl
  | cons c s =>
    have hc : c = '.' := by
      simp only [isDocumentRelative, List.isPrefixOf_cons_cons, Bool.or_eq_true, Bool.and_eq_true,
        beq_iff_eq] at h
      exact h.elim (·.1.symm) (·.1.symm)
    subst hc
    rfl

/-- What is normal and does not start at the root is tidy. -/
theorem IsNormal.isTidy {s : List Char} (h : IsNormal s) (hs : isAbsolute s = false) :
    IsTidy s := by
  rwa [IsNormal, hs, if_neg Bool.false_ne_true] at h

/-- The normal form of a path that is not absolute is tidy. -/
theorem isTidy_of_normalizeChars? {s t : List Char} (hs : isAbsolute s = false)
    (h : normalizeChars? s = some t) : IsTidy t := by
  obtain ⟨habsolute, hnormal, -⟩ := isNormal_of_normalizeChars? h
  exact hnormal.isTidy (habsolute.trans hs)

/-- Reading one path from another, neither of them absolute, comes to a tidy path. -/
theorem isTidy_of_resolveChars? {dir rel t : List Char} (hdir : isAbsolute dir = false)
    (hrel : isAbsolute rel = false) (h : resolveChars? dir rel = some t) : IsTidy t := by
  cases dir with
  | nil =>
    rw [resolveChars?, List.isEmpty_nil, Bool.or_true, if_pos rfl] at h
    exact isTidy_of_normalizeChars? hrel h
  | cons c dir =>
    have habsolute : isAbsolute (c :: dir ++ '/' :: rel) = false := hdir
    rw [resolveChars?, hrel, List.isEmpty_cons, Bool.or_self, if_neg Bool.false_ne_true] at h
    exact isTidy_of_normalizeChars? habsolute h

end Path

/-! ### Readings of a target -/

namespace Candidate

/-- What a reading of a target is: a tidy path below the content root, or such a path behind a slash
    if the target starts with one. -/
def IsContained (target : List Char) : Candidate → Prop
  | rooted p => Path.IsTidy p.toList
  | absolute p =>
    Path.isAbsolute target = true ∧ ∃ names, Path.IsTidy names ∧ p.toList = '/' :: names

section Readings

variable {d : Document} {target : List Char} {c : Candidate}

/-- The reading from the folder of a document stays below the root. -/
theorem isContained_of_fromDocument? (hd : Path.isAbsolute d.relPath.toList = false)
    (h : fromDocument? d target = some c) : c.IsContained target := by
  unfold fromDocument? at h
  split at h
  · rename_i hrelative
    obtain ⟨t, ht, rfl⟩ := Option.map_eq_some_iff.mp h
    show Path.IsTidy (String.ofList t).toList
    rw [String.toList_ofList]
    apply Path.isTidy_of_resolveChars? _ (Path.not_isAbsolute_of_isDocumentRelative hrelative) ht
    rw [Document.directory, String.toList_ofList]
    exact Path.isAbsolute_of_isPrefix (Path.beforeLastSlash_isPrefix _) hd
  · simp at h

/-- The reading from the root stays below the root. -/
theorem isContained_of_fromRoot? (h : fromRoot? target = some c) : c.IsContained target := by
  obtain ⟨t, ht, rfl⟩ := Option.map_eq_some_iff.mp h
  show Path.IsTidy (String.ofList t).toList
  rw [String.toList_ofList]
  exact Path.isTidy_of_normalizeChars? (Path.isAbsolute_dropWhile_slash target)
    (Option.filter_eq_some_iff.mp ht).1

/-- Only a target with a leading slash is read from the disk. -/
theorem isContained_of_fromDisk? (h : fromDisk? target = some c) : c.IsContained target := by
  unfold fromDisk? at h
  split at h
  · rename_i hslash
    obtain ⟨t, ht, rfl⟩ := Option.map_eq_some_iff.mp h
    obtain ⟨habsolute, hnormal, -⟩ := Path.isNormal_of_normalizeChars? ht
    rw [hslash] at habsolute
    obtain ⟨names, rfl⟩ := Path.exists_eq_slash_cons habsolute
    refine ⟨hslash, names, ?_, String.toList_ofList⟩
    rwa [Path.IsNormal, habsolute, if_pos rfl] at hnormal
  · simp at h

end Readings

/-- Every reading of a target is contained. -/
theorem isContained_of_mem_ofTarget {d : Document}
    (hd : Path.isAbsolute d.relPath.toList = false) {raw : String} {c : Candidate}
    (h : c ∈ ofTarget d raw) : c.IsContained (pathText raw) := by
  unfold ofTarget at h
  simp only at h
  split at h
  · exact nomatch h
  · rcases List.mem_append.mp h with h | h
    · rcases List.mem_append.mp h with h | h
      · exact isContained_of_fromDocument? hd (Option.mem_toList.mp h)
      · exact isContained_of_fromRoot? (Option.mem_toList.mp (List.mem_filter.mp h).1)
    · exact isContained_of_fromDisk? (Option.mem_toList.mp h)

/-- A target that does not start with a slash has readings below the content root only. -/
theorem exists_rooted_of_mem_ofTarget {d : Document}
    (hd : Path.isAbsolute d.relPath.toList = false) {raw : String}
    (hraw : Path.isAbsolute (pathText raw) = false) {c : Candidate} (h : c ∈ ofTarget d raw) :
    ∃ p, c = rooted p ∧ Path.IsTidy p.toList := by
  have hcontained := isContained_of_mem_ofTarget hd h
  cases c with
  | rooted p => exact ⟨p, rfl, hcontained⟩
  | absolute p => exact absurd hcontained.1 (by simp [hraw])

end Candidate

/-! ### Resolvers that agree below the root -/

/-- The text of a reference that is read as a path: of a reference to code the path behind the
    mark. -/
def Reference.location (r : Reference) : String := (r.codeParts?.map (·.1)).getD r.rawTarget

namespace Resolver

/-- Two resolvers that cannot be told apart below their common root: they have the same documents by
    id, name and title and at all locations below the root, and the same paths there exist. -/
structure AgreeBelowRoot (v v' : Resolver) : Prop where
  root : v.catalog.root = v'.catalog.root
  byId : ∀ id, v.catalog.findById? id = v'.catalog.findById? id
  byPath : ∀ path, Path.isAbsolute path.toList = false →
    v.catalog.findByPath? path = v'.catalog.findByPath? path
  byAlias : ∀ name, v.catalog.findByAlias name = v'.catalog.findByAlias name
  byTitle : ∀ title, v.catalog.findByTitle? title = v'.catalog.findByTitle? title
  isOnDisk : ∀ path, Path.StaysIn v.catalog.root path → v.isOnDisk path = v'.isOnDisk path

/-- What is found first is the same where the same is found at each place. -/
theorem findSome?_congr {α β : Type} {f g : α → Option β} {as : List α}
    (h : ∀ a ∈ as, f a = g a) : as.findSome? f = as.findSome? g := by
  induction as with
  | nil => rfl
  | cons a as ih =>
    obtain ⟨hfirst, hothers⟩ := List.forall_mem_cons.mp h
    rw [List.findSome?_cons, List.findSome?_cons, hfirst, ih hothers]

/-- What a reference to code leads to hangs on what exists at the readings of its path. -/
theorem codeVerdict_congr {v v' : Resolver} {d : Document} {r : Reference}
    (h : ∀ path symbol, r.codeParts? = some (path, symbol) → ∀ c ∈ Candidate.ofTarget d path,
      v.isOnDisk (c.onDisk v.catalog.root) = v'.isOnDisk (c.onDisk v'.catalog.root)) :
    v.codeVerdict d r = v'.codeVerdict d r := by
  unfold codeVerdict
  cases hparts : r.codeParts? with
  | none => rfl
  | some parts =>
    -- The readings are only asked whether one of them is on disk, and where is not recorded.
    have hany : ((Candidate.ofTarget d parts.1).any fun c =>
          v.isOnDisk (c.onDisk v.catalog.root)) =
        (Candidate.ofTarget d parts.1).any fun c => v'.isOnDisk (c.onDisk v'.catalog.root) := by
      rw [Bool.eq_iff_iff, List.any_eq_true, List.any_eq_true]
      refine exists_congr fun c => and_congr_right fun hc => ?_
      rw [h parts.1 parts.2 hparts c hc]
    simp only [hany]

section Agree

variable {v v' : Resolver} (h : AgreeBelowRoot v v') {d : Document}
  (hd : Path.isAbsolute d.relPath.toList = false)
include h hd

/-- Resolvers that agree below the root find the same document at each reading of a target that is
    not absolute. -/
theorem documentAt?_eq_of_agree {raw : String}
    (hraw : Path.isAbsolute (Candidate.pathText raw) = false) {c : Candidate}
    (hc : c ∈ Candidate.ofTarget d raw) : v.documentAt? c = v'.documentAt? c := by
  obtain ⟨p, rfl, hp⟩ := Candidate.exists_rooted_of_mem_ofTarget hd hraw hc
  exact h.byPath p hp.isAbsolute

/-- They find the same readings on disk. -/
theorem isOnDisk_eq_of_agree {raw : String}
    (hraw : Path.isAbsolute (Candidate.pathText raw) = false) {c : Candidate}
    (hc : c ∈ Candidate.ofTarget d raw) :
    v.isOnDisk (c.onDisk v.catalog.root) = v'.isOnDisk (c.onDisk v'.catalog.root) := by
  obtain ⟨p, rfl, hp⟩ := Candidate.exists_rooted_of_mem_ofTarget hd hraw hc
  rw [← h.root]
  exact h.isOnDisk _ (Path.staysIn_joined _ hp)

/-- So they come to one verdict about source code. -/
theorem codeVerdict_eq_of_agree {r : Reference}
    (hr : Path.isAbsolute (Candidate.pathText r.location) = false) :
    v.codeVerdict d r = v'.codeVerdict d r := by
  refine codeVerdict_congr fun path symbol hparts c hc => ?_
  have hlocation : r.location = path := by rw [Reference.location, hparts]; rfl
  exact isOnDisk_eq_of_agree h hd (hlocation ▸ hr) hc

/-- Every stage that a reference has finds the same. -/
theorem run?_eq_of_agree {r : Reference}
    (hr : Path.isAbsolute (Candidate.pathText r.location) = false) {s : Stage}
    (hs : s ∈ Stage.ofKind r.kind) : v.run? d r s = v'.run? d r s := by
  cases s with
  | code => rw [run?, run?, codeVerdict_eq_of_agree h hd hr]
  | id => rw [run?, run?, h.byId]
  | path =>
    -- This stage is not for references to code, so their target is read as it stands.
    have hkind : r.kind ≠ .code := by
      intro hkind
      rw [hkind] at hs
      exact absurd hs (by decide)
    have hlocation : r.location = r.rawTarget := by
      simp [Reference.location, Reference.codeParts?, hkind]
    rw [hlocation] at hr
    rw [run?, run?, findSome?_congr fun _ => documentAt?_eq_of_agree h hd hr]
  | exactName => rw [run?, run?, nameVerdict?, nameVerdict?, h.byAlias]
  | title => rw [run?, run?, h.byTitle]

/-- Resolvers that agree below the root come to one verdict about a reference whose location does
    not start with a slash. -/
theorem verdict_eq_of_agree {r : Reference}
    (hr : Path.isAbsolute (Candidate.pathText r.location) = false) :
    v.verdict d r = v'.verdict d r := by
  rw [verdict, verdict, findSome?_congr fun _ => run?_eq_of_agree h hd hr]

end Agree

/-- In a document that is located relative to the content root, a reading from the document or from
    the root has nothing left that goes up, so it stays in the root, wherever that is. An absolute
    reading is made of a target that starts with a slash only. When the target does not start with
    one, resolvers that agree below the root therefore come to one verdict: neither what exists
    elsewhere nor what is located at an absolute path plays a part. -/
theorem ofTarget_contained (d : Document) (hd : Path.isAbsolute d.relPath.toList = false)
    (raw : String) :
    (∀ p, .rooted p ∈ Candidate.ofTarget d raw →
      Path.IsTidy p.toList ∧ ∀ root, Path.StaysIn root (Candidate.onDisk root (.rooted p))) ∧
    (∀ p, .absolute p ∈ Candidate.ofTarget d raw →
      Path.isAbsolute (Candidate.pathText raw) = true ∧
        ∃ names, Path.IsTidy names ∧ p.toList = '/' :: names) ∧
    (Path.isAbsolute (Candidate.pathText raw) = false →
      ∀ v v' : Resolver, v.AgreeBelowRoot v' → ∀ r : Reference, r.location = raw →
        v.verdict d r = v'.verdict d r) := by
  refine ⟨?rooted, ?absolute, ?verdict⟩
  case rooted =>
    intro p hp
    have htidy : Path.IsTidy p.toList := Candidate.isContained_of_mem_ofTarget hd hp
    exact ⟨htidy, fun root => Path.staysIn_joined root htidy⟩
  case absolute =>
    intro p hp
    exact Candidate.isContained_of_mem_ofTarget hd hp
  -- Only what is asked of the disk below the root is seen, since no reading leaves it.
  case verdict =>
    rintro hraw v v' hagree r rfl
    exact verdict_eq_of_agree hagree hd hraw

/-- A directory with a step up in it, and a target that climbs as far as it can: of two resolvers
    that differ in everything outside of the root, neither finds anything. -/
theorem ofTarget_contained_climbing :
    let d : Document := { (default : Document) with relPath := "docs/../notes/a.md" }
    let r := Reference.unsettled "a" "code: ./x/../..//etc/./passwd::main" .code none 1 ""
    let v : Resolver := ⟨Catalog.empty "/srv/.", fun _ => false⟩
    let v' : Resolver :=
      ⟨Catalog.empty "/srv/.", fun p => ! (Path.parts "/srv/.").isPrefixOf (Path.parts p)⟩
    Candidate.ofTarget d r.location = [.rooted "etc/passwd"] ∧
      Path.StaysIn "/srv/." (Candidate.onDisk "/srv/." (.rooted "etc/passwd")) ∧
        v'.isOnDisk "/etc/passwd" = true ∧ v.verdict d r = v'.verdict d r := by
  intro d r v v'
  have hreadings : Candidate.ofTarget d r.location = [.rooted "etc/passwd"] := by decide +kernel
  have hraw : Path.isAbsolute (Candidate.pathText r.location) = false := by decide +kernel
  have hagree : v.AgreeBelowRoot v' := by
    -- The second disk denies all that is below the root and affirms all else.
    refine ⟨rfl, fun _ => rfl, fun _ _ => rfl, fun _ => rfl, fun _ => rfl, ?_⟩
    rintro path ⟨names, -, hparts⟩
    have hbelow : (Path.parts "/srv/.").isPrefixOf (Path.parts path) = true := by
      rw [List.isPrefixOf_iff_prefix]
      exact ⟨names.map Path.Part.name, hparts.symm⟩
    show false = ! (Path.parts "/srv/.").isPrefixOf (Path.parts path)
    rw [hbelow]
    rfl
  obtain ⟨hrooted, -, hverdict⟩ := ofTarget_contained d (by decide +kernel) r.location
  have hmem : .rooted "etc/passwd" ∈ Candidate.ofTarget d r.location := by simp [hreadings]
  exact ⟨hreadings, (hrooted _ hmem).2 "/srv/.", by decide +kernel,
    hverdict hraw v v' hagree r rfl⟩

end Resolver

end LinkAtlas
