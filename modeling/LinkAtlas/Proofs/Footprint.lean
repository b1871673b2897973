import LinkAtlas.Proofs.Containment
import LinkAtlas.Snapshot

namespace LinkAtlas

/-!
# What a resolution asks of the disk

References to code are settled by what is on disk, and all others by the documents of the corpus. The
one place where the two meet is a target that starts with a slash: it may be the absolute path of a
document, which counts only when that path exists. So the paths that an outcome can hang on are known
before anything is looked for.

* `Reference.footprint` — these paths, `Candidate.fromDisk?_of_absolute_mem` — no reading but one is
  absolute;
* `Resolver.verdict_congr` — a verdict is the same where every stage finds the same;
* `Resolver.verdict_eq_of_footprint` — resolvers that agree on a footprint come to one verdict, and
  for a reference to code they need not have the same documents;
* `Resolver.Concur`, `Resolver.resolve_noninterference` — what this says of each class of references;
* `Snapshot.assemble_eq_of_footprint` — and of a whole corpus.
-/

namespace Candidate

/-- The only absolute reading of a target is the one as an absolute path. -/
theorem fromDisk?_of_absolute_mem {d : Document} {raw p : String}
    (h : .absolute p ∈ ofTarget d raw) : fromDisk? (pathText raw) = some (.absolute p) := by
  have hdocument : fromDocument? d (pathText raw) ≠ some (.absolute p) := by
    unfold fromDocument?
    split
    · simp
    · simp
  have hroot : fromRoot? (pathText raw) ≠ some (.absolute p) := by simp [fromRoot?]
  unfold ofTarget at h
  simp only at h
  split at h
  · exact absurd h List.not_mem_nil
  · rcases List.mem_append.mp h with h | h
    · rcases List.mem_append.mp h with h | h
      · exact absurd (Option.mem_toList.mp h) hdocument
      · exact absurd (Option.mem_toList.mp (List.mem_filter.mp h).1) hroot
    · exact Option.mem_toList.mp h

/-- A target that starts with no slash is not read as an absolute path. -/
theorem fromDisk?_eq_none {target : List Char} (h : Path.isAbsolute target = false) :
    fromDisk? target = none := by
  rw [fromDisk?, h, if_neg Bool.false_ne_true]

/-- Any other is read as its normal form. -/
theorem exists_of_fromDisk? {target : List Char} {c : Candidate} (h : fromDisk? target = some c) :
    ∃ t, Path.normalizeChars? target = some t ∧ c = .absolute (String.ofList t) := by
  unfold fromDisk? at h
  split at h
  · obtain ⟨t, ht, rfl⟩ := Option.map_eq_some_iff.mp h
    exact ⟨t, ht, rfl⟩
  · exact nomatch h

end Candidate

/-- The paths on disk that the outcome for a reference of a document can hang on: for a reference to
    code the places of its readings, and for a form that may give a location its absolute reading. -/
def Reference.footprint (root : String) (d : Document) (r : Reference) : List String :=
  match r.kind with
  | .code =>
    match r.codeParts? with
    | none => []
    | some (path, _) => (Candidate.ofTarget d path).map (Candidate.onDisk root)
  | .plain | .wiki =>
    (Candidate.fromDisk? (Candidate.pathText r.rawTarget)).toList.map (Candidate.onDisk root)
  | .aliasedWiki => []

namespace Reference

variable {root : String} {d : Document} {r : Reference}

/-- A code reference hangs on all readings of its path. -/
theorem footprint_code (hkind : r.kind = .code) {path : String} {symbol : Option String}
    (hparts : r.codeParts? = some (path, symbol)) :
    r.footprint root d = (Candidate.ofTarget d path).map (Candidate.onDisk root) := by
  simp only [footprint, hkind, hparts]

/-- A reference that is looked for by location hangs on the reading from the disk, if there is one.
    -/
theorem footprint_location (hkind : r.kind = .plain ∨ r.kind = .wiki) : r.footprint root d =
    (Candidate.fromDisk? (Candidate.pathText r.rawTarget)).toList.map (Candidate.onDisk root) := by
  rcases hkind with hkind | hkind <;> simp only [footprint, hkind]

/-- A reference to a document hangs on the absolute reading of its target at most. -/
theorem fromDisk?_of_mem_footprint (hkind : r.kind ≠ .code) {p : String}
    (h : p ∈ r.footprint root d) :
    ∃ c, Candidate.fromDisk? (Candidate.pathText r.rawTarget) = some c ∧ c.onDisk root = p := by
  cases hk : r.kind with
  | plain =>
    rw [footprint_location (.inl hk)] at h
    simpa using h
  | wiki =>
    rw [footprint_location (.inr hk)] at h
    simpa using h
  | aliasedWiki => simp [footprint, hk] at h
  | code => exact absurd hk hkind

end Reference

/-! ### Resolvers that agree on a footprint -/

namespace Resolver

variable {v v' : Resolver} {d : Document} {r : Reference}

/-- Resolvers that run each stage of a kind alike come to one verdict. -/
theorem verdict_congr (h : ∀ s ∈ Stage.ofKind r.kind, v.run? d r s = v'.run? d r s) :
    v.verdict d r = v'.verdict d r := by
  rw [verdict, verdict, findSome?_congr h]

/-- Resolvers with the same documents find the same at every reading of a location, if they agree on
    the absolute one. -/
theorem documentAt?_eq_of_footprint (hcatalog : v.catalog = v'.catalog)
    (hkind : r.kind = .plain ∨ r.kind = .wiki)
    (hdisk : ∀ p ∈ r.footprint v.catalog.root d, v.isOnDisk p = v'.isOnDisk p) {c : Candidate}
    (hc : c ∈ Candidate.ofTarget d r.rawTarget) : v.documentAt? c = v'.documentAt? c := by
  cases c with
  | rooted p => rw [documentAt?, documentAt?, hcatalog]
  | absolute p =>
    have hp : p ∈ r.footprint v.catalog.root d := by
      rw [Reference.footprint_location hkind, Candidate.fromDisk?_of_absolute_mem hc]
      exact List.mem_singleton_self p
    rw [documentAt?, documentAt?, hcatalog, hdisk p hp]

/-- Resolvers that agree on the footprint of a reference come to one verdict about it. They must have
    the same documents only if the reference is one to a document. -/
theorem verdict_eq_of_footprint (hroot : v.catalog.root = v'.catalog.root)
    (hcatalog : r.kind ≠ .code → v.catalog = v'.catalog)
    (hdisk : ∀ p ∈ r.footprint v.catalog.root d, v.isOnDisk p = v'.isOnDisk p) :
    v.verdict d r = v'.verdict d r := by
  apply verdict_congr
  intro s hs
  -- The stages of a kind say whether the corpus or the disk is asked.
  have hkind : s.applies r.kind = true := (List.mem_filter.mp hs).2
  cases s with
  | code =>
    rw [run?, run?, codeVerdict_congr fun path symbol hparts c hc => ?_]
    rw [← hroot]
    apply hdisk
    rw [Reference.footprint_code (by simpa [Stage.applies] using hkind) hparts]
    exact List.mem_map_of_mem hc
  | id =>
    have hsame := hcatalog (by simpa [Stage.applies] using hkind)
    rw [run?, run?, hsame]
  | path =>
    have hlocation : r.kind = .plain ∨ r.kind = .wiki := by simpa [Stage.applies] using hkind
    have hsame := hcatalog (Reference.Kind.ne_code hlocation ⟨by decide, by decide⟩)
    rw [run?, run?,
      findSome?_congr fun _ => documentAt?_eq_of_footprint hsame hlocation hdisk]
  | exactName =>
    have hsame := hcatalog fun hcode => by simp [Stage.applies, hcode, Reference.Kind.isWiki] at hkind
    rw [run?, run?, nameVerdict?, nameVerdict?, hsame]
  | title =>
    have hsame := hcatalog (by simpa [Stage.applies] using hkind)
    rw [run?, run?, hsame]

/-- Two resolvers settle a reference alike, and report the same meanwhile. -/
def Concur (v v' : Resolver) (d : Document) (r : Reference) : Prop :=
  v.resolve d r = v'.resolve d r ∧ (v.verdict d r).events d r = (v'.verdict d r).events d r

/-- Resolvers with one verdict concur in all that follows from it. -/
theorem concur_of_verdict_eq (h : v.verdict d r = v'.verdict d r) : Concur v v' d r :=
  ⟨congrArg Verdict.outcome h, congrArg (Verdict.events d r) h⟩

/-- The disk and the corpus influence different references. What becomes of a reference to a document
    is the same whatever is on disk, unless its target starts with a slash, and then it hangs on one
    path at most, the normal form of the target. What becomes of a reference to code is the same for
    all corpora below one root, and hangs on the places of its readings only. -/
theorem resolve_noninterference (c c' : Catalog) (isOnDisk isOnDisk' : String → Bool)
    (d : Document) (r : Reference) :
    (r.kind ≠ .code → Path.isAbsolute (Candidate.pathText r.rawTarget) = false →
      Concur ⟨c, isOnDisk⟩ ⟨c, isOnDisk'⟩ d r) ∧
    (r.kind ≠ .code → Path.isAbsolute (Candidate.pathText r.rawTarget) = true →
      (∀ t, Path.normalizeChars? (Candidate.pathText r.rawTarget) = some t →
        isOnDisk (String.ofList t) = isOnDisk' (String.ofList t)) →
      Concur ⟨c, isOnDisk⟩ ⟨c, isOnDisk'⟩ d r) ∧
    (r.kind = .code → c.root = c'.root →
      (∀ path symbol, r.codeParts? = some (path, symbol) → ∀ reading ∈ Candidate.ofTarget d path,
        isOnDisk (reading.onDisk c.root) = isOnDisk' (reading.onDisk c.root)) →
      Concur ⟨c, isOnDisk⟩ ⟨c', isOnDisk'⟩ d r) := by
  refine ⟨?relative, ?absolute, ?code⟩
  case relative =>
    intro hkind hrelative
    refine concur_of_verdict_eq (verdict_eq_of_footprint rfl (fun _ => rfl) fun p hp => ?_)
    obtain ⟨reading, hreading, -⟩ := Reference.fromDisk?_of_mem_footprint hkind hp
    rw [Candidate.fromDisk?_eq_none hrelative] at hreading
    exact nomatch hreading
  case absolute =>
    intro hkind _ hagree
    refine concur_of_verdict_eq (verdict_eq_of_footprint rfl (fun _ => rfl) fun p hp => ?_)
    obtain ⟨reading, hreading, rfl⟩ := Reference.fromDisk?_of_mem_footprint hkind hp
    obtain ⟨t, ht, rfl⟩ := Candidate.exists_of_fromDisk? hreading
    exact hagree t ht
  case code =>
    intro hkind hroot hagree
    refine concur_of_verdict_eq
      (verdict_eq_of_footprint hroot (fun hne => absurd hkind hne) fun p hp => ?_)
    cases hparts : r.codeParts? with
    | none => simp [Reference.footprint, hkind, hparts] at hp
    | some parts =>
      rw [Reference.footprint_code hkind hparts] at hp
      obtain ⟨reading, hreading, rfl⟩ := List.mem_map.mp hp
      exact hagree parts.1 parts.2 hparts reading hreading

/-- A target below the root, when two disks have nothing in common; a path that goes down and up
    again and has a fragment, when they agree on the path that it comes to and hardly any other; and
    code that two corpora of one root refer to. A disk without that one path breaks the second
    reference, so it is not too many. -/
theorem resolve_noninterference_one_path :
    let a : Document := { (default : Document) with id := "a", path := "/srv/a.md" }
    let d : Document := { (default : Document) with relPath := "notes/d.md" }
    let toName := Reference.unsettled "d" " ../a.md" .wiki none 1 ""
    let toFile := Reference.unsettled "d" "/x/../srv/./a.md#top" .plain none 2 ""
    let toCode := Reference.unsettled "d" "code:../lib.rs::main" .code none 3 ""
    let c := Catalog.build "/srv" [a]
    let only (p : String) : Bool := p == "/srv/a.md"
    let others (p : String) : Bool := p != "/srv/lib.rs"
    Path.isAbsolute (Candidate.pathText toName.rawTarget) = false ∧
      Concur ⟨c, only⟩ ⟨c, fun p => ! only p⟩ d toName ∧
      Path.isAbsolute (Candidate.pathText toFile.rawTarget) = true ∧
      Concur ⟨c, only⟩ ⟨c, others⟩ d toFile ∧
      Concur ⟨c, only⟩ ⟨Catalog.empty "/srv", fun p => others p && p != "/srv/../lib.rs"⟩ d toCode ∧
      resolve ⟨c, only⟩ d toFile = .found .byPath "a" ∧
      resolve ⟨c, fun p => ! only p⟩ d toFile = .broken := by
  intro a d toName toFile toCode c only others
  have hrelative : Path.isAbsolute (Candidate.pathText toName.rawTarget) = false := by
    decide +kernel
  have habsolute : Path.isAbsolute (Candidate.pathText toFile.rawTarget) = true := by decide +kernel
  have hnormal : Path.normalizeChars? (Candidate.pathText toFile.rawTarget) =
      some "/srv/a.md".toList := by decide +kernel
  have hparts : toCode.codeParts? = some ("../lib.rs", some "main") := by decide +kernel
  have hreadings : Candidate.ofTarget d "../lib.rs" = [.rooted "lib.rs"] := by decide +kernel
  refine ⟨hrelative, ?_, habsolute, ?_, ?_, ?_, ?_⟩
  · exact (resolve_noninterference c c only _ d toName).1 (by decide) hrelative
  · refine (resolve_noninterference c c only others d toFile).2.1 (by decide) habsolute ?_
    intro t ht
    obtain rfl : "/srv/a.md".toList = t := Option.some.inj (hnormal.symm.trans ht)
    decide +kernel
  · refine (resolve_noninterference c _ only _ d toCode).2.2 rfl (Catalog.root_build "/srv" [a]) ?_
    intro path symbol h reading hreading
    obtain ⟨rfl, -⟩ := Prod.mk.inj (Option.some.inj (hparts.symm.trans h))
    rw [hreadings] at hreading
    obtain rfl := List.mem_singleton.mp hreading
    rw [Catalog.root_build]
    decide +kernel
  · simp only [c, resolve_eq_search _ (Catalog.finds_build "/srv" _)]
    decide +kernel
  · simp only [c, resolve_eq_search _ (Catalog.finds_build "/srv" _)]
    decide +kernel

end Resolver

/-! ### Corpora -/

namespace Snapshot

/-- Two disks that agree on the footprints of the references of a corpus give one snapshot, and the
    same is reported. -/
theorem assemble_eq_of_footprint {isOnDisk isOnDisk' : String → Bool} {root : String}
    {ds : List Document} (h : ∀ d ∈ ds, ∀ r ∈ d.references, ∀ p ∈ r.footprint root d,
      isOnDisk p = isOnDisk' p) (diagnostics : List Diagnostic) :
    assemble isOnDisk root ds diagnostics = assemble isOnDisk' root ds diagnostics ∧
      events isOnDisk root ds = events isOnDisk' root ds := by
  have hverdict : ∀ d ∈ ds, ∀ r ∈ d.references,
      (resolver isOnDisk root ds).verdict d r = (resolver isOnDisk' root ds).verdict d r := by
    intro d hd r hr
    refine Resolver.verdict_eq_of_footprint rfl (fun _ => rfl) fun p hp => ?_
    rw [resolver, Catalog.root_build] at hp
    exact h d hd r hr p hp
  have hresolved : (resolver isOnDisk root ds).resolveAll ds =
      (resolver isOnDisk' root ds).resolveAll ds := by
    refine List.map_congr_left fun d hd => ?_
    refine congrArg d.withReferences (List.map_congr_left fun r hr => ?_)
    rw [Resolver.resolve, Resolver.resolve, hverdict d hd r hr]
  have hevents : (resolver isOnDisk root ds).events ds = (resolver isOnDisk' root ds).events ds := by
    refine List.flatMap_congr fun d hd => List.flatMap_congr fun r hr => ?_
    rw [hverdict d hd r hr]
  constructor
  · rw [assemble, assemble, hresolved]
  · rw [events, events, hresolved, hevents]

end Snapshot

end LinkAtlas
