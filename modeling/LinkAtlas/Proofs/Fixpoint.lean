import LinkAtlas.Proofs.Summary

namespace LinkAtlas

/-!
# A snapshot assembled again is the same snapshot

Nothing that a resolution settles is read when references are resolved, and documents that stand in
the order of ids keep the ids that they kept before. So a snapshot is what its own documents give.

* `Reference.reset`, `Document.reset` — a reference, and all references of a document, without what
  a resolution settles;
* `Search.outcome_reset` — a search of documents finds the same whether or not they were settled;
* `Corpus.kept_map`, `Snapshot.kept_byId` — who keeps an id depends neither on what references say
  nor on where documents with other ids stand;
* `Snapshot.assemble_reset`, `Snapshot.assemble_byId` — hence the snapshot of a corpus is that of the
  corpus reset, and that of the corpus in the order of ids;
* `Snapshot.map_reset_documents` — and these two are all that assembling does to a document;
* `Snapshot.assemble_assemble` — so assembling a second time changes nothing.
-/

/-! ### Taking outcomes back -/

/-- The reference without what a resolution settles. -/
def Reference.reset (r : Reference) : Reference :=
  unsettled r.source r.rawTarget r.kind r.label r.line r.context

/-- The document without what a resolution settles of its references. -/
def Document.reset (d : Document) : Document := d.withReferences (d.references.map Reference.reset)

/-- An outcome is written over whatever a former resolution has left. -/
@[simp] theorem Reference.settle_reset (r : Reference) (o : Outcome) :
    r.reset.settle o = r.settle o := rfl

namespace Document

variable (d : Document)

@[simp] theorem id_reset : d.reset.id = d.id := rfl

@[simp] theorem relPath_reset : d.reset.relPath = d.relPath := rfl

@[simp] theorem liesAt_reset (path : String) : d.reset.liesAt path = d.liesAt path := rfl

@[simp] theorem isNamed_reset (name : String) : d.reset.isNamed name = d.isNamed name := rfl

@[simp] theorem isSpelled_reset (key : String) : d.reset.isSpelled key = d.isSpelled key := rfl

end Document

/-- Resolving a document changes nothing but what a resolution settles. -/
@[simp] theorem Resolver.reset_resolveDocument (v : Resolver) (d : Document) :
    (v.resolveDocument d).reset = d.reset := by
  show d.withReferences ((d.references.map fun r => r.settle (v.resolve d r)).map .reset) = _
  -- An outcome is written to fields that the reset clears.
  rw [List.map_map]
  rfl

/-! ### Searches -/

namespace Search

variable (ks : List Document)

/-- A question that a resolution does not change has the same answers before and after it. -/
theorem ids_reset {question : Document → Bool} (h : ∀ k, question k.reset = question k) :
    ids (ks.map Document.reset) question = ids ks question := by
  simp [ids, List.filter_map, Function.comp_def, h]

/-- So it has the same first answer. -/
theorem lowest?_reset {question : Document → Bool} (h : ∀ k, question k.reset = question k) :
    lowest? (ks.map Document.reset) question = lowest? ks question := by
  rw [lowest?, ids_reset ks h, lowest?]

/-- The documents at a path are the same before and after a resolution. -/
theorem atReading?_reset (isOnDisk : String → Bool) :
    atReading? isOnDisk (ks.map Document.reset) = atReading? isOnDisk ks := by
  have hlowest (path : String) :
      lowest? (ks.map Document.reset) (·.liesAt path) = lowest? ks (·.liesAt path) :=
    lowest?_reset ks fun k => k.liesAt_reset path
  funext reading
  cases reading <;> simp only [atReading?, hlowest]

/-- A search reads nothing that a resolution settles, be it of the documents that are searched, of
    the document with the reference, or of the reference. -/
theorem outcome_reset (isOnDisk : String → Bool) (root : String) (d : Document) (r : Reference) :
    outcome isOnDisk root (ks.map Document.reset) d.reset r.reset =
      outcome isOnDisk root ks d r := by
  have hany : (ks.map Document.reset).any (·.id == r.rawTarget) =
      ks.any (·.id == r.rawTarget) := by
    simp [Function.comp_def]
  have hnames : ids (ks.map Document.reset) (·.isNamed r.rawTarget) =
      ids ks (·.isNamed r.rawTarget) := ids_reset ks fun k => k.isNamed_reset _
  have hspelled : lowest? (ks.map Document.reset) (·.isSpelled (Text.spellingKey r.rawTarget)) =
      lowest? ks (·.isSpelled (Text.spellingKey r.rawTarget)) :=
    lowest?_reset ks fun k => k.isSpelled_reset _
  -- Kind and target of the reference and the directory of its document are the same by definition.
  show outcome isOnDisk root (ks.map Document.reset) d r = _
  simp only [outcome, documentOutcome, hany, hnames, hspelled, atReading?_reset]

end Search

/-! ### Who keeps an id -/

namespace Corpus

section Map

variable {f : Document → Document} (hid : ∀ d, (f d).id = d.id)
  (hpath : ∀ d, (f d).relPath = d.relPath) (ds : List Document)
include hid hpath

/-- Changes that leave ids and locations alone change who holds an id along with everyone else. -/
theorem holder?_map (id : String) : holder? (ds.map f) id = (holder? ds id).map f := by
  simp [holder?, List.filter_map, List.find?_map, Function.comp_def, hid, hpath]

/-- Changes that leave ids and locations alone leave every id with its document. -/
theorem kept_map : kept (ds.map f) = (kept ds).map f := by
  simp only [kept, List.map_map, Function.comp_def, hid, List.map_filterMap,
    holder?_map hid hpath]

end Map

/-- The documents that keep their ids are told by the holders. -/
theorem kept_congr {ds ds' : List Document} (h : ∀ id, holder? ds id = holder? ds' id) :
    kept ds = kept ds' := by
  have hids : Ids.ofList (ds.map (·.id)) = Ids.ofList (ds'.map (·.id)) := by
    apply Ids.eq_of_mem_iff (Ids.ascending_ofList _) (Ids.ascending_ofList _)
    intro id
    rw [Ids.mem_ofList, Ids.mem_ofList, ← isSome_holder?_iff, ← isSome_holder?_iff, h]
  rw [kept, kept, hids]
  exact List.filterMap_congr fun id _ => h id

end Corpus

/-! ### The order of ids -/

namespace Snapshot

/-- An order by ids is kept when it is made once more. -/
theorem byId_byId (ds : List Document) : byId (byId ds) = byId ds :=
  List.mergeSort_of_pairwise (pairwise_byId ds)

/-- Changes that leave ids alone leave the order. -/
theorem map_byId {f : Document → Document} (hid : ∀ d, (f d).id = d.id) (ds : List Document) :
    (byId ds).map f = byId (ds.map f) :=
  List.map_mergeSort fun a _ b _ => by rw [hid, hid]

/-- Documents with one id keep the order in which they were given. -/
theorem filter_byId (ds : List Document) (id : String) :
    (byId ds).filter (·.id == id) = ds.filter (·.id == id) := by
  refine Corpus.filter_mergeSort idLE_trans idLE_total ds _ fun a ha b hb => ?_
  have ha : a.id = id := by simpa using (List.mem_filter.mp ha).2
  have hb : b.id = id := by simpa using (List.mem_filter.mp hb).2
  simp [ha, hb]

/-- A corpus in the order of ids keeps the documents that it kept before, though a catalog arranges it
    by ids and locations. -/
theorem kept_byId (ds : List Document) : Corpus.kept (byId ds) = Corpus.kept ds :=
  Corpus.kept_congr fun id => by simp only [Corpus.holder?, filter_byId]

/-! ### Assembling again -/

section Assemble

variable (isOnDisk : String → Bool) (root : String) {ds ds' : List Document}
  (diagnostics : List Diagnostic)

/-- A snapshot is told by its resolved documents. -/
theorem assemble_congr (h : byId ((resolver isOnDisk root ds).resolveAll ds) =
    byId ((resolver isOnDisk root ds').resolveAll ds')) :
    assemble isOnDisk root ds diagnostics = assemble isOnDisk root ds' diagnostics := by
  simp only [assemble, h]

/-- The resolver of a snapshot searches the documents that keep their ids. -/
theorem resolve_resolver (d : Document) (r : Reference) :
    (resolver isOnDisk root ds).resolve d r =
      Search.outcome isOnDisk root (Corpus.kept ds) d r := by
  rw [resolver, Resolver.resolve_eq_search isOnDisk (Catalog.finds_build root ds),
    Catalog.root_build]

/-- The snapshot does not depend on whether references were settled before. -/
theorem assemble_reset : assemble isOnDisk root (ds.map Document.reset) diagnostics =
    assemble isOnDisk root ds diagnostics := by
  -- The outcome of a reference does not depend on how references were settled before.
  have hresolve (d : Document) (r : Reference) :
      (resolver isOnDisk root (ds.map Document.reset)).resolve d.reset r.reset =
        (resolver isOnDisk root ds).resolve d r := by
    rw [resolve_resolver, resolve_resolver, Corpus.kept_map Document.id_reset
      Document.relPath_reset, Search.outcome_reset]
  have hdocument (d : Document) :
      (resolver isOnDisk root (ds.map Document.reset)).resolveDocument d.reset =
        (resolver isOnDisk root ds).resolveDocument d := by
    have hreferences : d.reset.references = d.references.map Reference.reset := rfl
    rw [Resolver.resolveDocument, Resolver.resolveDocument, hreferences, List.map_map]
    simp only [Function.comp_def, hresolve, Reference.settle_reset]
    rfl
  refine assemble_congr isOnDisk root diagnostics (congrArg byId ?_)
  rw [Resolver.resolveAll, List.map_map]
  exact List.map_congr_left fun d _ => hdocument d

/-- The snapshot does not depend on the order in which documents with different ids are given. -/
theorem assemble_byId : assemble isOnDisk root (byId ds) diagnostics =
    assemble isOnDisk root ds diagnostics := by
  have hdocument : (resolver isOnDisk root (byId ds)).resolveDocument =
      (resolver isOnDisk root ds).resolveDocument := by
    funext d
    simp only [Resolver.resolveDocument, resolve_resolver, kept_byId]
  have hid (d : Document) : ((resolver isOnDisk root ds).resolveDocument d).id = d.id := rfl
  refine assemble_congr isOnDisk root diagnostics ?_
  rw [Resolver.resolveAll, Resolver.resolveAll, hdocument, ← map_byId hid, ← map_byId hid,
    byId_byId]

/-- But for what a resolution settles, the documents of a snapshot are those that it was assembled
    from, in the order of ids. -/
theorem map_reset_documents (ds : List Document) :
    (assemble isOnDisk root ds diagnostics).documents.map Document.reset =
      byId (ds.map Document.reset) := by
  show (byId ((resolver isOnDisk root ds).resolveAll ds)).map Document.reset = _
  rw [map_byId Document.id_reset, Resolver.resolveAll, List.map_map]
  simp [Function.comp_def]

end Assemble

/-- Assembling a snapshot from its own documents gives the snapshot. They are all documents of the
    corpus, in the order of ids and with every reference settled. -/
theorem assemble_assemble (isOnDisk : String → Bool) (root : String) (ds : List Document)
    (diagnostics : List Diagnostic) :
    let s := assemble isOnDisk root ds diagnostics
    assemble isOnDisk root s.documents s.diagnostics = s ∧
      s.documents.map Document.reset = byId (ds.map Document.reset) ∧
      ∀ r ∈ Health.references s.documents, r.isSettled = true := by
  intro s
  refine ⟨?_, map_reset_documents isOnDisk root diagnostics ds, fun r hr => ?_⟩
  · -- What was settled is not read, and what was put in order was the same corpus before.
    calc assemble isOnDisk root s.documents diagnostics
      _ = assemble isOnDisk root (s.documents.map Document.reset) diagnostics :=
          (assemble_reset isOnDisk root diagnostics).symm
      _ = assemble isOnDisk root (byId (ds.map Document.reset)) diagnostics := by
          rw [map_reset_documents]
      _ = assemble isOnDisk root (ds.map Document.reset) diagnostics :=
          assemble_byId isOnDisk root diagnostics
      _ = s := assemble_reset isOnDisk root diagnostics
  · obtain ⟨e, -, r, -, rfl⟩ := mem_references_resolveAll.mp hr
    rfl

end Snapshot

end LinkAtlas
