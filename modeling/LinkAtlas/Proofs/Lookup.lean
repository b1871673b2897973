import LinkAtlas.Proofs.Catalog
import Mathlib.Data.List.Dedup

namespace LinkAtlas

/-!
# The look-ups of a catalog, said by its documents

What a catalog answers can be said of the documents that keep their ids, one text after the other,
and of no others.

* `Corpus.eq_of_ascending`, `Corpus.kept_of_ascending` — documents whose ids ascend are told apart
  by their members, and all of them keep their ids;
* `Corpus.IsLowest`, `Corpus.isLowest_find?` — the lowest id of a document that meets a condition;
* `Catalog.Lookups` — what each look-up answers, as a condition on the documents of a list;
* `Catalog.Finds.ascending_order` — the ids of a catalog ascend;
* `Catalog.Finds.documents_eq` — so its documents, in their order, are those that it finds;
* `Catalog.Finds.lookups`, `Catalog.Finds.sameAnswers` — hence all look-ups are those of the list,
  and catalogs that find the same documents answer alike;
* `Catalog.lookups_build` — the look-ups of the catalog of a corpus.
-/

namespace Corpus

/-! ### Documents whose ids ascend -/

section Ascending

variable {ks : List Document} (h : (ks.map (·.id)).Pairwise (· < ·))
include h

/-- If ids ascend, a search for one finds the document with it. -/
theorem find?_eq_some_iff {id : String} {k : Document} :
    ks.find? (·.id == id) = some k ↔ k ∈ ks ∧ k.id = id := by
  constructor
  · intro hfind
    exact ⟨List.mem_of_find?_eq_some hfind, by simpa using List.find?_some hfind⟩
  · rintro ⟨hk, rfl⟩
    exact find?_of_ascending h hk

/-- Two lists with the same documents are equal when the ids of both ascend. -/
theorem eq_of_ascending {ks' : List Document} (h' : (ks'.map (·.id)).Pairwise (· < ·))
    (hm : ∀ k, k ∈ ks ↔ k ∈ ks') : ks = ks' := by
  have hks : ks.Pairwise fun a b => a.id < b.id := List.pairwise_map.mp h
  have hks' : ks'.Pairwise fun a b => a.id < b.id := List.pairwise_map.mp h'
  have hne {a b : Document} (hab : a.id < b.id) : a ≠ b := by
    rintro rfl
    exact String.lt_irrefl _ hab
  have hperm : ks.Perm ks' := (List.perm_ext_iff_of_nodup (hks.imp hne) (hks'.imp hne)).mpr hm
  refine hperm.eq_of_pairwise ?_ hks hks'
  intro a b _ _ hab hba
  exact absurd (String.lt_trans hab hba) (String.lt_irrefl _)

/-- Documents whose ids ascend are arranged already. -/
theorem arranged_of_ascending : Catalog.arranged ks = ks := by
  refine List.mergeSort_of_pairwise ((List.pairwise_map.mp h).imp fun hab => ?_)
  exact Document.precedes_iff.mpr (.inl hab)

/-- Of documents whose ids ascend, none loses its id to another one. -/
theorem kept_of_ascending : kept ks = ks := by
  refine eq_of_ascending (ascending_kept ks) h fun k => ?_
  have hfind : (kept ks).find? (·.id == k.id) = ks.find? (·.id == k.id) := by
    rw [find?_kept, ← find?_arranged, arranged_of_ascending h]
  calc k ∈ kept ks
    _ ↔ (kept ks).find? (·.id == k.id) = some k := by
        simp [find?_eq_some_iff (ascending_kept ks)]
    _ ↔ ks.find? (·.id == k.id) = some k := by rw [hfind]
    _ ↔ k ∈ ks := by simp [find?_eq_some_iff h]

end Ascending

/-- The documents that keep their ids keep them among themselves. -/
theorem kept_kept (ds : List Document) : kept (kept ds) = kept ds :=
  kept_of_ascending (ascending_kept ds)

/-- Every id of a corpus is kept by some document. -/
theorem mem_map_id_kept {ds : List Document} {id : String} :
    id ∈ (kept ds).map (·.id) ↔ id ∈ ds.map (·.id) := by
  rw [mem_map_id_iff, find?_kept, isSome_holder?_iff]

/-- There are as many kept documents as different ids. -/
theorem length_kept (ds : List Document) : (kept ds).length = (ds.map (·.id)).dedup.length := by
  have hnodup : ((kept ds).map (·.id)).Nodup := (ascending_kept ds).imp Std.ne_of_lt
  have hperm : ((kept ds).map (·.id)).Perm (ds.map (·.id)).dedup :=
    (List.perm_ext_iff_of_nodup hnodup (List.nodup_dedup _)).mpr fun id => by
      rw [mem_map_id_kept, List.mem_dedup]
  rw [← hperm.length_eq, List.length_map]

/-! ### The lowest id -/

/-- What the lowest id of a document that meets a condition is: none when no document meets it. -/
def IsLowest (ks : List Document) (condition : Document → Prop) : Option String → Prop
  | none => ∀ k ∈ ks, ¬ condition k
  | some id => (∃ k ∈ ks, condition k ∧ k.id = id) ∧ ∀ k ∈ ks, condition k → id ≤ k.id

/-- Where ids ascend, the first document that meets a condition has the lowest id. -/
theorem isLowest_find? {ks : List Document} (h : (ks.map (·.id)).Pairwise (· < ·))
    (question : Document → Bool) :
    IsLowest ks (fun k => question k = true) ((ks.find? question).map (·.id)) := by
  cases hfind : ks.find? question with
  | none => exact List.find?_eq_none.mp hfind
  | some k =>
    obtain ⟨hk, before, after, rfl, hbefore⟩ := List.find?_eq_some_iff_append.mp hfind
    refine ⟨⟨k, List.mem_append_right before List.mem_cons_self, hk, rfl⟩, fun k' hk' hq => ?_⟩
    -- Those before it do not answer the question, and those behind it have greater ids.
    rcases List.mem_append.mp hk' with hk' | hk'
    · exact absurd hq (by simpa using hbefore k' hk')
    · rcases List.mem_cons.mp hk' with rfl | hk'
      · exact Std.le_refl _
      · rw [List.map_append, List.map_cons] at h
        have hafter := (List.pairwise_cons.mp (List.pairwise_append.mp h).2.1).1
        exact Std.le_of_lt (hafter k'.id (List.mem_map_of_mem hk'))

/-- The lowest id hangs on what the condition says only. -/
theorem IsLowest.congr {ks : List Document} {p q : Document → Prop} {id : Option String}
    (h : IsLowest ks p id) (hpq : ∀ k, p k ↔ q k) : IsLowest ks q id := by
  have heq : p = q := funext fun k => propext (hpq k)
  exact heq ▸ h

end Corpus

namespace Catalog

open Corpus (IsLowest)

/-- What the look-ups of a catalog answer, said of the documents of a list: which they are, in the
    order of the list of ids, which one has an id, and which ids belong to a path, a name and a title
    up to spelling. -/
structure Lookups (c : Catalog) (ks : List Document) : Prop where
  order_eq : c.order = c.documents.map (·.id)
  order_ascending : c.order.Pairwise (· < ·)
  documents_eq : c.documents = ks
  ascending : (c.documents.map (·.id)).Pairwise (· < ·)
  size_eq : c.size = ks.length
  byId : ∀ id k, c.findById? id = some k ↔ k ∈ ks ∧ k.id = id
  byPath : ∀ path,
    IsLowest ks (fun k => path ≠ "" ∧ (k.relPath = path ∨ k.path = path)) (c.findByPath? path)
  byAlias_ascending : ∀ name, (c.findByAlias name).Pairwise (· < ·)
  byAlias : ∀ name id, id ∈ c.findByAlias name ↔
    ∃ k ∈ ks, k.id = id ∧ (k.title = name ∨ name ∈ k.aliases)
  byTitle : ∀ title,
    IsLowest ks (fun k => Text.spellingKey title ≠ "" ∧
      Text.spellingKey k.title = Text.spellingKey title) (c.findByTitle? title)

/-- Two catalogs give one answer to whatever is looked up. -/
structure SameAnswers (c c' : Catalog) : Prop where
  documents : c.documents = c'.documents
  size : c.size = c'.size
  byId : ∀ id, c.findById? id = c'.findById? id
  byPath : ∀ path, c.findByPath? path = c'.findByPath? path
  byAlias : ∀ name, c.findByAlias name = c'.findByAlias name
  byTitle : ∀ title, c.findByTitle? title = c'.findByTitle? title

namespace Finds

variable {c c' : Catalog} {ks : List Document}

/-- The ids of a catalog ascend, and no id is listed twice. -/
theorem ascending_order (h : Finds c ks) : c.order.Pairwise (· < ·) := h.order_eq ▸ h.ascending

/-- The documents of a catalog are those that it finds, in the same order. -/
theorem documents_eq (h : Finds c ks) : c.documents = ks := by
  have hself : ∀ k ∈ ks, c.findById? k.id = some k := by
    intro k hk
    rw [h.findById?, Corpus.find?_of_ascending h.ascending hk]
  rw [documents, h.order_eq, List.filterMap_map]
  calc ks.filterMap (fun k => c.findById? k.id)
    _ = ks.filterMap some := List.filterMap_congr hself
    _ = ks := List.filterMap_some

/-- A catalog answers what a search of the documents that it finds would. -/
theorem lookups (h : Finds c ks) : Lookups c ks where
  order_eq := by rw [h.documents_eq, h.order_eq]
  order_ascending := h.ascending_order
  documents_eq := h.documents_eq
  ascending := h.documents_eq ▸ h.ascending
  size_eq := h.size_eq
  byId id k := by rw [h.findById?, Corpus.find?_eq_some_iff h.ascending]
  byPath path := by
    rw [h.findByPath?]
    refine (Corpus.isLowest_find? h.ascending _).congr fun k => ?_
    simp [Document.liesAt]
  byAlias_ascending name := by
    rw [h.findByAlias]
    exact h.ascending.sublist (List.filter_sublist.map _)
  byAlias name id := by
    rw [h.findByAlias]
    simp only [List.mem_map, List.mem_filter, Document.isNamed, Bool.or_eq_true, beq_iff_eq,
      List.contains_iff_mem]
    constructor
    · rintro ⟨k, ⟨hk, hname⟩, hid⟩
      exact ⟨k, hk, hid, hname⟩
    · rintro ⟨k, hk, hid, hname⟩
      exact ⟨k, ⟨hk, hname⟩, hid⟩
  byTitle title := by
    rw [h.findByTitle?]
    refine (Corpus.isLowest_find? h.ascending _).congr fun k => ?_
    simp [Document.isSpelled]

/-- Catalogs that find the same documents answer alike. -/
theorem sameAnswers (h : Finds c ks) (h' : Finds c' ks) : SameAnswers c c' where
  documents := h.documents_eq.trans h'.documents_eq.symm
  size := h.size_eq.trans h'.size_eq.symm
  byId id := by rw [h.findById?, h'.findById?]
  byPath path := by rw [h.findByPath?, h'.findByPath?]
  byAlias name := by rw [h.findByAlias, h'.findByAlias]
  byTitle title := by rw [h.findByTitle?, h'.findByTitle?]

end Finds

/-- The look-ups of the catalog of a corpus are those of the documents that keep their ids, one for
    each id of the corpus. A catalog of these alone gives the same answers, so that documents that
    lost their ids contribute to none. -/
theorem lookups_build (root : String) (ds : List Document) :
    let c := build root ds
    let ks := Corpus.kept ds
    Lookups c ks ∧ (∀ id k, k ∈ ks ∧ k.id = id ↔ Corpus.holder? ds id = some k) ∧
      (∀ id, id ∈ ks.map (·.id) ↔ id ∈ ds.map (·.id)) ∧
      c.size = (ds.map (·.id)).dedup.length ∧ SameAnswers c (build root ks) := by
  intro c ks
  have hfinds : Finds c ks := finds_build root ds
  have hholder (id : String) (k : Document) :
      k ∈ ks ∧ k.id = id ↔ Corpus.holder? ds id = some k := by
    rw [← Corpus.find?_eq_some_iff (Corpus.ascending_kept ds), Corpus.find?_kept]
  have hsize : c.size = (ds.map (·.id)).dedup.length :=
    hfinds.size_eq.trans (Corpus.length_kept ds)
  have hkept : Finds (build root ks) ks := by
    have hself := finds_build root ks
    rwa [Corpus.kept_kept] at hself
  exact ⟨hfinds.lookups, hholder, fun _ => Corpus.mem_map_id_kept, hsize,
    hfinds.sameAnswers hkept⟩

end Catalog

end LinkAtlas
