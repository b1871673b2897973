import LinkAtlas.Proofs.Duplicates

namespace LinkAtlas

/-!
# Corpora in another order

A corpus is arranged by ids and locations before it is cataloged, so the order in which its
documents are given shows only where both are the same: there the document given first keeps the id.

* `Document.place` — what a document is arranged by;
* `Corpus.places_arranged` — the places of an arranged corpus do not show the given order;
* `Scan.keepAfter_congr` — which documents are dropped, and for which others, is told by places;
* `Catalog.duplicates_perm`, `Catalog.places_perm` — so the duplicates of a catalog and the places
  of its documents never show the given order;
* `Catalog.sameAnswers_iff_of_perm` — its answers do not exactly when every id has one holder in
  both orders;
* `Catalog.build_two_orders` — two documents at one place are told apart by their order.
-/

/-- What a document is arranged by. -/
def Document.place (d : Document) : String × String := (d.id, d.relPath)

/-- Documents have one place if they share their id and location. -/
theorem Document.place_eq_iff {a b : Document} :
    a.place = b.place ↔ a.id = b.id ∧ a.relPath = b.relPath := Prod.mk_inj

/-! ### Places of arranged documents -/

namespace Corpus

variable {ds ds' : List Document}

/-- The places of an arranged corpus do not show the order in which it is given. -/
theorem places_arranged (h : ds.Perm ds') :
    (Catalog.arranged ds).map Document.place = (Catalog.arranged ds').map Document.place := by
  have hperm : (Catalog.arranged ds).Perm (Catalog.arranged ds') :=
    (perm_arranged ds).trans (h.trans (perm_arranged ds').symm)
  -- Places stand in the order of some documents at them.
  let le (p q : String × String) : Prop :=
    ∃ a b : Document, a.place = p ∧ b.place = q ∧ a.precedes b = true
  have hsorted (es : List Document) : ((Catalog.arranged es).map Document.place).Pairwise le :=
    List.pairwise_map.mpr ((pairwise_arranged es).imp fun hab => ⟨_, _, rfl, rfl, hab⟩)
  refine (hperm.map Document.place).eq_of_pairwise ?_ (hsorted ds) (hsorted ds')
  rintro _ _ _ _ ⟨a, b, rfl, rfl, hab⟩ ⟨b', a', hb, ha, hba⟩
  have hba : b.precedes a = true := by
    rw [Document.precedes_iff] at hba ⊢
    rw [Document.place_eq_iff] at ha hb
    rwa [← hb.1, ← hb.2, ← ha.1, ← ha.2]
  exact Document.place_eq_iff.mpr (Document.precedes_antisymm hab hba)

/-- Without different documents at one place the arranged corpus does not show the given order. -/
theorem arranged_perm (h : ds.Perm ds')
    (hsame : ∀ d ∈ ds, ∀ e ∈ ds, d.id = e.id → d.relPath = e.relPath → d = e) :
    Catalog.arranged ds = Catalog.arranged ds' := by
  refine mergeSort_eq_of_perm Document.precedes_trans Document.precedes_total h ?_
  intro d hd e he hde hed
  obtain ⟨hid, hpath⟩ := Document.precedes_antisymm hde hed
  exact hsame d hd e he hid hpath

end Corpus

namespace Scan

/-- Documents at the same places are kept and dropped alike, with the same diagnostics. -/
theorem keepAfter_congr {last last' : Option Document} {es es' : List Document}
    (hlast : last.map Document.place = last'.map Document.place)
    (h : es.map Document.place = es'.map Document.place) :
    (keepAfter last es).1.map Document.place = (keepAfter last' es').1.map Document.place ∧
      (keepAfter last es).2 = (keepAfter last' es').2 := by
  induction es generalizing last last' es' with
  | nil =>
    rw [List.map_nil, eq_comm, List.map_eq_nil_iff] at h
    subst h
    exact ⟨rfl, rfl⟩
  | cons e es ih =>
    obtain ⟨e', es', rfl, he, hes⟩ := List.map_eq_cons_iff.mp h.symm
    obtain ⟨hid, hpath⟩ := Document.place_eq_iff.mp he
    -- The document kept last has its place in both, so both keep their next document or neither does.
    by_cases hnew : ∀ k ∈ last, k.id ≠ e.id
    · have hnew' : ∀ k' ∈ last', k'.id ≠ e'.id := by
        intro k' hk'
        rw [Option.mem_def.mp hk'] at hlast
        obtain ⟨k, hk, hplace⟩ := Option.map_eq_some_iff.mp hlast
        rw [← (Document.place_eq_iff.mp hplace).1, hid]
        exact hnew k hk
      have hnext : (some e).map Document.place = (some e').map Document.place :=
        congrArg some he.symm
      obtain ⟨hkept, hdropped⟩ := ih hnext hes.symm
      rw [keepAfter_cons_new hnew, keepAfter_cons_new hnew']
      exact ⟨congrArg₂ List.cons he.symm hkept, hdropped⟩
    · obtain ⟨k, rfl, hk⟩ : ∃ k, last = some k ∧ k.id = e.id := by simpa using hnew
      obtain ⟨k', rfl, hplace⟩ := Option.map_eq_some_iff.mp hlast.symm
      obtain ⟨hkid, hkpath⟩ := Document.place_eq_iff.mp hplace
      have hk' : k'.id = e'.id := by rw [hkid, hk, hid]
      obtain ⟨hkept, hdropped⟩ := ih hlast hes.symm
      rw [keepAfter_cons_repeated hk, keepAfter_cons_repeated hk']
      exact ⟨hkept, by rw [hdropped, hid, hpath, hkpath]⟩

end Scan

/-! ### Catalogs of one corpus in two orders -/

namespace Catalog

variable {ds ds' : List Document}

/-- The duplicates of a catalog do not show the order in which its corpus is given. -/
theorem duplicates_perm (h : ds.Perm ds') (root : String) :
    (build root ds).duplicates = (build root ds').duplicates := by
  refine List.map_injective_iff.mpr Duplicate.diagnostic_injective ?_
  rw [duplicates_build, duplicates_build]
  exact (Scan.keepAfter_congr rfl (Corpus.places_arranged h)).2

/-- The catalog of a corpus holds the documents that keep their ids. -/
theorem documents_build (root : String) (ds : List Document) :
    (build root ds).documents = Corpus.kept ds := (finds_build root ds).documents_eq

/-- Nor do the ids and locations of its documents. -/
theorem places_perm (h : ds.Perm ds') (root : String) :
    (build root ds).documents.map Document.place =
      (build root ds').documents.map Document.place := by
  rw [documents_build, documents_build, ← Corpus.keepFirst_documents, ← Corpus.keepFirst_documents]
  exact (Scan.keepAfter_congr rfl (Corpus.places_arranged h)).1

/-- The catalogs of two corpora answer alike exactly when every id has one holder in both. -/
theorem sameAnswers_build_iff (root : String) (ds ds' : List Document) :
    SameAnswers (build root ds) (build root ds') ↔
      ∀ id, Corpus.holder? ds id = Corpus.holder? ds' id := by
  constructor
  · intro h id
    have hid := h.byId id
    rwa [(finds_build root ds).findById?, (finds_build root ds').findById?, Corpus.find?_kept,
      Corpus.find?_kept] at hid
  -- The documents that are kept are the holders of their ids, and they ascend, so the holders
  -- settle the list.
  · intro h
    have hkept : Corpus.kept ds = Corpus.kept ds' := by
      refine Corpus.eq_of_ascending (Corpus.ascending_kept ds) (Corpus.ascending_kept ds') ?_
      intro k
      rw [Corpus.mem_kept_iff, Corpus.mem_kept_iff, h]
    exact (finds_build root ds).sameAnswers (hkept ▸ finds_build root ds')

/-- The catalogs of one corpus in two orders have the same duplicates and documents at the same
    places. They answer alike exactly when every id has one holder in both orders, as it has when no
    two different documents share their id and location. -/
theorem sameAnswers_iff_of_perm (h : ds.Perm ds') (root : String) :
    (build root ds).duplicates = (build root ds').duplicates ∧
      (build root ds).documents.map Document.place =
        (build root ds').documents.map Document.place ∧
      (SameAnswers (build root ds) (build root ds') ↔
        ∀ id, Corpus.holder? ds id = Corpus.holder? ds' id) ∧
      ((∀ d ∈ ds, ∀ e ∈ ds, d.id = e.id → d.relPath = e.relPath → d = e) →
        SameAnswers (build root ds) (build root ds')) := by
  refine ⟨duplicates_perm h root, places_perm h root, sameAnswers_build_iff root ds ds', ?_⟩
  intro hsame
  rw [sameAnswers_build_iff]
  intro id
  rw [← Corpus.find?_arranged, ← Corpus.find?_arranged, Corpus.arranged_perm h hsame]

/-- Three documents with one id, two of them at one location: it is the order of these two that
    decides, wherever the third one stands. -/
theorem sameAnswers_iff_of_perm_one_id :
    let a : Document := ⟨"n", .knowledge, .active, "A", [], "/c/a.md", "a.md", "", []⟩
    let b : Document := { a with title := "B" }
    let z : Document := { a with path := "/c/z.md", relPath := "z.md" }
    [a, b, z].Perm [z, a, b] ∧
      SameAnswers (build "/c" [a, b, z]) (build "/c" [z, a, b]) ∧
      (build "/c" [z, a, b]).duplicates = [⟨"n", "a.md", "a.md"⟩, ⟨"n", "z.md", "a.md"⟩] := by
  intro a b z
  have hperm : [a, b, z].Perm [z, a, b] := by decide
  obtain ⟨hduplicates, -, hiff, -⟩ := sameAnswers_iff_of_perm hperm "/c"
  refine ⟨hperm, hiff.mpr fun id => ?_, ?_⟩
  · by_cases hid : id = "n"
    · subst hid
      decide +kernel
    · simp [Corpus.holder?, a, b, z, Ne.symm hid]
  · have harranged : arranged [a, b, z] = [a, b, z] :=
      List.mergeSort_of_pairwise (by decide +kernel)
    rw [← hduplicates]
    refine List.map_injective_iff.mpr Duplicate.diagnostic_injective ?_
    rw [duplicates_build]
    show (Scan.keepAfter none (arranged [a, b, z])).2 = _
    rw [harranged]
    rfl

/-- Of two documents with one id at one location the first that is given keeps it, so the catalogs of
    the two orders have different documents and find different titles. -/
theorem build_two_orders :
    let a : Document := ⟨"n", .knowledge, .active, "A", [], "/c/a.md", "a.md", "", []⟩
    let b : Document := { a with title := "B" }
    [a, b].Perm [b, a] ∧ (build "/c" [a, b]).documents = [a] ∧
      (build "/c" [b, a]).documents = [b] ∧ (build "/c" [a, b]).findById? "n" = some a ∧
      (build "/c" [b, a]).findById? "n" = some b ∧ (build "/c" [a, b]).findByAlias "A" = ["n"] ∧
      (build "/c" [b, a]).findByAlias "A" = [] := by
  intro a b
  have hab : Corpus.kept [a, b] = [a] := by decide +kernel
  have hba : Corpus.kept [b, a] = [b] := by decide +kernel
  have hfinds := finds_build "/c" [a, b]
  have hfinds' := finds_build "/c" [b, a]
  rw [hab] at hfinds
  rw [hba] at hfinds'
  refine ⟨by decide, hfinds.documents_eq, hfinds'.documents_eq, ?_, ?_, ?_, ?_⟩
  · rw [hfinds.findById?]
    rfl
  · rw [hfinds'.findById?]
    rfl
  · rw [hfinds.findByAlias]
    rfl
  · rw [hfinds'.findByAlias]
    rfl

end Catalog

end LinkAtlas
