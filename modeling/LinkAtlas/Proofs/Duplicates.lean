import LinkAtlas.Proofs.Accounts
import LinkAtlas.Proofs.Lookup

namespace LinkAtlas

/-!
# Documents that lose their ids

Repeated ids are dealt with twice: a scan drops every document with the id of the last one that it
kept, and a catalog passes over every document whose id is in its table. On an arranged corpus the
two rules are one.

* `Corpus.Parted` — a corpus is parted into documents that keep their ids and the diagnostics of the
  others;
* `Corpus.lowest_of_mem_kept` — a document that keeps its id lies at the lowest location with it;
* `Catalog.duplicates_foldl_add`, `Catalog.duplicates_build` — the duplicates of a catalog are what
  a scan reports as repeated;
* `Corpus.parted_keepFirst`, `Catalog.duplicates_of_ascending` — so a corpus is parted, and nothing
  is left to be passed over in what a scan keeps;
* `Scan.keepFirst_eq_build` — the two rules agree.
-/

/-- The diagnostic of a document that lost its id. -/
def Duplicate.diagnostic (x : Duplicate) : Diagnostic := .duplicateId x.id x.relPath x.kept

/-- A diagnostic of a repeated id tells which document lost it to which. -/
theorem Duplicate.diagnostic_injective : Duplicate.diagnostic.Injective := by
  rintro ⟨id, path, kept⟩ ⟨id', path', kept'⟩ h
  simpa [diagnostic] using h

/-! ### A corpus parted by its ids -/

namespace Corpus

/-- A corpus is parted into documents that keep their ids, one for each id and at its lowest
    location, and all others, each with one diagnostic that names the location of the document that
    keeps the id. -/
structure Parted (ds ks : List Document) (xs : List Diagnostic) : Prop where
  ascending : (ks.map (·.id)).Pairwise (· < ·)
  covers : ∀ id, id ∈ ks.map (·.id) ↔ id ∈ ds.map (·.id)
  lowest : ∀ k ∈ ks, ∀ d ∈ ds, d.id = k.id → k.relPath ≤ d.relPath
  complete : ∃ dropped, (ks ++ dropped).Perm ds ∧ List.Forall₂ (Scan.Repeats ks) dropped xs

/-- A document is kept exactly if it holds its id. -/
theorem mem_kept_iff {ds : List Document} {k : Document} :
    k ∈ kept ds ↔ holder? ds k.id = some k := by
  rw [← find?_kept, find?_eq_some_iff (ascending_kept ds), and_iff_left rfl]

/-- Only documents of the corpus are kept. -/
theorem mem_of_mem_kept {ds : List Document} {k : Document} (hk : k ∈ kept ds) : k ∈ ds :=
  (List.mem_filter.mp (List.mem_of_find?_eq_some (mem_kept_iff.mp hk))).1

/-- A document that keeps its id lies no higher than any other with it. -/
theorem lowest_of_mem_kept {ds : List Document} {k : Document} (hk : k ∈ kept ds) :
    ∀ d ∈ ds, d.id = k.id → k.relPath ≤ d.relPath := by
  intro d hd hid
  have hall := List.find?_some (mem_kept_iff.mp hk)
  rw [List.all_eq_true] at hall
  exact of_decide_eq_true (hall d (List.mem_filter.mpr ⟨hd, beq_iff_eq.mpr hid⟩))

/-- A scan parts a corpus into documents that it keeps and diagnostics for all others. -/
theorem parted_keepFirst (ds : List Document) :
    Parted ds (Scan.keepFirst ds).1 (Scan.keepFirst ds).2 where
  ascending := keepFirst_documents ds ▸ ascending_kept ds
  covers := keepFirst_documents ds ▸ fun _ => mem_map_id_kept
  lowest := keepFirst_documents ds ▸ fun _ => lowest_of_mem_kept
  complete := Scan.exists_dropped_keepFirst ds

end Corpus

/-! ### What a catalog passes over -/

namespace Catalog

/-- While arranged documents are entered, those are passed over that a scan drops. -/
theorem duplicates_foldl_add {c : Catalog} {ks es : List Document} (h : Finds c ks)
    (hes : (ks.getLast?.toList ++ es).Pairwise fun a b => a.precedes b = true) :
    (es.foldl add c).duplicates.map Duplicate.diagnostic =
      c.duplicates.map Duplicate.diagnostic ++ (Scan.keepAfter ks.getLast? es).2 := by
  -- By the same induction as for what the catalog finds, with the duplicates beside it.
  induction es generalizing c ks with
  | nil => simp [Scan.keepAfter]
  | cons e es ih =>
    have hlast : ∀ k ∈ ks.getLast?, k.precedes e = true := fun k hk =>
      (List.pairwise_append.mp hes).2.2 k (Option.mem_toList.mpr hk) e List.mem_cons_self
    rw [List.foldl_cons]
    rcases h.add_cases hlast with ⟨k, hk, hid, hfinds, hdup⟩ | ⟨hnew, hfinds, hdup⟩
    · rw [ih hfinds (hes.sublist ((List.Sublist.refl _).append (List.sublist_cons_self e es))),
        hdup, hk, Scan.keepAfter_cons_repeated hid, List.map_append, List.append_assoc]
      rfl
    · have hstep := ih hfinds
      rw [List.getLast?_concat] at hstep
      rw [hstep (hes.sublist (List.sublist_append_right _ _)), hdup, Scan.keepAfter_cons_new hnew]

/-- The duplicates of a catalog are what a scan of the same documents reports as repeated. -/
theorem duplicates_build (root : String) (ds : List Document) :
    (build root ds).duplicates.map Duplicate.diagnostic = (Scan.keepFirst ds).2 :=
  duplicates_foldl_add (.empty root) (Corpus.pairwise_arranged ds)

/-- Documents whose ids ascend are all entered. -/
theorem duplicates_of_ascending (root : String) {ks : List Document}
    (h : (ks.map (·.id)).Pairwise (· < ·)) : (build root ks).duplicates = [] := by
  obtain ⟨dropped, hperm, hrepeats⟩ := Scan.exists_dropped_keepFirst ks
  rw [Corpus.keepFirst_documents, Corpus.kept_of_ascending h] at hperm
  have hdropped : dropped = [] := by
    have hlength := hperm.length_eq
    rw [List.length_append] at hlength
    exact List.eq_nil_of_length_eq_zero (by omega)
  subst hdropped
  rw [← List.map_eq_nil_iff, duplicates_build]
  exact List.forall₂_nil_left_iff.mp hrepeats

end Catalog

namespace Scan

/-- A scan keeps the documents that a catalog enters, and reports the documents that it passes over,
    each in the same order. So the catalog of what a scan has found passes over nothing. -/
theorem keepFirst_eq_build (root : String) (ds : List Document) :
    let c := Catalog.build root ds
    (keepFirst ds).1 = c.documents ∧ (keepFirst ds).2 = c.duplicates.map Duplicate.diagnostic ∧
      Corpus.Parted ds (keepFirst ds).1 (keepFirst ds).2 ∧
      ∀ root' diagnostics outcomes,
        let s := gather root' diagnostics outcomes
        (Catalog.build root s.documents).duplicates = [] ∧
          (Catalog.build root s.documents).size = s.documents.length := by
  intro c
  refine ⟨?_, (Catalog.duplicates_build root ds).symm, Corpus.parted_keepFirst ds, ?_⟩
  · rw [Corpus.keepFirst_documents]
    exact (Catalog.finds_build root ds).documents_eq.symm
  · intro root' diagnostics outcomes s
    -- A scan leaves one document for each id, so nothing is left for the catalog to drop.
    have hascending : (s.documents.map (·.id)).Pairwise (· < ·) :=
      (Corpus.parted_keepFirst (documentsOf outcomes)).ascending
    refine ⟨Catalog.duplicates_of_ascending root hascending, ?_⟩
    rw [(Catalog.finds_build root s.documents).size_eq, Corpus.kept_of_ascending hascending]

end Scan

end LinkAtlas
