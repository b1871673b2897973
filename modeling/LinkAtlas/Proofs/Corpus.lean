import LinkAtlas.Catalog
import LinkAtlas.Scan
import Mathlib.Data.List.Basic

namespace LinkAtlas

/-!
# One document for each id

A corpus may hold several documents with one id. The one at the lowest location keeps the id, and of
several at that location the earliest in the corpus.

* `Corpus.holder?` — the document that keeps an id, `Corpus.kept` — the documents that keep theirs,
  in ascending order of ids;
* `Corpus.filter_mergeSort`, `Corpus.filter_arranged` — documents that may stand in either order keep
  the one they had when a corpus is sorted;
* `Corpus.find?_arranged` — hence arranging brings the holder of an id before all others with it;
* `Corpus.keepFirst_documents` — dropping repeated ids from the arranged corpus leaves exactly the
  kept documents;
* `Corpus.find?_kept`, `Corpus.ascending_kept` — what is kept;
* `Corpus.exists_kept_insert` — a document with a new id takes its place among the others.
-/

/-! ### The order of documents -/

/-- Comparing texts and ordering them are one thing. -/
theorem Text.isLE_compare_iff {s t : String} : (compare s t).isLE = true ↔ s ≤ t :=
  isLE_compareOfLessAndEq Std.le_antisymm Std.not_le fun _ _ => Std.le_total

/-- A text compares as lower exactly if it is lower. -/
theorem Text.compare_eq_lt_iff {s t : String} : compare s t = .lt ↔ s < t :=
  compareOfLessAndEq_eq_lt

namespace Document

/-- A document may stand before another when its id is lower, or the same at a location that is not
    higher. -/
theorem precedes_iff {a b : Document} :
    a.precedes b = true ↔ a.id < b.id ∨ a.id = b.id ∧ a.relPath ≤ b.relPath := by
  simp only [precedes, Ordering.isLE_then_iff_or, Text.isLE_compare_iff, Text.compare_eq_lt_iff,
    Std.LawfulEqCmp.compare_eq_iff_eq]

/-- The order of documents is transitive. -/
theorem precedes_trans (a b c : Document) (hab : a.precedes b = true) (hbc : b.precedes c = true) :
    a.precedes c = true := by
  rw [precedes_iff] at *
  rcases hab with hab | ⟨hab, hpath⟩ <;> rcases hbc with hbc | ⟨hbc, hpath'⟩
  · exact .inl (String.lt_trans hab hbc)
  · exact .inl (hbc ▸ hab)
  · exact .inl (hab ▸ hbc)
  · exact .inr ⟨hab.trans hbc, Std.le_trans hpath hpath'⟩

/-- Of two documents one may stand before the other. -/
theorem precedes_total (a b : Document) : (a.precedes b || b.precedes a) = true := by
  rw [Bool.or_eq_true, precedes_iff, precedes_iff]
  rcases Std.lt_trichotomy a.id b.id with hlt | heq | hgt
  · exact .inl (.inl hlt)
  · rcases Std.le_total (a := a.relPath) (b := b.relPath) with hle | hge
    · exact .inl (.inr ⟨heq, hle⟩)
    · exact .inr (.inr ⟨heq.symm, hge⟩)
  · exact .inr (.inl hgt)

/-- Documents that may stand in either order have one id and one location. -/
theorem precedes_antisymm {a b : Document} (hab : a.precedes b = true)
    (hba : b.precedes a = true) : a.id = b.id ∧ a.relPath = b.relPath := by
  rcases precedes_iff.mp hab with hlt | ⟨hid, hle⟩ <;>
    rcases precedes_iff.mp hba with hgt | ⟨hid', hge⟩
  · exact absurd (String.lt_trans hlt hgt) (String.lt_irrefl _)
  · exact absurd (hid' ▸ hlt) (String.lt_irrefl _)
  · exact absurd (hid ▸ hgt) (String.lt_irrefl _)
  · exact ⟨hid, Std.le_antisymm hle hge⟩

/-- Documents in order have ids in order. -/
theorem id_le_of_precedes {a b : Document} (h : a.precedes b = true) : a.id ≤ b.id := by
  rcases precedes_iff.mp h with hlt | ⟨heq, -⟩
  · exact Std.le_of_lt hlt
  · exact Std.le_of_eq heq

end Document

namespace Corpus

/-! ### The holder of an id -/

/-- The document that keeps an id: of those with the id, the earliest at the lowest location. -/
def holder? (ds : List Document) (id : String) : Option Document :=
  let claimants := ds.filter (·.id == id)
  claimants.find? fun d => claimants.all fun e => decide (d.relPath ≤ e.relPath)

/-- The documents that keep their ids, in ascending order of ids. -/
def kept (ds : List Document) : List Document :=
  (Ids.ofList (ds.map (·.id))).filterMap (holder? ds)

/-- Whether a document has an id and lies no higher than any other with it. -/
private def holds (ds : List Document) (id : String) (d : Document) : Bool :=
  d.id == id && (ds.filter (·.id == id)).all fun e => decide (d.relPath ≤ e.relPath)

/-- The holder of an id is found by a search. -/
private theorem holder?_eq_find? (ds : List Document) (id : String) :
    holder? ds id = ds.find? (holds ds id) := by
  simp only [holder?, List.find?_filter, ← Bool.and_eq_decide]
  rfl

/-- The holder of an id has it, and no other document with the id lies before it. -/
private theorem holds_iff {ds : List Document} {id : String} {d : Document} :
    holds ds id d = true ↔ d.id = id ∧ ∀ e ∈ ds, e.id = id → d.relPath ≤ e.relPath := by
  simp [holds, Decidable.imp_iff_not_or]

/-! ### Arranging a corpus -/

/-- An arranged corpus is in order. -/
theorem pairwise_arranged (ds : List Document) :
    (Catalog.arranged ds).Pairwise fun a b => a.precedes b = true :=
  List.pairwise_mergeSort Document.precedes_trans Document.precedes_total ds

/-- Arranging a corpus loses no document and repeats none. -/
theorem perm_arranged (ds : List Document) : (Catalog.arranged ds).Perm ds :=
  List.mergeSort_perm ds Document.precedes

/-- An arranged corpus has the same documents. -/
@[simp] theorem mem_arranged {ds : List Document} {d : Document} :
    d ∈ Catalog.arranged ds ↔ d ∈ ds := (perm_arranged ds).mem_iff

/-- Sorting is stable: elements any two of which may stand in either order keep the one they had. -/
theorem filter_mergeSort {α : Type} {le : α → α → Bool}
    (htrans : ∀ a b c, le a b = true → le b c = true → le a c = true)
    (htotal : ∀ a b, (le a b || le b a) = true) (l : List α) (p : α → Bool)
    (hp : ∀ a ∈ l.filter p, ∀ b ∈ l.filter p, le a b = true) :
    (l.mergeSort le).filter p = l.filter p := by
  have hpair : (l.filter p).Pairwise fun a b => le a b = true :=
    List.pairwise_of_forall_mem_list hp
  -- These elements are in order already, so they are a sublist of the sorted list.
  have hsub : (l.filter p).Sublist (l.mergeSort le) :=
    List.sublist_mergeSort htrans htotal hpair List.filter_sublist
  have hsub : (l.filter p).Sublist ((l.mergeSort le).filter p) := by
    simpa using hsub.filter p
  exact (hsub.eq_of_length ((List.mergeSort_perm l le).filter p).length_eq.symm).symm

/-- Documents any two of which may stand in either order keep the order of the corpus. -/
theorem filter_arranged (ds : List Document) (p : Document → Bool)
    (hp : ∀ a ∈ ds.filter p, ∀ b ∈ ds.filter p, a.precedes b = true) :
    (Catalog.arranged ds).filter p = ds.filter p :=
  filter_mergeSort Document.precedes_trans Document.precedes_total ds p hp

/-- The first document with an id in the arranged corpus is the one that keeps it. -/
theorem find?_arranged (ds : List Document) (id : String) :
    (Catalog.arranged ds).find? (·.id == id) = holder? ds id := by
  rw [holder?_eq_find?]
  cases hfind : (Catalog.arranged ds).find? (·.id == id) with
  | none =>
    rw [List.find?_eq_none] at hfind
    refine (List.find?_eq_none.mpr fun d hd hp => ?_).symm
    exact hfind d (mem_arranged.mpr hd) (beq_iff_eq.mpr (holds_iff.mp hp).1)
  | some m =>
    obtain ⟨hm, before, after, harr, hbefore⟩ := List.find?_eq_some_iff_append.mp hfind
    have hid : m.id = id := beq_iff_eq.mp hm
    have hpair := pairwise_arranged ds
    rw [harr] at hpair
    have hafter := (List.pairwise_cons.mp (List.pairwise_append.mp hpair).2.1).1
    have hlow : ∀ e ∈ ds, e.id = id → m.relPath ≤ e.relPath := by
      intro e he heid
      rw [← mem_arranged, harr, List.mem_append, List.mem_cons] at he
      rcases he with he | rfl | he
      · exact absurd (beq_iff_eq.mpr heid) (by simpa using hbefore e he)
      · exact Std.le_refl _
      · rcases Document.precedes_iff.mp (hafter e he) with hlt | ⟨-, hle⟩
        · exact absurd (hid.trans heid.symm ▸ hlt) (String.lt_irrefl _)
        · exact hle
    -- All lowest documents with the id lie at one location, so the sort leaves them in order.
    have hsame := filter_arranged ds (holds ds id) <| by
      intro a ha b hb
      simp only [List.mem_filter, holds_iff] at ha hb
      exact Document.precedes_iff.mpr
        (.inr ⟨ha.2.1.trans hb.2.1.symm, ha.2.2 b hb.1 hb.2.1⟩)
    rw [← List.head?_filter, ← hsame, List.head?_filter, harr]
    symm
    rw [List.find?_eq_some_iff_append]
    refine ⟨holds_iff.mpr ⟨hid, hlow⟩, before, after, rfl, fun a ha => ?_⟩
    rw [Bool.not_eq_true', Bool.eq_false_iff, ne_eq, holds_iff]
    exact fun h => absurd (beq_iff_eq.mpr h.1) (by simpa using hbefore a ha)

end Corpus

/-! ### Dropping repeated ids -/

namespace Scan

/-- A document with the id of the last one that was kept is reported and dropped. -/
theorem keepAfter_cons_repeated {k d : Document} (h : k.id = d.id) (ds : List Document) :
    keepAfter (some k) (d :: ds) =
      ((keepAfter (some k) ds).1,
        .duplicateId d.id d.relPath k.relPath :: (keepAfter (some k) ds).2) := by
  simp [keepAfter, h]

/-- A document with a new id is kept. -/
theorem keepAfter_cons_new {last : Option Document} {d : Document} (h : ∀ k ∈ last, k.id ≠ d.id)
    (ds : List Document) :
    keepAfter last (d :: ds) = (d :: (keepAfter (some d) ds).1, (keepAfter (some d) ds).2) := by
  cases last with
  | none => simp [keepAfter]
  | some k => simp [keepAfter, h k rfl]

/-- Among arranged documents the ids that are left ascend from that of the last document before. -/
theorem ascending_keepAfter (last : Option Document) {es : List Document}
    (hes : (last.toList ++ es).Pairwise fun a b => a.precedes b = true) :
    ((last.toList ++ (keepAfter last es).1).map (·.id)).Pairwise (· < ·) := by
  -- Every document that is left is the last one for those after it.
  induction es generalizing last with
  | nil => cases last <;> simp [keepAfter]
  | cons e es ih =>
    by_cases h : ∀ k ∈ last, k.id ≠ e.id
    · rw [keepAfter_cons_new h]
      have htail := ih (some e) (hes.sublist (List.sublist_append_right _ _))
      cases last with
      | none => exact htail
      | some k =>
        have hke : k.id < e.id :=
          Std.lt_of_le_of_ne
            (Document.id_le_of_precedes ((List.pairwise_cons.mp hes).1 e List.mem_cons_self))
            (h k rfl)
        refine List.pairwise_cons.mpr ⟨fun id hid => ?_, htail⟩
        rcases List.mem_cons.mp hid with rfl | hid
        · exact hke
        · exact String.lt_trans hke ((List.pairwise_cons.mp htail).1 id hid)
    · cases last with
      | none => exact absurd (fun k hk => nomatch hk) h
      | some k =>
        have hke : k.id = e.id := by simpa using h
        rw [keepAfter_cons_repeated hke]
        exact ih (some k) (hes.sublist ((List.Sublist.refl _).append (List.sublist_cons_self e es)))

/-- The first document with an id is left, unless the id is that of the last document before. -/
theorem find?_keepAfter {last : Option Document} {id : String} (h : ∀ k ∈ last, k.id ≠ id)
    (es : List Document) :
    (keepAfter last es).1.find? (·.id == id) = es.find? (·.id == id) := by
  induction es generalizing last with
  | nil => simp [keepAfter]
  | cons e es ih =>
    by_cases hnew : ∀ k ∈ last, k.id ≠ e.id
    · rw [keepAfter_cons_new hnew]
      by_cases he : e.id = id
      · simp [he]
      · simp only [List.find?_cons, beq_eq_false_iff_ne.mpr he]
        exact ih fun k hk => by rwa [← Option.some.inj hk]
    · cases last with
      | none => exact absurd (fun k hk => nomatch hk) hnew
      | some k =>
        have hke : k.id = e.id := by simpa using hnew
        -- The repeated id is that of the last document, which is not searched for.
        have he : e.id ≠ id := hke ▸ h k rfl
        rw [keepAfter_cons_repeated hke, List.find?_cons, beq_eq_false_iff_ne.mpr he]
        exact ih h

end Scan

namespace Corpus

/-! ### What is kept -/

/-- Documents with ascending ids are found by their ids. -/
theorem find?_of_ascending {ks : List Document} (h : (ks.map (·.id)).Pairwise (· < ·))
    {k : Document} (hk : k ∈ ks) : ks.find? (·.id == k.id) = some k := by
  induction ks with
  | nil => exact absurd hk List.not_mem_nil
  | cons head rest ih =>
    obtain ⟨hhead, hrest⟩ := List.pairwise_cons.mp h
    rcases List.mem_cons.mp hk with rfl | hk
    · simp
    · have hlt := hhead k.id (List.mem_map_of_mem hk)
      rw [List.find?_cons, beq_eq_false_iff_ne.mpr (Std.ne_of_lt hlt)]
      exact ih hrest hk

/-- An id is in use exactly if a search for it succeeds. -/
theorem mem_map_id_iff {ks : List Document} {id : String} :
    id ∈ ks.map (·.id) ↔ (ks.find? (·.id == id)).isSome = true := by
  simp [List.find?_isSome]

/-- Some document keeps each id of a corpus. -/
theorem isSome_holder?_iff {ds : List Document} {id : String} :
    (holder? ds id).isSome = true ↔ id ∈ ds.map (·.id) := by
  rw [← find?_arranged, ← mem_map_id_iff]
  exact ((perm_arranged ds).map _).mem_iff

/-- The ids of the documents that a scan keeps ascend. -/
private theorem ascending_keepFirst (ds : List Document) :
    ((Scan.keepFirst ds).1.map (·.id)).Pairwise (· < ·) :=
  Scan.ascending_keepAfter none (pairwise_arranged ds)

/-- A scan keeps the holder of each id. -/
private theorem find?_keepFirst (ds : List Document) (id : String) :
    (Scan.keepFirst ds).1.find? (·.id == id) = holder? ds id := by
  rw [← find?_arranged]
  have hnone : ∀ k ∈ (none : Option Document), k.id ≠ id := nofun
  exact Scan.find?_keepAfter hnone (Catalog.arranged ds)

/-- Dropping repeated ids from the arranged corpus leaves the kept documents. -/
theorem keepFirst_documents (ds : List Document) : (Scan.keepFirst ds).1 = kept ds := by
  have hids : (Scan.keepFirst ds).1.map (·.id) = Ids.ofList (ds.map (·.id)) := by
    apply Ids.eq_of_mem_iff (ascending_keepFirst ds) (Ids.ascending_ofList _)
    intro id
    rw [mem_map_id_iff, find?_keepFirst, isSome_holder?_iff, Ids.mem_ofList]
  -- Each document that is left is the holder of its id.
  have hself : ∀ d ∈ (Scan.keepFirst ds).1, (holder? ds ∘ (·.id)) d = some d := by
    intro d hd
    show holder? ds d.id = some d
    rw [← find?_keepFirst]
    exact find?_of_ascending (ascending_keepFirst ds) hd
  rw [kept, ← hids, List.filterMap_map, List.filterMap_congr hself, List.filterMap_some]

/-- The ids of the documents that keep them ascend. -/
theorem ascending_kept (ds : List Document) : ((kept ds).map (·.id)).Pairwise (· < ·) :=
  keepFirst_documents ds ▸ ascending_keepFirst ds

/-- The kept document with an id is its holder. -/
theorem find?_kept (ds : List Document) (id : String) :
    (kept ds).find? (·.id == id) = holder? ds id :=
  keepFirst_documents ds ▸ find?_keepFirst ds id

/-! ### Adding a document -/

/-- A document with another id does not change who holds an id. -/
theorem holder?_insert_of_ne {as bs : List Document} {x : Document} {id : String}
    (h : x.id ≠ id) : holder? (as ++ x :: bs) id = holder? (as ++ bs) id := by
  simp [holder?, h]

/-- A document with a new id holds it. -/
theorem holder?_insert_self {as bs : List Document} {x : Document}
    (hx : x.id ∉ (as ++ bs).map (·.id)) : holder? (as ++ x :: bs) x.id = some x := by
  have hnone : (as ++ bs).filter (·.id == x.id) = [] := by
    simpa [List.filter_eq_nil_iff] using hx
  have hone : (as ++ x :: bs).filter (·.id == x.id) = [x] := by
    rw [List.filter_append, List.append_eq_nil_iff] at hnone
    simp [hnone]
  unfold holder?
  rw [hone]
  simp

/-- A document whose id is new is kept between the documents that were kept before. -/
theorem exists_kept_insert {as bs : List Document} {x : Document}
    (hx : x.id ∉ (as ++ bs).map (·.id)) :
    ∃ low high, kept (as ++ bs) = low ++ high ∧ kept (as ++ x :: bs) = low ++ x :: high := by
  have hids : Ids.ofList ((as ++ x :: bs).map (·.id)) =
      Ids.insert x.id (Ids.ofList ((as ++ bs).map (·.id))) := by
    apply Ids.eq_of_mem_iff (Ids.ascending_ofList _)
      (Ids.ascending_insert _ (Ids.ascending_ofList _))
    intro id
    simp [or_left_comm]
  have hnew : x.id ∉ Ids.ofList ((as ++ bs).map (·.id)) := by
    rwa [Ids.mem_ofList]
  obtain ⟨low, high, hold, hinsert⟩ := Ids.exists_insert_eq hnew
  -- The new document claims no other id, so their holders stay.
  have hsame : ∀ id ∈ low ++ high, holder? (as ++ x :: bs) id = holder? (as ++ bs) id := by
    intro id hid
    apply holder?_insert_of_ne
    rintro rfl
    exact hnew (hold ▸ hid)
  refine ⟨low.filterMap (holder? (as ++ bs)), high.filterMap (holder? (as ++ bs)), ?_, ?_⟩
  · rw [kept, hold, List.filterMap_append]
  · rw [kept, hids, hinsert, List.filterMap_append,
      List.filterMap_cons_some (holder?_insert_self hx),
      List.filterMap_congr fun id hid => hsame id (List.mem_append_left high hid),
      List.filterMap_congr fun id hid => hsame id (List.mem_append_right low hid)]

end Corpus

end LinkAtlas
