import LinkAtlas.Proofs.Summary
import Mathlib.Data.List.Nodup

namespace LinkAtlas

/-!
# Valid, broken and ambiguous references

A report counts references in whatever state they are. Each of them is in one of three classes, and
a document is an orphan when no valid reference leaves it and none comes to it from another
document.

* `Reference.IsAmbiguous`, `Reference.IsValidEdge`, `Reference.IsBrokenEdge` — the three classes,
  `Reference.LinksTo` — what a valid reference to a document leads to;
* `Report.Classifies` — a report has the numbers and the lists of the three classes, and its orphans
  are the documents that are not connected;
* `Health.Standing.Describes`, `Health.describes_standing` — which standing each class has;
* `Health.mem_connectedIds_iff`, `Health.notMem_connectedIds_iff` — the documents that references
  connect, and those that they do not;
* `Health.classifies_score` — the report on a corpus without repeated ids classifies its references.
-/

namespace Reference

/-- A reference is ambiguous by its strategy, whatever its other fields say. -/
def IsAmbiguous (r : Reference) : Prop := r.strategy = some .ambiguous

/-- A reference is a valid edge of a corpus when it is not ambiguous, is marked as valid and has a
    target, which for a reference to a document is an id of the corpus. -/
def IsValidEdge (ds : List Document) (r : Reference) : Prop :=
  ¬ r.IsAmbiguous ∧ r.isValid = true ∧
    ∃ target ∈ r.target, r.kind = .code ∨ target ∈ ds.map (·.id)

/-- A reference that is neither is broken. -/
def IsBrokenEdge (ds : List Document) (r : Reference) : Prop :=
  ¬ r.IsAmbiguous ∧ ¬ r.IsValidEdge ds

/-- A valid reference to a document leads to an id. -/
def LinksTo (ds : List Document) (r : Reference) (id : String) : Prop :=
  r.IsValidEdge ds ∧ r.kind ≠ .code ∧ r.target = some id

/-- That id is one of the corpus. -/
theorem LinksTo.mem {ds : List Document} {r : Reference} {id : String} (h : r.LinksTo ds id) :
    id ∈ ds.map (·.id) := by
  obtain ⟨⟨-, -, target, htarget, hcode | hmem⟩, hkind, hid⟩ := h
  · exact absurd hcode hkind
  · rwa [Option.some.inj (hid.symm.trans htarget)]

/-- Which references are valid hangs on the ids of the corpus alone. -/
theorem isValidEdge_congr {ds ds' : List Document}
    (h : ∀ id, id ∈ ds.map (·.id) ↔ id ∈ ds'.map (·.id)) (r : Reference) :
    r.IsValidEdge ds ↔ r.IsValidEdge ds' := by
  simp only [IsValidEdge, h]

/-- Which links there are hangs on the ids of a corpus only. -/
theorem linksTo_congr {ds ds' : List Document}
    (h : ∀ id, id ∈ ds.map (·.id) ↔ id ∈ ds'.map (·.id)) (r : Reference) (id : String) :
    r.LinksTo ds id ↔ r.LinksTo ds' id := by
  rw [LinksTo, LinksTo, isValidEdge_congr h]

instance : DecidablePred IsAmbiguous := fun r =>
  inferInstanceAs (Decidable (r.strategy = some .ambiguous))

instance (ds : List Document) : DecidablePred (IsValidEdge ds) := fun r =>
  inferInstanceAs (Decidable (¬ r.IsAmbiguous ∧ r.isValid = true ∧
    ∃ target ∈ r.target, r.kind = .code ∨ target ∈ ds.map (·.id)))

instance (ds : List Document) : DecidablePred (IsBrokenEdge ds) := fun r =>
  inferInstanceAs (Decidable (¬ r.IsAmbiguous ∧ ¬ r.IsValidEdge ds))

/-- No reference is in two classes, and each is in one. -/
theorem classes (ds : List Document) (r : Reference) :
    (r.IsAmbiguous ∨ r.IsValidEdge ds ∨ r.IsBrokenEdge ds) ∧
      ¬ (r.IsAmbiguous ∧ r.IsValidEdge ds) ∧ ¬ (r.IsAmbiguous ∧ r.IsBrokenEdge ds) ∧
      ¬ (r.IsValidEdge ds ∧ r.IsBrokenEdge ds) := by
  refine ⟨?_, fun ⟨ha, hv⟩ => hv.1 ha, fun ⟨ha, hb⟩ => hb.1 ha, fun ⟨hv, hb⟩ => hb.2 hv⟩
  by_cases ha : r.IsAmbiguous
  · exact .inl ha
  · by_cases hv : r.IsValidEdge ds
    · exact .inr (.inl hv)
    · exact .inr (.inr ⟨ha, hv⟩)

/-- A reference is no valid edge if it is ambiguous or broken, and only then. -/
theorem not_isValidEdge_iff {ds : List Document} {r : Reference} :
    ¬ r.IsValidEdge ds ↔ r.IsAmbiguous ∨ r.IsBrokenEdge ds := by
  obtain ⟨hone, hav, -, hvb⟩ := classes ds r
  tauto

/-- The sizes of the classes add up. -/
theorem length_eq_countP_add (ds : List Document) (rs : List Reference) :
    rs.length = rs.countP (IsValidEdge ds ·) + rs.countP (IsBrokenEdge ds ·) +
      rs.countP (IsAmbiguous ·) := by
  induction rs with
  | nil => rfl
  | cons r rs ih =>
    obtain ⟨hone, hav, hab, hvb⟩ := classes ds r
    simp only [List.length_cons, List.countP_cons, decide_eq_true_eq, ih]
    -- Each reference falls in exactly one class, so one of the three counts grows by one.
    rcases hone with ha | hv | hb
    · have hv : ¬ r.IsValidEdge ds := fun hv => hav ⟨ha, hv⟩
      have hb : ¬ r.IsBrokenEdge ds := fun hb => hab ⟨ha, hb⟩
      simp only [ha, hv, hb, if_true, if_false]
      omega
    · have ha : ¬ r.IsAmbiguous := hv.1
      have hb : ¬ r.IsBrokenEdge ds := fun hb => hvb ⟨hv, hb⟩
      simp only [ha, hv, hb, if_true, if_false]
      omega
    · have ha : ¬ r.IsAmbiguous := hb.1
      have hv : ¬ r.IsValidEdge ds := hb.2
      simp only [ha, hv, hb, if_true, if_false]
      omega

end Reference

open Reference (IsAmbiguous IsValidEdge IsBrokenEdge)

/-- What the figures of a report say of a corpus: its references by class, in the order of the
    corpus, and its documents by whether a valid reference connects them. -/
structure Report.Classifies (rep : Report) (ds : List Document) : Prop where
  totalNodes : rep.totalNodes = ds.length
  totalEdges : rep.totalEdges = (Health.references ds).length
  exactly_one : ∀ r ∈ Health.references ds,
    (r.IsAmbiguous ∨ r.IsValidEdge ds ∨ r.IsBrokenEdge ds) ∧
      ¬ (r.IsAmbiguous ∧ r.IsValidEdge ds) ∧ ¬ (r.IsAmbiguous ∧ r.IsBrokenEdge ds) ∧
      ¬ (r.IsValidEdge ds ∧ r.IsBrokenEdge ds)
  validEdges : rep.validEdges = (Health.references ds).countP (IsValidEdge ds ·)
  broken : rep.broken =
    ((Health.references ds).filter (IsBrokenEdge ds ·)).map LinkIssue.ofReference
  brokenEdges : rep.brokenEdges = rep.broken.length
  ambiguous : rep.ambiguous =
    ((Health.references ds).filter (IsAmbiguous ·)).map LinkIssue.ofReference
  ambiguousEdges : rep.ambiguousEdges = rep.ambiguous.length
  totalEdges_eq_add : rep.totalEdges = rep.validEdges + rep.brokenEdges + rep.ambiguousEdges
  total_strategyCounts : rep.strategyCounts.total = rep.totalEdges
  ascending_orphans : rep.orphans.Pairwise (· < ·)
  mem_orphans : ∀ id, id ∈ rep.orphans ↔ ∃ d ∈ ds, d.id = id ∧
    (∀ r ∈ d.references, ¬ r.IsValidEdge ds) ∧
      ∀ e ∈ ds, e.id ≠ d.id → ∀ r ∈ e.references, ¬ r.LinksTo ds d.id
  connectedNodes_add : rep.connectedNodes + rep.orphans.length = rep.totalNodes

/-- No id is lost when different ids are put in order. -/
theorem Ids.length_ofList {ids : List String} (h : ids.Nodup) :
    (Ids.ofList ids).length = ids.length := by
  have hnodup : (Ids.ofList ids).Nodup := (Ids.ascending_ofList ids).imp Std.ne_of_lt
  have hperm : (Ids.ofList ids).Perm ids :=
    (List.perm_ext_iff_of_nodup hnodup h).mpr fun _ => Ids.mem_ofList
  exact hperm.length_eq

namespace Health

variable {ds : List Document} {r : Reference}

/-! ### Standings and classes -/

/-- What the standing of a reference says of it. -/
inductive Standing.Describes (ds : List Document) (r : Reference) : Standing → Prop where
  | ambiguous (h : r.IsAmbiguous) : Describes ds r .ambiguous
  | broken (h : r.IsBrokenEdge ds) : Describes ds r .broken
  | outside (target : String) (h : r.IsBrokenEdge ds) : Describes ds r (.outside target)
  | code (h : r.IsValidEdge ds) (hkind : r.kind = .code) : Describes ds r .code
  | linked (target : String) (h : r.LinksTo ds target) : Describes ds r (.linked target)

/-- A corpus has an id if one of its documents has it. -/
theorem isMember_iff {id : String} : isMember ds id = true ↔ id ∈ ds.map (·.id) := by
  simp [isMember]

/-- Every standing is one of the class of its reference. -/
theorem describes_standing (ds : List Document) (r : Reference) :
    (Standing.of (isMember ds) r).Describes ds r := by
  unfold Standing.of
  -- The cases are the tests in the order in which they are made; a test that failed refutes the
  -- facts about the reference that it stands for.
  split
  · rename_i hambiguous
    exact .ambiguous hambiguous
  · rename_i hambiguous
    split
    · rename_i target htarget hvalid
      split
      · rename_i hkind
        exact .code ⟨hambiguous, hvalid, target, htarget, .inl hkind⟩ hkind
      · rename_i hkind
        split
        · rename_i hmember
          have hid : target ∈ ds.map (·.id) := isMember_iff.mp hmember
          exact .linked target ⟨⟨hambiguous, hvalid, target, htarget, .inr hid⟩, hkind, htarget⟩
        · rename_i hmember
          refine .outside target ⟨hambiguous, ?_⟩
          rintro ⟨-, -, target', htarget', hcode | hid⟩
          · exact hkind hcode
          · obtain rfl : target = target' := Option.some.inj (htarget.symm.trans htarget')
            exact hmember (isMember_iff.mpr hid)
    · rename_i hno
      refine .broken ⟨hambiguous, ?_⟩
      rintro ⟨-, hvalid, target, htarget, -⟩
      exact hno target htarget hvalid

namespace Standing.Describes

variable {x : Standing} (h : x.Describes ds r)
include h

/-- A standing counts as an edge exactly for valid edges. -/
theorem isEdge_iff : x.isEdge = true ↔ r.IsValidEdge ds := by
  cases h with
  | ambiguous h => exact ⟨nofun, fun hv => absurd h hv.1⟩
  | broken h | outside _ h => exact ⟨nofun, fun hv => absurd hv h.2⟩
  | code h _ => exact ⟨fun _ => h, fun _ => rfl⟩
  | linked _ h => exact ⟨fun _ => h.1, fun _ => rfl⟩

/-- A standing counts as broken exactly for broken edges. -/
theorem isBroken_iff : x.isBroken = true ↔ r.IsBrokenEdge ds := by
  cases h with
  | ambiguous h => exact ⟨nofun, fun hb => absurd h hb.1⟩
  | broken h | outside _ h => exact ⟨fun _ => h, fun _ => rfl⟩
  | code h _ => exact ⟨nofun, fun hb => absurd h hb.2⟩
  | linked _ h => exact ⟨nofun, fun hb => absurd h.1 hb.2⟩

/-- A standing is ambiguous exactly for ambiguous references. -/
theorem eq_ambiguous_iff : (x == .ambiguous) = true ↔ r.IsAmbiguous := by
  cases h with
  | ambiguous h => exact ⟨fun _ => h, fun _ => rfl⟩
  | broken h | outside _ h => exact ⟨nofun, fun ha => absurd ha h.1⟩
  | code h _ => exact ⟨nofun, fun ha => absurd ha h.1⟩
  | linked _ h => exact ⟨nofun, fun ha => absurd ha h.1.1⟩

/-- A standing leads to an id exactly for references that link to it. -/
theorem eq_linked_iff {target : String} : x = .linked target ↔ r.LinksTo ds target := by
  cases h with
  | ambiguous h => exact ⟨nofun, fun hl => absurd h hl.1.1⟩
  | broken h | outside _ h => exact ⟨nofun, fun hl => absurd hl.1 h.2⟩
  | code _ hkind => exact ⟨nofun, fun hl => absurd hkind hl.2.1⟩
  | linked target' h =>
    constructor
    · intro heq
      rwa [← Standing.linked.inj heq]
    · intro hl
      rw [Option.some.inj (h.2.2.symm.trans hl.2.2)]

/-- A valid reference connects its own document, and the one that it leads to. -/
theorem mem_connects_iff (d : Document) {id : String} :
    id ∈ connects d x ↔ r.IsValidEdge ds ∧ d.id = id ∨ r.LinksTo ds id := by
  cases h with
  | ambiguous h =>
    refine ⟨nofun, ?_⟩
    rintro (⟨hv, -⟩ | hl)
    · exact absurd h hv.1
    · exact absurd h hl.1.1
  | broken h | outside _ h =>
    refine ⟨nofun, ?_⟩
    rintro (⟨hv, -⟩ | hl)
    · exact absurd hv h.2
    · exact absurd hl.1 h.2
  | code h hkind =>
    have hno : ¬ r.LinksTo ds id := fun hl => hl.2.1 hkind
    simp [connects, h, hno, eq_comm]
  | linked target h =>
    have hlinks : r.LinksTo ds id ↔ target = id := by
      constructor
      · exact fun hl => Option.some.inj (h.2.2.symm.trans hl.2.2)
      · rintro rfl
        exact h
    -- A document that refers to itself is listed once.
    show id ∈ (if target = d.id then [d.id] else [target, d.id]) ↔ _
    by_cases hself : target = d.id
    · rw [if_pos hself, List.mem_singleton, hlinks, hself, and_iff_right h.1, or_self]
      exact eq_comm
    · rw [if_neg hself, hlinks, and_iff_right h.1]
      simp [eq_comm, or_comm]

end Standing.Describes

/-! ### Connected documents -/

/-- An id is connected if a document with it has a valid edge, or if a reference links to it. -/
theorem mem_connectedIds_iff {id : String} :
    id ∈ connectedIds ds ↔
      ∃ d ∈ ds, ∃ r ∈ d.references, r.IsValidEdge ds ∧ d.id = id ∨ r.LinksTo ds id := by
  simp only [connectedIds, standings, List.mem_flatMap, List.mem_map]
  constructor
  · rintro ⟨-, ⟨d, hd, r, hr, rfl⟩, hid⟩
    exact ⟨d, hd, r, hr, ((describes_standing ds r).mem_connects_iff d).mp hid⟩
  · rintro ⟨d, hd, r, hr, hid⟩
    exact ⟨_, ⟨d, hd, r, hr, rfl⟩, ((describes_standing ds r).mem_connects_iff d).mpr hid⟩

/-- Connected ids are ids of the corpus. -/
theorem mem_ids_of_mem_connectedIds {id : String} (h : id ∈ connectedIds ds) :
    id ∈ ds.map (·.id) := by
  obtain ⟨d, hd, r, -, ⟨-, rfl⟩ | hlinks⟩ := mem_connectedIds_iff.mp h
  · exact List.mem_map_of_mem hd
  · exact hlinks.mem

/-- Without repeated ids, a document is not connected when no valid reference leaves it and none
    comes to it from another document. -/
theorem notMem_connectedIds_iff (hnodup : (ds.map (·.id)).Nodup) {d : Document} (hd : d ∈ ds) :
    d.id ∉ connectedIds ds ↔ (∀ r ∈ d.references, ¬ r.IsValidEdge ds) ∧
      ∀ e ∈ ds, e.id ≠ d.id → ∀ r ∈ e.references, ¬ r.LinksTo ds d.id := by
  rw [mem_connectedIds_iff]
  constructor
  · intro hno
    constructor
    · intro r hr hvalid
      exact hno ⟨d, hd, r, hr, .inl ⟨hvalid, rfl⟩⟩
    · intro e he _ r hr hlinks
      exact hno ⟨e, he, r, hr, .inr hlinks⟩
  · rintro ⟨hleaves, hcomes⟩ ⟨e, he, r, hr, hconnects⟩
    have hvalid : r.IsValidEdge ds := by
      rcases hconnects with ⟨hvalid, -⟩ | hlinks
      · exact hvalid
      · exact hlinks.1
    by_cases hself : e.id = d.id
    · -- The only document with the id is the one itself.
      obtain rfl : e = d := List.inj_on_of_nodup_map hnodup he hd hself
      exact hleaves r hr hvalid
    · rcases hconnects with ⟨-, heq⟩ | hlinks
      · exact hself heq
      · exact hcomes e he hself r hr hlinks

/-- An orphan is the id of a document that is not connected. -/
theorem mem_orphans_iff {id : String} :
    id ∈ (score ds).orphans ↔ ∃ d ∈ ds, d.id ∉ connectedIds ds ∧ d.id = id := by
  show id ∈ Ids.ofList ((ds.filter (! (connectedIds ds).contains ·.id)).map (·.id)) ↔ _
  simp [and_assoc]

/-- There are as many orphans as documents without a connection, if no id is used twice. -/
theorem length_orphans (hnodup : (ds.map (·.id)).Nodup) :
    (score ds).orphans.length = (ds.filter (! (connectedIds ds).contains ·.id)).length := by
  show (Ids.ofList ((ds.filter (! (connectedIds ds).contains ·.id)).map (·.id))).length = _
  rw [Ids.length_ofList, List.length_map]
  exact hnodup.sublist (List.filter_sublist.map _)

/-! ### The report -/

/-- A figure on the standings that say of their references what is asked of them is one on the
    references. -/
theorem filter_references (ds : List Document) {p : Standing → Bool} {q : Reference → Prop}
    [DecidablePred q] (hpq : ∀ r x, x.Describes ds r → (p x = true ↔ q r)) :
    ((references ds).filter fun r => p (Standing.of (isMember ds) r)) =
      (references ds).filter (q ·) := by
  refine List.filter_congr fun r _ => ?_
  rw [Bool.eq_iff_iff, decide_eq_true_iff]
  exact hpq r _ (describes_standing ds r)

/-- The report on a corpus without repeated ids classifies its references, whatever state they are
    in. -/
theorem classifies_score (ds : List Document) (hnodup : (ds.map (·.id)).Nodup) :
    (score ds).Classifies ds := by
  have htotal : (score ds).totalEdges = (references ds).length := by
    rw [← map_standings, List.length_map]
    rfl
  have hvalid : (score ds).validEdges = (references ds).countP (IsValidEdge ds ·) := by
    rw [List.countP_eq_length_filter, ← filter_references ds fun _ _ hx => hx.isEdge_iff]
    exact length_filter_standings ds Standing.isEdge
  have hbroken : (score ds).broken =
      ((references ds).filter (IsBrokenEdge ds ·)).map LinkIssue.ofReference := by
    rw [← filter_references ds fun _ _ hx => hx.isBroken_iff]
    exact issues_filter_standings ds Standing.isBroken
  have hambiguous : (score ds).ambiguous =
      ((references ds).filter (IsAmbiguous ·)).map LinkIssue.ofReference := by
    rw [← filter_references ds fun _ _ hx => hx.eq_ambiguous_iff]
    exact issues_filter_standings ds (· == .ambiguous)
  have hadd : (score ds).totalEdges =
      (score ds).validEdges + (score ds).brokenEdges + (score ds).ambiguousEdges := by
    show _ = _ + (score ds).broken.length + (score ds).ambiguous.length
    rw [htotal, hvalid, hbroken, hambiguous, List.length_map, List.length_map,
      ← List.countP_eq_length_filter, ← List.countP_eq_length_filter]
    exact Reference.length_eq_countP_add ds (references ds)
  exact
    { totalNodes := rfl
      totalEdges := htotal
      exactly_one := fun r _ => Reference.classes ds r
      validEdges := hvalid
      broken := hbroken
      brokenEdges := rfl
      ambiguous := hambiguous
      ambiguousEdges := rfl
      totalEdges_eq_add := hadd
      total_strategyCounts := by
        rw [strategyCounts_score, Tally.total_ofNames, List.length_map, htotal]
      ascending_orphans := Ids.ascending_ofList _
      mem_orphans := by
        intro id
        rw [mem_orphans_iff]
        refine exists_congr fun d => and_congr_right fun hd => ?_
        rw [notMem_connectedIds_iff hnodup hd, and_comm]
      connectedNodes_add := by
        rw [length_orphans hnodup]
        show (ds.filter ((connectedIds ds).contains ·.id)).length + _ = ds.length
        exact (List.length_eq_length_filter_add _).symm }

/-- Marks that contradict the strategy, a path of code that is also an id, a target outside and a
    document that refers to itself. -/
theorem classifies_score_mixed :
    let toB : Reference := { (default : Reference) with target := some "b", isValid := true }
    let toZ : Reference := { (default : Reference) with target := some "z", isValid := true }
    let toC : Reference := { (default : Reference) with target := some "c", isValid := true }
    let a : Document := { (default : Document) with
      id := "a"
      references := [{ toB with strategy := some .ambiguous }, { toB with kind := .code }, toZ] }
    let b : Document := { (default : Document) with id := "b" }
    let c : Document := { (default : Document) with id := "c", references := [toC] }
    let rep := score [a, b, c]
    rep.Classifies [a, b, c] ∧ rep.orphans = ["b"] ∧
      (rep.validEdges, rep.brokenEdges, rep.ambiguousEdges) = (2, 1, 1) := by
  intro toB toZ toC a b c rep
  exact ⟨classifies_score [a, b, c] (by decide), by decide, by decide⟩

end Health

end LinkAtlas
