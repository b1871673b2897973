import LinkAtlas.Proofs.Components

namespace LinkAtlas

/-!
# Repairing a reference

When a reference to a document that led nowhere comes to lead to a document of the corpus, the report
gets better, and by how much is known: one reference more is valid, the documents at its two ends are
no orphans, and two components become one, unless the two documents were connected already.

* `Health.componentCount_append_of_eq`, `Health.componentCount_append_of_ne` — what one more edge does
  to the number of components;
* `Health.Spot` — a place for a reference in a corpus, `Health.exists_fill_eq` — each reference
  stands at one;
* `Health.mem_connectedIds_fill`, `Health.mem_edges_fill` — what a reference at a place adds to the
  connected ids and to the edges;
* `Health.mem_orphans_fill`, `Health.componentCount_fill` — so what it does to orphans and components;
* `Health.validEdges_fill`, `Health.failures_fill`, `Health.connectedNodes_eq_card` — and what it
  does to the figures;
* `Report.Repairs`, `Health.repairs_fill`, `Health.score_repairs` — the reports before and after a
  repair.
-/

/-- What the reports before and after a repair say of each other: as many documents and references,
    one valid reference more, one that is broken or ambiguous less. The two ends of the repaired
    reference are no orphans and all other orphans are left. At most two components are joined. -/
structure Report.Repairs (rep new : Report) (source target : String) : Prop where
  totalNodes : new.totalNodes = rep.totalNodes
  totalEdges : new.totalEdges = rep.totalEdges
  validEdges : new.validEdges = rep.validEdges + 1
  failures : new.brokenEdges + new.ambiguousEdges + 1 = rep.brokenEdges + rep.ambiguousEdges
  mem_orphans : ∀ id, id ∈ new.orphans ↔ id ∈ rep.orphans ∧ id ≠ source ∧ id ≠ target
  le_connectedNodes : rep.connectedNodes ≤ new.connectedNodes
  connectedNodes_le : new.connectedNodes ≤ rep.connectedNodes + 2
  componentCount : new.componentCount = rep.componentCount ∨
    new.componentCount + 1 = rep.componentCount

/-- A reference to a document that is settled with an id leads there. -/
theorem Reference.linksTo_settle {ds : List Document} {r : Reference} {s : Strategy}
    {target : String} (hkind : r.kind ≠ .code) (hs : s.isFailure = false)
    (htarget : target ∈ ds.map (·.id)) : (r.settle (.found s target)).LinksTo ds target := by
  have hfound : (r.settle (.found s target)).target = some target := by
    simp [settle, Outcome.found, hs]
  have hvalid : (r.settle (.found s target)).isValid = true :=
    (settle_isValid_iff r _).mpr (by simp [hfound])
  have hambiguous : ¬ (r.settle (.found s target)).IsAmbiguous := by
    rintro heq
    obtain rfl : s = .ambiguous := Option.some.inj heq
    exact absurd hs (by decide)
  exact ⟨⟨hambiguous, hvalid, target, hfound, .inr htarget⟩, hkind, hfound⟩

namespace Health

/-! ### One more edge -/

section Edge

variable {n : Nat} {es es' : List Edge} {e : Edge}

/-- An edge between vertices of one label changes no label. -/
theorem merge_of_eq {ls : List Nat} (h : labelOf ls e.1 = labelOf ls e.2) : merge ls e = ls := by
  have hid : ∀ l ∈ ls, (if l = labelOf ls e.2 then labelOf ls e.1 else l) = l := by
    intro l _
    rw [h]
    split
    · rename_i hl
      exact hl.symm
    · rfl
  exact (List.map_congr_left hid).trans (List.map_id ls)

/-- An edge between two classes takes away the label of its second end, and no other one. -/
theorem toFinset_merge {ls : List Nat} (h₁ : labelOf ls e.1 ∈ ls)
    (h : labelOf ls e.1 ≠ labelOf ls e.2) :
    (merge ls e).toFinset = ls.toFinset.erase (labelOf ls e.2) := by
  ext l
  simp only [merge, List.mem_toFinset, List.mem_map, Finset.mem_erase]
  constructor
  · rintro ⟨k, hk, rfl⟩
    split
    · exact ⟨h, h₁⟩
    · rename_i hne
      exact ⟨hne, hk⟩
  · rintro ⟨hne, hl⟩
    exact ⟨l, hl, if_neg hne⟩

/-- The labels after one edge more are those before it, merged along the edge. -/
theorem labels_append_singleton : labels n (es ++ [e]) = merge (labels n es) e := by
  rw [labels, List.foldl_append]
  rfl

/-- An edge within a class leaves the number of components. -/
theorem componentCount_append_of_eq
    (h : labelOf (labels n es) e.1 = labelOf (labels n es) e.2) :
    componentCount n (es ++ [e]) = componentCount n es := by
  rw [componentCount, labels_append_singleton, merge_of_eq h, componentCount]

/-- An edge between two classes lowers it by one. -/
theorem componentCount_append_of_ne (h₁ : e.1 < n) (h₂ : e.2 < n)
    (h : labelOf (labels n es) e.1 ≠ labelOf (labels n es) e.2) :
    componentCount n (es ++ [e]) + 1 = componentCount n es := by
  have hmem {v : Nat} (hv : v < n) : labelOf (labels n es) v ∈ labels n es :=
    mem_labels_iff.mpr ⟨⟨v, hv⟩, rfl⟩
  rw [componentCount, componentCount, length_eraseDups, length_eraseDups, labels_append_singleton,
    toFinset_merge (hmem h₁) h]
  exact Finset.card_erase_add_one (List.mem_toFinset.mpr (hmem h₂))

/-- The components do not depend on the order of the edges, nor on repeated ones. -/
theorem componentCount_congr (hes : ∀ e ∈ es, e.1 < n ∧ e.2 < n) (h : ∀ e, e ∈ es ↔ e ∈ es') :
    componentCount n es = componentCount n es' := by
  have hes' : ∀ e ∈ es', e.1 < n ∧ e.2 < n := fun e he => hes e ((h e).mpr he)
  have hjoined : Joined (n := n) es = Joined es' := by
    funext u v
    exact propext (h _)
  rw [componentCount_eq_card hes, componentCount_eq_card hes', hjoined]

end Edge

/-! ### Places for a reference -/

/-- A place for a reference in a corpus: the document it stands in, the references before and behind
    it there, and the documents before and behind that one. -/
structure Spot where
  before : List Document
  document : Document
  earlier : List Reference
  later : List Reference
  after : List Document

namespace Spot

/-- The corpus with a reference at the place. -/
def fill (x : Spot) (r : Reference) : List Document :=
  x.before ++ x.document.withReferences (x.earlier ++ r :: x.later) :: x.after

/-- The references that stand elsewhere. -/
def others (x : Spot) : List Reference :=
  references x.before ++ x.earlier ++ (x.later ++ references x.after)

end Spot

/-- Every reference of a corpus stands at a place. -/
theorem exists_fill_eq {ds : List Document} {d : Document} (hd : d ∈ ds) {r : Reference}
    (hr : r ∈ d.references) : ∃ x : Spot, x.document = d ∧ x.fill r = ds := by
  obtain ⟨before, after, rfl⟩ := List.append_of_mem hd
  obtain ⟨earlier, later, hreferences⟩ := List.append_of_mem hr
  refine ⟨⟨before, d, earlier, later, after⟩, rfl, ?_⟩
  rw [Spot.fill, ← hreferences]
  rfl

section Fill

variable (x : Spot) (r r' : Reference)

/-- Whatever reference is put in a place, the ids of the corpus are the same. -/
theorem map_id_fill : (x.fill r').map (·.id) = (x.fill r).map (·.id) := by
  simp [Spot.fill, Document.withReferences]

/-- The document with the place is one of the corpus. -/
theorem mem_ids_fill : x.document.id ∈ (x.fill r).map (·.id) := by
  simp [Spot.fill, Document.withReferences]

/-- Whatever reference is put in a place, there are as many documents. -/
theorem length_fill : (x.fill r').length = (x.fill r).length := by
  simp [Spot.fill]

/-- Whatever reference is put in a place, the corpus has the same ids. -/
theorem isMember_fill : isMember (x.fill r') = isMember (x.fill r) := by
  funext id
  rw [Bool.eq_iff_iff, isMember_iff, isMember_iff, map_id_fill x r r']

/-- Which references are valid, and what they lead to, hangs on the ids alone. -/
theorem isValidEdge_fill (q : Reference) :
    q.IsValidEdge (x.fill r') ↔ q.IsValidEdge (x.fill r) :=
  q.isValidEdge_congr fun id => by rw [map_id_fill x r r']

/-- What the other references link to does not hang on the one in the place. -/
theorem linksTo_fill (q : Reference) (id : String) :
    q.LinksTo (x.fill r') id ↔ q.LinksTo (x.fill r) id :=
  q.linksTo_congr (fun id => by rw [map_id_fill x r r']) id

/-- The documents keep their positions. -/
theorem position?_fill (id : String) : position? (x.fill r') id = position? (x.fill r) id := by
  have hids (ds : List Document) : position? ds id =
      ((ds.map (·.id)).reverse.findIdx? (· == id)).map fun k => (ds.map (·.id)).length - 1 - k := by
    rw [position?, ← List.map_reverse, List.findIdx?_map, List.length_map]
    rfl
  rw [hids, hids, map_id_fill x r r']

/-- The references of the corpus are the one in the place and those that stand elsewhere. -/
theorem references_fill : (references (x.fill r)).Perm (r :: x.others) := by
  have hfill : references (x.fill r) =
      (references x.before ++ x.earlier) ++ r :: (x.later ++ references x.after) := by
    simp [references, Spot.fill, Document.withReferences]
  rw [hfill]
  exact List.perm_middle

/-- The number of references of some class is that of the others, and the reference at the place. -/
theorem length_filter_standings_fill (p : Standing → Bool) :
    ((standings (x.fill r)).filter (p ·.2.2)).length =
      x.others.countP (fun q => p (Standing.of (isMember (x.fill r)) q)) +
        if p (Standing.of (isMember (x.fill r)) r) then 1 else 0 := by
  rw [length_filter_standings, ← List.countP_eq_length_filter, (references_fill x r).countP_eq,
    List.countP_cons]

/-- It changes with the reference there alone. -/
theorem length_filter_standings_exchange (p : Standing → Bool) :
    ((standings (x.fill r')).filter (p ·.2.2)).length +
        (if p (Standing.of (isMember (x.fill r)) r) then 1 else 0) =
      ((standings (x.fill r)).filter (p ·.2.2)).length +
        if p (Standing.of (isMember (x.fill r)) r') then 1 else 0 := by
  rw [length_filter_standings_fill x r', length_filter_standings_fill x r, isMember_fill x r r']
  exact Nat.add_right_comm ..

variable {x r r'}

/-- What does not hold of the reference at the place holds of some reference, once that one is
    exchanged, if it did before or holds of the new one. -/
theorem exists_fill_iff {p : String → Reference → Prop} (hr : ¬ p x.document.id r) :
    (∃ d ∈ x.fill r', ∃ q ∈ d.references, p d.id q) ↔
      (∃ d ∈ x.fill r, ∃ q ∈ d.references, p d.id q) ∨ p x.document.id r' := by
  simp only [Spot.fill, Document.withReferences, List.mem_append, List.mem_cons, or_and_right,
    exists_or, exists_eq_left, hr, false_or]
  exact iff_of_eq (by ac_rfl)

end Fill

/-! ### A reference that comes to lead to a document -/

section Fill

variable {x : Spot} {r r' : Reference} {target : String}
variable (hr : ¬ r.IsValidEdge (x.fill r)) (hr' : r'.LinksTo (x.fill r) target)
include hr hr'

omit hr in
/-- The repaired reference links to its target and to nothing else. -/
theorem linksTo_iff {id : String} : r'.LinksTo (x.fill r) id ↔ id = target := by
  constructor
  · exact fun h => Option.some.inj (h.2.2.symm.trans hr'.2.2)
  · rintro rfl
    exact hr'

/-- The ids at both ends are connected, and all that were before. -/
theorem mem_connectedIds_fill {id : String} :
    id ∈ connectedIds (x.fill r') ↔
      id ∈ connectedIds (x.fill r) ∨ id = x.document.id ∨ id = target := by
  rw [mem_connectedIds_iff, mem_connectedIds_iff]
  simp only [isValidEdge_fill x r r', linksTo_fill x r r']
  -- The old reference connected nothing, so taking it away takes no id away.
  have hplace : ¬ (r.IsValidEdge (x.fill r) ∧ x.document.id = id ∨ r.LinksTo (x.fill r) id) := by
    rintro (⟨hvalid, -⟩ | hlinks)
    · exact hr hvalid
    · exact hr hlinks.1
  rw [exists_fill_iff (p := fun source q =>
    q.IsValidEdge (x.fill r) ∧ source = id ∨ q.LinksTo (x.fill r) id) hplace]
  rw [and_iff_right hr'.1, linksTo_iff hr', eq_comm (a := x.document.id)]

/-- There is one edge more. -/
theorem mem_edges_fill {e : Edge} :
    e ∈ edges (x.fill r') ↔ e ∈ edges (x.fill r) ∨
      position? (x.fill r) x.document.id = some e.1 ∧ position? (x.fill r) target = some e.2 := by
  rw [mem_edges_iff, mem_edges_iff]
  simp only [linksTo_fill x r r', position?_fill x r r']
  have hplace : ¬ ∃ id, r.LinksTo (x.fill r) id ∧
      position? (x.fill r) x.document.id = some e.1 ∧ position? (x.fill r) id = some e.2 := by
    rintro ⟨id, hlinks, -⟩
    exact hr hlinks.1
  rw [exists_fill_iff (p := fun source q => ∃ id, q.LinksTo (x.fill r) id ∧
    position? (x.fill r) source = some e.1 ∧ position? (x.fill r) id = some e.2) hplace]
  simp only [linksTo_iff hr', exists_eq_left]

/-- The documents at both ends are no orphans, and no orphans are new. -/
theorem mem_orphans_fill {id : String} :
    id ∈ (score (x.fill r')).orphans ↔
      id ∈ (score (x.fill r)).orphans ∧ id ≠ x.document.id ∧ id ≠ target := by
  have horphan (ds : List Document) :
      id ∈ (score ds).orphans ↔ id ∈ ds.map (·.id) ∧ id ∉ connectedIds ds := by
    rw [mem_orphans_iff, List.mem_map]
    constructor
    · rintro ⟨d, hd, hno, rfl⟩
      exact ⟨⟨d, hd, rfl⟩, hno⟩
    · rintro ⟨⟨d, hd, rfl⟩, hno⟩
      exact ⟨d, hd, hno, rfl⟩
  rw [horphan, horphan, map_id_fill x r r', mem_connectedIds_fill hr hr', not_or, not_or, and_assoc]

/-- Two components become one, unless the documents at both ends were connected before. -/
theorem componentCount_fill :
    let source : Member (x.fill r) := ⟨x.document.id, mem_ids_fill x r⟩
    let goal : Member (x.fill r) := ⟨target, hr'.mem⟩
    (Relation.EqvGen (Linked (x.fill r)) source goal →
      (score (x.fill r')).componentCount = (score (x.fill r)).componentCount) ∧
    (¬ Relation.EqvGen (Linked (x.fill r)) source goal →
      (score (x.fill r')).componentCount + 1 = (score (x.fill r)).componentCount) := by
  intro source goal
  let e : Edge := (owner source, owner goal)
  have hcount : (score (x.fill r')).componentCount =
      componentCount (x.fill r).length (edges (x.fill r) ++ [e]) := by
    show componentCount (x.fill r').length (edges (x.fill r')) = _
    rw [length_fill x r r']
    apply componentCount_congr
    · intro e' he'
      rw [← length_fill x r r']
      exact mem_edges_lt e' he'
    · intro e'
      rw [mem_edges_fill hr hr', List.mem_append, List.mem_singleton]
      refine or_congr_right ?_
      rw [position?_eq_owner source, position?_eq_owner goal, Prod.ext_iff]
      simp [e, eq_comm]
  -- The ends of the new edge have one label when the documents are connected.
  have hlabel : labelOf (labels (x.fill r).length (edges (x.fill r))) e.1 =
        labelOf (labels (x.fill r).length (edges (x.fill r))) e.2 ↔
      Relation.EqvGen (Linked (x.fill r)) source goal := by
    rw [labelOf_labels_eq_iff mem_edges_lt, joined_edges, eqvGen_map_iff owner_injective]
  rw [hcount, ← hlabel]
  exact ⟨componentCount_append_of_eq,
    componentCount_append_of_ne (owner source).isLt (owner goal).isLt⟩

end Fill

/-! ### The report after a repair -/

/-- Without repeated ids, there are as many connected documents as connected ids. -/
theorem connectedNodes_eq_card {ds : List Document} (hnodup : (ds.map (·.id)).Nodup) :
    (score ds).connectedNodes = (connectedIds ds).toFinset.card := by
  show (ds.filter ((connectedIds ds).contains ·.id)).length = _
  -- No id is repeated, so there are as many connected documents as connected ids.
  have hsub : ((ds.filter ((connectedIds ds).contains ·.id)).map (·.id)).Nodup :=
    hnodup.sublist (List.filter_sublist.map _)
  rw [← List.length_map (·.id), ← List.toFinset_card_of_nodup hsub]
  congr 1
  ext id
  simp only [List.mem_toFinset, List.mem_map, List.mem_filter, List.contains_iff_mem]
  constructor
  · rintro ⟨d, ⟨-, hid⟩, rfl⟩
    exact hid
  · intro hid
    obtain ⟨d, hd, rfl⟩ := List.mem_map.mp (mem_ids_of_mem_connectedIds hid)
    exact ⟨d, ⟨hd, hid⟩, rfl⟩

/-- A standing that is no edge is that of one issue. -/
theorem Standing.isBroken_add_ambiguous {s : Standing} (h : ¬ s.isEdge) :
    (if s.isBroken then 1 else 0) + (if s == .ambiguous then 1 else 0) = 1 := by
  cases s with
  | ambiguous | broken | outside => rfl
  | code | linked => exact absurd rfl h

section Report

variable {x : Spot} {r r' : Reference} {target : String}
variable (hr : ¬ r.IsValidEdge (x.fill r)) (hr' : r'.LinksTo (x.fill r) target)
include hr hr'

omit hr' in
/-- Before it was repaired, the reference was no edge. -/
theorem not_isEdge_standing : ¬ (Standing.of (isMember (x.fill r)) r).isEdge := by
  rwa [(describes_standing (x.fill r) r).isEdge_iff]

omit hr in
/-- Afterwards it is one to its target. -/
theorem standing_eq_linked : Standing.of (isMember (x.fill r)) r' = .linked target :=
  (describes_standing (x.fill r) r').eq_linked_iff.mpr hr'

/-- There is one valid reference more. -/
theorem validEdges_fill : (score (x.fill r')).validEdges = (score (x.fill r)).validEdges + 1 := by
  have hvalid := length_filter_standings_exchange x r r' Standing.isEdge
  rwa [if_neg (not_isEdge_standing hr), standing_eq_linked hr'] at hvalid

/-- There is one issue less. -/
theorem failures_fill :
    (score (x.fill r')).brokenEdges + (score (x.fill r')).ambiguousEdges + 1 =
      (score (x.fill r)).brokenEdges + (score (x.fill r)).ambiguousEdges := by
  have hbrokenEdges (ds : List Document) :
      (score ds).brokenEdges = ((standings ds).filter (·.2.2.isBroken)).length := List.length_map _
  have hambiguousEdges (ds : List Document) :
      (score ds).ambiguousEdges = ((standings ds).filter (·.2.2 == .ambiguous)).length :=
    List.length_map _
  have hone := Standing.isBroken_add_ambiguous (not_isEdge_standing hr)
  have hbroken := length_filter_standings_exchange x r r' Standing.isBroken
  have hambiguous := length_filter_standings_exchange x r r' (· == .ambiguous)
  rw [standing_eq_linked hr'] at hbroken hambiguous
  -- The new reference is neither.
  change _ = _ + 0 at hbroken hambiguous
  rw [hbrokenEdges, hbrokenEdges, hambiguousEdges, hambiguousEdges]
  omega

/-- The connected ids are those from before and the two ends. -/
theorem connectedIds_toFinset_fill :
    (connectedIds (x.fill r')).toFinset =
      insert x.document.id (insert target (connectedIds (x.fill r)).toFinset) := by
  ext id
  simp only [List.mem_toFinset, Finset.mem_insert, mem_connectedIds_fill hr hr']
  exact or_rotate

/-- A reference that was no valid edge and comes to lead to a document repairs the report. -/
theorem repairs_fill (hnodup : ((x.fill r).map (·.id)).Nodup) :
    (score (x.fill r)).Repairs (score (x.fill r')) x.document.id target := by
  have hnodup' : ((x.fill r').map (·.id)).Nodup := by rwa [map_id_fill x r r']
  have htotal : (score (x.fill r')).totalEdges = (score (x.fill r)).totalEdges := by
    show (standings (x.fill r')).length = (standings (x.fill r)).length
    simpa using length_filter_standings_exchange x r r' fun _ => true
  have hconnected := connectedNodes_eq_card hnodup
  have hconnected' := connectedNodes_eq_card hnodup'
  rw [connectedIds_toFinset_fill hr hr'] at hconnected'
  obtain ⟨hsame, hjoin⟩ := componentCount_fill hr hr'
  exact
    { totalNodes := length_fill x r r'
      totalEdges := htotal
      validEdges := validEdges_fill hr hr'
      failures := failures_fill hr hr'
      mem_orphans := fun _ => mem_orphans_fill hr hr'
      le_connectedNodes := by
        rw [hconnected, hconnected']
        exact Finset.card_le_card
          ((Finset.subset_insert ..).trans (Finset.subset_insert ..))
      connectedNodes_le := by
        rw [hconnected, hconnected']
        -- The reference adds its own document and its target to the connected ids, and either may
        -- be among them already.
        calc _ ≤ (insert target (connectedIds (x.fill r)).toFinset).card + 1 :=
              Finset.card_insert_le ..
          _ ≤ (connectedIds (x.fill r)).toFinset.card + 1 + 1 :=
              Nat.add_le_add_right (Finset.card_insert_le ..) 1
      componentCount := by
        -- Either the two ends hung together before, or the new edge joins two components.
        by_cases h : Relation.EqvGen (Linked (x.fill r)) ⟨x.document.id, mem_ids_fill x r⟩
          ⟨target, hr'.mem⟩
        · exact .inl (hsame h)
        · exact .inr (hjoin h) }

end Report

/-- When a reference to a document that is broken or ambiguous, wherever it stands in a corpus without
    repeated ids, is settled with any id of the corpus, the report is repaired. -/
theorem score_repairs (x : Spot) (r : Reference) (hnodup : ((x.fill r).map (·.id)).Nodup)
    (hkind : r.kind ≠ .code) (hr : r.IsAmbiguous ∨ r.IsBrokenEdge (x.fill r))
    (s : Strategy) (hs : s.isFailure = false)
    (target : String) (htarget : target ∈ (x.fill r).map (·.id)) :
    (score (x.fill r)).Repairs (score (x.fill (r.settle (.found s target)))) x.document.id target :=
  repairs_fill (Reference.not_isValidEdge_iff.mpr hr)
    (Reference.linksTo_settle hkind hs htarget) hnodup

/-- An ambiguous reference that is settled with an orphan joins it to the two documents that were
    connected, one that is settled with its own document joins nothing. -/
theorem score_repairs_orphan :
    let toB : Reference := { (default : Reference) with target := some "b", isValid := true }
    let r : Reference := { toB with strategy := some .ambiguous }
    let a : Document := { (default : Document) with id := "a" }
    let b : Document := { (default : Document) with id := "b" }
    let c : Document := { (default : Document) with id := "c" }
    let x : Spot := ⟨[b], a, [toB], [], [c]⟩
    let rep := score (x.fill r)
    let toOrphan := score (x.fill (r.settle (.found .byAlias "c")))
    let toSelf := score (x.fill (r.settle (.found .byId "a")))
    rep.Repairs toOrphan "a" "c" ∧ rep.Repairs toSelf "a" "a" ∧
      [rep, toOrphan, toSelf].map (fun p => (p.orphans, p.connectedNodes, p.componentCount)) =
        [(["c"], 2, 2), ([], 3, 1), (["c"], 2, 2)] := by
  intro toB r a b c x rep toOrphan toSelf
  have hnodup : ((x.fill r).map (·.id)).Nodup := by decide
  have hkind : r.kind ≠ .code := by decide
  have hr : r.IsAmbiguous ∨ r.IsBrokenEdge (x.fill r) := .inl rfl
  exact ⟨score_repairs x r hnodup hkind hr .byAlias rfl "c" (by decide),
    score_repairs x r hnodup hkind hr .byId rfl "a" (by decide), by decide +kernel⟩

end Health

end LinkAtlas
