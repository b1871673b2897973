import LinkAtlas.Proofs.Components

namespace LinkAtlas

/-!
# The order of documents does not matter for a report

The same documents in another order give the same figures, and the same issues in another order. This
is so even when ids are repeated. Which of several documents with one id its edges are drawn to then
changes with the order, but each of the others is a component of its own, and there are as many of
them.

* `Report.SameUpToOrder` — two reports that differ in the order of their issues at most;
* `Health.standings_perm`, `Health.connectedIds_perm` — the same references have the same standings
  and connect the same ids;
* `Health.componentCount_perm` — the components are as many;
* `Health.score_perm` — so the reports are the same up to order.
-/

/-- Two reports that have all figures in common, and their issues up to order. -/
structure Report.SameUpToOrder (rep rep' : Report) : Prop where
  totalNodes : rep.totalNodes = rep'.totalNodes
  totalEdges : rep.totalEdges = rep'.totalEdges
  validEdges : rep.validEdges = rep'.validEdges
  brokenEdges : rep.brokenEdges = rep'.brokenEdges
  ambiguousEdges : rep.ambiguousEdges = rep'.ambiguousEdges
  codeReferenceEdges : rep.codeReferenceEdges = rep'.codeReferenceEdges
  connectedNodes : rep.connectedNodes = rep'.connectedNodes
  orphans : rep.orphans = rep'.orphans
  linkHealth : rep.linkHealth = rep'.linkHealth
  connectivity : rep.connectivity = rep'.connectivity
  overall : rep.overall = rep'.overall
  tier : rep.tier = rep'.tier
  componentCount : rep.componentCount = rep'.componentCount
  strategyCounts : rep.strategyCounts = rep'.strategyCounts
  broken : rep.broken.Perm rep'.broken
  ambiguous : rep.ambiguous.Perm rep'.ambiguous

namespace Health

section Order

variable {ds ds' : List Document} (h : ds.Perm ds')
include h

/-! ### References -/

/-- Another order of documents has the same ids. -/
theorem mem_ids_perm (id : String) : id ∈ ds.map (·.id) ↔ id ∈ ds'.map (·.id) := (h.map _).mem_iff

/-- So the same ids count as members. -/
theorem isMember_perm : isMember ds = isMember ds' := by
  funext id
  rw [Bool.eq_iff_iff, isMember_iff, isMember_iff]
  exact mem_ids_perm h id

/-- The same references have the same standings. -/
theorem standings_perm : (standings ds).Perm (standings ds') := by
  rw [standings, standings, isMember_perm h]
  exact h.flatMap_right _

/-- The same ids are connected. -/
theorem connectedIds_perm : (connectedIds ds).Perm (connectedIds ds') :=
  (standings_perm h).flatMap_right _

/-! ### Components -/

/-- The ids of the corpus, as ids of the same documents in another order. -/
def sameIds : Member ds ≃ Member ds' := Equiv.subtypeEquivRight (mem_ids_perm h)

/-- The same ids are linked. -/
theorem linked_perm : Relation.Map (Linked ds) (sameIds h) (sameIds h) = Linked ds' := by
  have hlinked (a b : Member ds) : Linked ds a b ↔ Linked ds' (sameIds h a) (sameIds h b) :=
    exists_congr fun d => and_congr h.mem_iff <| exists_congr fun r => and_congr_right fun _ =>
      and_congr_right fun _ => Reference.linksTo_congr (mem_ids_perm h) r b
  funext a' b'
  refine propext ⟨?_, ?_⟩
  · rintro ⟨a, b, hab, rfl, rfl⟩
    exact (hlinked a b).mp hab
  · intro hab
    obtain ⟨a, rfl⟩ := (sameIds h).surjective a'
    obtain ⟨b, rfl⟩ := (sameIds h).surjective b'
    exact ⟨a, b, (hlinked a b).mpr hab, rfl, rfl⟩

/-- There are as many components. The documents that do not own their id are others perhaps, but they
    are as many. -/
theorem componentCount_perm :
    componentCount ds.length (edges ds) = componentCount ds'.length (edges ds') := by
  have hadd := componentCount_edges_add ds
  have hadd' := componentCount_edges_add ds'
  have hclasses := card_quotient_map (r := Linked ds) (sameIds h).injective
  rw [linked_perm h] at hclasses
  have hlength : ds.length = ds'.length := h.length_eq
  omega

/-! ### The report -/

/-- The number of references of some class does not depend on the order. -/
theorem length_filter_standings_perm (p : Standing → Bool) :
    ((standings ds).filter (p ·.2.2)).length = ((standings ds').filter (p ·.2.2)).length :=
  ((standings_perm h).filter _).length_eq

/-- The issues of some class are the same up to order. -/
theorem issues_perm (p : Standing → Bool) :
    (((standings ds).filter (p ·.2.2)).map fun x => LinkIssue.ofReference x.2.1).Perm
      (((standings ds').filter (p ·.2.2)).map fun x => LinkIssue.ofReference x.2.1) :=
  ((standings_perm h).filter _).map _

/-- The orphans come in the order of their ids, not in that of the documents. -/
theorem orphans_perm : (score ds).orphans = (score ds').orphans := by
  apply Ids.eq_of_mem_iff (Ids.ascending_ofList _) (Ids.ascending_ofList _)
  intro id
  show id ∈ (score ds).orphans ↔ id ∈ (score ds').orphans
  simp only [mem_orphans_iff, h.mem_iff, (connectedIds_perm h).mem_iff]

/-- As many documents are connected. -/
theorem connectedNodes_perm : (score ds).connectedNodes = (score ds').connectedNodes := by
  show (ds.filter ((connectedIds ds).contains ·.id)).length =
    (ds'.filter ((connectedIds ds').contains ·.id)).length
  have hsame : (fun d : Document => (connectedIds ds).contains d.id) =
      fun d => (connectedIds ds').contains d.id := by
    funext d
    exact (connectedIds_perm h).contains_eq
  rw [hsame]
  exact (h.filter _).length_eq

/-- The report on documents in another order, with or without repeated ids, has the same figures, and
    the same issues up to order. -/
theorem score_perm : (score ds).SameUpToOrder (score ds') := by
  have htotal : (score ds).totalEdges = (score ds').totalEdges := (standings_perm h).length_eq
  have hvalid : (score ds).validEdges = (score ds').validEdges :=
    length_filter_standings_perm h Standing.isEdge
  have hbroken : (score ds).broken.Perm (score ds').broken := issues_perm h Standing.isBroken
  have hambiguous : (score ds).ambiguous.Perm (score ds').ambiguous :=
    issues_perm h (· == .ambiguous)
  have hlink : (score ds).linkHealth = (score ds').linkHealth := by
    show percentage (score ds).validEdges (score ds).totalEdges = percentage _ _
    rw [hvalid, htotal]
    rfl
  have hconnectivity : (score ds).connectivity = (score ds').connectivity := by
    show percentage (score ds).connectedNodes ds.length = percentage _ _
    rw [connectedNodes_perm h, h.length_eq]
    rfl
  have hoverall : (score ds).overall = (score ds').overall := by
    show linkWeight * (score ds).linkHealth + connectivityWeight * (score ds).connectivity = _
    rw [hlink, hconnectivity]
    rfl
  exact
    { totalNodes := h.length_eq
      totalEdges := htotal
      validEdges := hvalid
      brokenEdges := hbroken.length_eq
      ambiguousEdges := hambiguous.length_eq
      codeReferenceEdges := length_filter_standings_perm h (· == .code)
      connectedNodes := connectedNodes_perm h
      orphans := orphans_perm h
      linkHealth := hlink
      connectivity := hconnectivity
      overall := hoverall
      tier := congrArg Tier.ofScore hoverall
      componentCount := componentCount_perm h
      strategyCounts := Tally.ofNames_perm ((standings_perm h).map _)
      broken := hbroken
      ambiguous := hambiguous }

end Order

/-- Two documents with one id, of which one has the edge of the corpus and the other one owns the id
    before the order is turned round. The issues of the two come in another order then. -/
theorem score_perm_shared_id :
    let toM : Reference := { (default : Reference) with target := some "m", isValid := true }
    let toX : Reference := { (default : Reference) with rawTarget := "x" }
    let toY : Reference := { (default : Reference) with rawTarget := "y" }
    let a : Document := { (default : Document) with id := "n", references := [toM, toX] }
    let b : Document := { (default : Document) with id := "n", references := [toY] }
    let m : Document := { (default : Document) with id := "m" }
    let rep := score [a, b, m]
    let rep' := score [m, b, a]
    [a, b, m].Perm [m, b, a] ∧ rep.SameUpToOrder rep' ∧
      edges [a, b, m] = [(1, 2)] ∧ edges [m, b, a] = [(2, 0)] ∧ rep'.componentCount = 2 ∧
      rep.broken ≠ rep'.broken := by
  intro toM toX toY a b m rep rep'
  have hperm : [a, b, m].Perm [m, b, a] := by decide
  have hsame : rep.SameUpToOrder rep' := score_perm hperm
  have hcount : rep.componentCount = 2 := by decide +kernel
  exact ⟨hperm, hsame, by decide +kernel, by decide +kernel, hsame.componentCount ▸ hcount,
    by decide +kernel⟩

end Health

end LinkAtlas
