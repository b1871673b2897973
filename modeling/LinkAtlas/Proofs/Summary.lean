import LinkAtlas.Proofs.Lookup
import LinkAtlas.Proofs.Settlement
import LinkAtlas.Snapshot

namespace LinkAtlas

/-!
# Reports agree with what they summarize

A report classes every reference anew, by its fields and by the ids of the corpus. For references
that are settled against a catalog of the corpus this comes to their strategy.

* `Report.Summarizes` — what the figures of a report say of a list of references;
* `Health.filter_standings` — the references that a figure is about, in the order of the corpus;
* `Health.countOf_score` — the numbers by strategy count the references with the strategy;
* `Health.Standing.Matches`, `Reference.SettledIn.matches_standing` — the standing of a settled
  reference is that of its strategy;
* `Health.summarizes_score` — hence the report on settled references summarizes them;
* `Snapshot.perm_byId`, `Snapshot.pairwise_byId` — the documents of a snapshot and their order;
* `Snapshot.summarizes_assemble` — and so does the report of every snapshot that is assembled.
-/

/-- The number that a report has for the name of a strategy. -/
def Report.countOf (rep : Report) (name : String) : Nat := (rep.strategyCounts.get? name).getD 0

/-- What the figures of a report say of references that are all settled: how many there are, how
    many are valid, how many have each strategy, and which are no valid edges. -/
structure Report.Summarizes (rep : Report) (rs : List Reference) : Prop where
  total : rep.totalEdges = rs.length
  valid : rep.validEdges = rs.countP (·.isValid)
  valid_eq_add : rep.validEdges = rep.countOf "id" + rep.countOf "path" + rep.countOf "alias" +
    rep.countOf "fuzzy" + rep.countOf "code-reference"
  ambiguousEdges : rep.ambiguousEdges = rep.countOf "ambiguous"
  brokenEdges : rep.brokenEdges = rep.countOf "broken"
  codeReferenceEdges : rep.codeReferenceEdges = rep.countOf "code-reference"
  countOf_name : ∀ s : Strategy, rep.countOf s.name = rs.countP (·.strategy == some s)
  unresolved : rep.strategyCounts.get? Health.unresolvedKey = none
  broken : rep.broken = (rs.filter (·.strategy == some .broken)).map LinkIssue.ofReference
  ambiguous : rep.ambiguous = (rs.filter (·.strategy == some .ambiguous)).map LinkIssue.ofReference

/-! ### References by strategy -/

/-- Strategies are told by their names. -/
theorem Strategy.name_inj {s t : Strategy} : s.name = t.name ↔ s = t := by
  constructor
  · intro h
    have hname := ofName?_name s
    rw [h, ofName?_name t] at hname
    exact (Option.some.inj hname).symm
  · exact congrArg name

namespace Health

/-- A reference is counted under the name of its strategy, and of no other. -/
theorem countKey_eq_name_iff {r : Reference} {s : Strategy} :
    countKey r = s.name ↔ r.strategy = some s := by
  unfold countKey
  cases r.strategy with
  | none => cases s <;> decide
  | some t => simp [Strategy.name_inj]

/-- A valid reference has one of the five strategies that find a target. -/
theorem countP_isValid {rs : List Reference}
    (h : ∀ r ∈ rs, ∃ s, r.strategy = some s ∧ r.isValid = !s.isFailure) :
    rs.countP (·.isValid) =
      rs.countP (·.strategy == some .byId) + rs.countP (·.strategy == some .byPath) +
        rs.countP (·.strategy == some .byAlias) + rs.countP (·.strategy == some .byTitle) +
        rs.countP (·.strategy == some .byCode) := by
  -- Each reference has one strategy, and the five that succeed are told apart.
  induction rs with
  | nil => rfl
  | cons r rs ih =>
    obtain ⟨s, hs, hvalid⟩ := h r List.mem_cons_self
    have ih := ih fun r' hr' => h r' (List.mem_cons_of_mem r hr')
    simp only [List.countP_cons, hs, hvalid, ih]
    cases s <;> simp [Strategy.isFailure] <;> omega

/-! ### The references of a corpus -/

/-- The references of a corpus, document by document. -/
def references (ds : List Document) : List Reference := ds.flatMap (·.references)

variable (ds : List Document)

/-- The references whose standing is of some class, in the order of the corpus. -/
theorem filter_standings (p : Standing → Bool) :
    ((standings ds).filter (p ·.2.2)).map (·.2.1) =
      (references ds).filter fun r => p (Standing.of (isMember ds) r) := by
  simp only [standings, references, List.filter_flatMap, List.map_flatMap, List.filter_map,
    List.map_map]
  exact List.flatMap_congr fun d _ => List.map_id _

/-- Every reference has one standing. -/
theorem map_standings : (standings ds).map (·.2.1) = references ds := by
  simpa using filter_standings ds fun _ => true

/-- Counting standings is counting references by their standing. -/
theorem length_filter_standings (p : Standing → Bool) :
    ((standings ds).filter (p ·.2.2)).length =
      ((references ds).filter fun r => p (Standing.of (isMember ds) r)).length := by
  rw [← filter_standings, List.length_map]

/-- Issues by standing are those of the references with the standing. -/
theorem issues_filter_standings (p : Standing → Bool) :
    ((standings ds).filter (p ·.2.2)).map (fun x => LinkIssue.ofReference x.2.1) =
      ((references ds).filter fun r => p (Standing.of (isMember ds) r)).map
        LinkIssue.ofReference := by
  rw [← filter_standings, List.map_map]
  rfl

/-- The report counts each reference under its key. -/
theorem strategyCounts_score :
    (score ds).strategyCounts = .ofNames ((references ds).map countKey) := by
  rw [← map_standings, List.map_map]
  rfl

/-- The number by strategy is that of the references with the strategy. -/
theorem countOf_score (s : Strategy) :
    (score ds).countOf s.name = (references ds).countP (·.strategy == some s) := by
  rw [Report.countOf, strategyCounts_score, Tally.get?_ofNames]
  have hcount : ((references ds).map countKey).count s.name =
      (references ds).countP (·.strategy == some s) := by
    rw [List.count, List.countP_map]
    refine List.countP_congr fun r _ => ?_
    simp [countKey_eq_name_iff]
  split
  · rw [hcount, Option.getD_some]
  · rename_i hno
    rw [← hcount, List.count_eq_zero_of_not_mem hno, Option.getD_none]

/-! ### Standing and strategy -/

/-- The standings that references with a strategy can have. -/
inductive Standing.Matches : Standing → Strategy → Prop where
  | ambiguous : Matches .ambiguous .ambiguous
  | broken : Matches .broken .broken
  | code : Matches .code .byCode
  | linked (target : String) {s : Strategy} (hs : s.isFailure = false) (hcode : s ≠ .byCode) :
      Matches (.linked target) s

namespace Standing.Matches

variable {x : Standing} {s : Strategy} (h : Matches x s)
include h

/-- A standing that matches a strategy is an edge unless the strategy is a failure. -/
theorem isEdge_eq : x.isEdge = !s.isFailure := by
  cases h with
  | ambiguous | broken | code => rfl
  | linked _ hs hcode => rw [hs]; rfl

/-- It is broken exactly if the strategy is. -/
theorem isBroken_eq : x.isBroken = (s == .broken) := by
  cases h with
  | ambiguous | broken | code => rfl
  | linked _ hs hcode => cases s <;> simp_all [isBroken, Strategy.isFailure]

/-- It is ambiguous exactly if the strategy is. -/
theorem beq_ambiguous_eq : (x == .ambiguous) = (s == .ambiguous) := by
  cases h with
  | ambiguous | broken | code => rfl
  | linked _ hs hcode => cases s <;> simp_all [Strategy.isFailure]

/-- It is one of code exactly if the strategy is. -/
theorem beq_code_eq : (x == .code) = (s == .byCode) := by
  cases h with
  | ambiguous | broken | code => rfl
  | linked _ hs hcode => cases s <;> simp_all [Strategy.isFailure]

end Standing.Matches

end Health

namespace Reference.SettledIn

variable {c : Catalog} {r : Reference} {s : Strategy} (h : SettledIn c r s)
include h

/-- A settled reference is counted by its strategy. -/
theorem beq_strategy_eq (t : Strategy) : (r.strategy == some t) = (s == t) := by
  rw [h.strategy_eq]
  rfl

/-- A settled reference is valid unless its strategy is a failure. -/
theorem isValid_eq : r.isValid = !s.isFailure := by
  have hiff : r.isValid = true ↔ s.isFailure = false := by
    rw [h.isValid_iff, h.target_iff, Strategy.isFailure_eq_false_iff]
  cases hs : s.isFailure <;> simpa [hs] using hiff

/-- The standing of a settled reference is one of its strategy, among documents that comprise those
    of the catalog: no valid reference to a document leads outside. -/
theorem matches_standing {isMember : String → Bool}
    (hmember : ∀ id k, c.findById? id = some k → isMember id = true) :
    (Health.Standing.of isMember r).Matches s := by
  have hvalid := h.isValid_eq
  unfold Health.Standing.of
  rw [h.strategy_eq]
  by_cases hambiguous : s = .ambiguous
  · subst hambiguous
    exact .ambiguous
  rw [if_neg fun heq => hambiguous (Option.some.inj heq)]
  by_cases hbroken : s = .broken
  · subst hbroken
    have htarget : r.target = none := by
      by_contra hne
      exact (h.target_iff.mp (Option.ne_none_iff_exists'.mp hne)).2 rfl
    rw [htarget]
    exact .broken
  · obtain ⟨target, htarget⟩ := h.target_iff.mpr ⟨hambiguous, hbroken⟩
    have hs : s.isFailure = false := Strategy.isFailure_eq_false_iff.mpr ⟨hambiguous, hbroken⟩
    have hvalid : r.isValid = true := by rw [hvalid, hs, Bool.not_false]
    rw [htarget, hvalid]
    by_cases hkind : r.kind = .code
    · -- A code reference that is not broken is found by its path.
      obtain rfl : s = .byCode := (h.ofCode hkind).resolve_right hbroken
      simp only [hkind, if_true]
      exact .code
    · obtain ⟨target', k, htarget', hfind, -⟩ := h.findById? hvalid hkind
      obtain rfl : target' = target := Option.some.inj (htarget'.symm.trans htarget)
      simp only [hkind, if_false, hmember _ _ hfind, if_true]
      exact .linked _ hs fun hcode => hkind (h.byCode hcode)

end Reference.SettledIn

/-! ### Reports on settled references -/

namespace Health

variable {c : Catalog} {ds : List Document}

/-- The report on references that are settled against a catalog of their corpus summarizes them. -/
theorem summarizes_score (hsettled : ∀ r ∈ references ds, ∃ s, Reference.SettledIn c r s)
    (hmember : ∀ id k, c.findById? id = some k → isMember ds id = true) :
    (score ds).Summarizes (references ds) := by
  -- What a figure asks of the standing of a settled reference, it asks of the reference itself.
  have hfilter (p : Standing → Bool) (q : Reference → Bool)
      (hpq : ∀ r x s, Reference.SettledIn c r s → x.Matches s → p x = q r) :
      ((references ds).filter fun r => p (Standing.of (isMember ds) r)) =
        (references ds).filter q := by
    refine List.filter_congr fun r hr => ?_
    obtain ⟨s, hs⟩ := hsettled r hr
    exact hpq r _ s hs (hs.matches_standing hmember)
  have hvalid : (score ds).validEdges = (references ds).countP (·.isValid) := by
    rw [List.countP_eq_length_filter, ← hfilter Standing.isEdge (·.isValid) fun _ _ _ hs hx =>
      hx.isEdge_eq.trans hs.isValid_eq.symm]
    exact length_filter_standings ds Standing.isEdge
  have hbroken : (score ds).broken =
      ((references ds).filter (·.strategy == some .broken)).map LinkIssue.ofReference := by
    rw [← hfilter Standing.isBroken _ fun _ _ _ hs hx =>
      hx.isBroken_eq.trans (hs.beq_strategy_eq .broken).symm]
    exact issues_filter_standings ds Standing.isBroken
  have hambiguous : (score ds).ambiguous =
      ((references ds).filter (·.strategy == some .ambiguous)).map LinkIssue.ofReference := by
    rw [← hfilter (· == .ambiguous) _ fun _ _ _ hs hx =>
      hx.beq_ambiguous_eq.trans (hs.beq_strategy_eq .ambiguous).symm]
    exact issues_filter_standings ds (· == .ambiguous)
  have hcode : (score ds).codeReferenceEdges =
      (references ds).countP (·.strategy == some .byCode) := by
    rw [List.countP_eq_length_filter, ← hfilter (· == .code) _ fun _ _ _ hs hx =>
      hx.beq_code_eq.trans (hs.beq_strategy_eq .byCode).symm]
    exact length_filter_standings ds (· == .code)
  have hkey : unresolvedKey ∉ (references ds).map countKey := by
    intro hmem
    obtain ⟨r, hr, hkey⟩ := List.mem_map.mp hmem
    obtain ⟨s, hs⟩ := hsettled r hr
    rw [countKey_eq_name_iff.mpr hs.strategy_eq] at hkey
    exact absurd hkey (by cases s <;> decide)
  exact
    { total := by
        rw [← map_standings, List.length_map]
        rfl
      valid := hvalid
      valid_eq_add := by
        rw [hvalid, countP_isValid fun r hr => ?_, ← countOf_score, ← countOf_score,
          ← countOf_score, ← countOf_score, ← countOf_score]
        · rfl
        · obtain ⟨s, hs⟩ := hsettled r hr
          exact ⟨s, hs.strategy_eq, hs.isValid_eq⟩
      ambiguousEdges := by
        show (score ds).ambiguous.length = (score ds).countOf Strategy.ambiguous.name
        rw [hambiguous, List.length_map, countOf_score, List.countP_eq_length_filter]
      brokenEdges := by
        show (score ds).broken.length = (score ds).countOf Strategy.broken.name
        rw [hbroken, List.length_map, countOf_score, List.countP_eq_length_filter]
      codeReferenceEdges := hcode.trans (countOf_score ds .byCode).symm
      countOf_name := countOf_score ds
      unresolved := by rw [strategyCounts_score, Tally.get?_ofNames, if_neg hkey]
      broken := hbroken
      ambiguous := hambiguous }

end Health

/-! ### Snapshots -/

namespace Snapshot

/-- Ids compare transitively. -/
theorem idLE_trans (a b c : Document) (hab : decide (a.id ≤ b.id) = true)
    (hbc : decide (b.id ≤ c.id) = true) : decide (a.id ≤ c.id) = true :=
  decide_eq_true (Std.le_trans (of_decide_eq_true hab) (of_decide_eq_true hbc))

/-- Ids compare in one direction at least. -/
theorem idLE_total (a b : Document) :
    (decide (a.id ≤ b.id) || decide (b.id ≤ a.id)) = true := by
  simpa using Std.le_total

/-- The order by ids loses no document and repeats none. -/
theorem perm_byId (ds : List Document) : (byId ds).Perm ds := List.mergeSort_perm ds _

/-- In the order by ids, no document has a higher id than a later one. -/
theorem pairwise_byId (ds : List Document) :
    (byId ds).Pairwise fun a b => decide (a.id ≤ b.id) = true :=
  List.pairwise_mergeSort idLE_trans idLE_total ds

/-- The order by ids has the same documents. -/
theorem mem_byId {ds : List Document} {d : Document} : d ∈ byId ds ↔ d ∈ ds :=
  (perm_byId ds).mem_iff

/-- The documents of a snapshot are those that were given, resolved. -/
theorem mem_resolveAll {v : Resolver} {ds : List Document} {d : Document} :
    d ∈ byId (v.resolveAll ds) ↔ ∃ e ∈ ds, v.resolveDocument e = d := by
  rw [mem_byId, Resolver.resolveAll, List.mem_map]

/-- The references of resolved documents are those of the documents, settled. -/
theorem mem_references_resolveAll {v : Resolver} {ds : List Document} {r : Reference} :
    r ∈ Health.references (byId (v.resolveAll ds)) ↔
      ∃ e ∈ ds, ∃ r' ∈ e.references, r'.settle (v.resolve e r') = r := by
  simp [Health.references, mem_resolveAll, Resolver.resolveDocument, Document.withReferences]

/-- The report of a snapshot summarizes the references of the snapshot, and no valid one of them is
    taken for anything else than an edge. The documents of the snapshot are those that were given,
    resolved, in the order of their ids. -/
theorem summarizes_assemble (isOnDisk : String → Bool) (root : String) (ds : List Document)
    (diagnostics : List Diagnostic) :
    let s := assemble isOnDisk root ds diagnostics
    s.report.Summarizes (Health.references s.documents) ∧
      (∀ r ∈ Health.references s.documents, r.isValid = true →
        (Health.Standing.of (Health.isMember s.documents) r).isEdge = true) ∧
      s.documents.Perm ((resolver isOnDisk root ds).resolveAll ds) ∧
      (s.documents.map (·.id)).Pairwise (· ≤ ·) := by
  intro s
  let v := resolver isOnDisk root ds
  have hsettled : ∀ r ∈ Health.references s.documents, ∃ x, Reference.SettledIn v.catalog r x := by
    intro r hr
    obtain ⟨e, -, r, -, rfl⟩ := mem_references_resolveAll.mp hr
    exact ⟨_, Resolver.settledIn_resolve isOnDisk root ds e r⟩
  -- The catalog holds documents of the corpus only, and resolving them leaves their ids.
  have hmember : ∀ id k, v.catalog.findById? id = some k →
      Health.isMember s.documents id = true := by
    intro id k hfind
    have hk := ((Catalog.finds_build root ds).lookups.byId id k).mp hfind
    obtain ⟨e, he, rfl⟩ := List.mem_map.mp
      (Corpus.mem_map_id_kept.mp (List.mem_map.mpr ⟨k, hk⟩))
    exact List.any_eq_true.mpr
      ⟨v.resolveDocument e, mem_resolveAll.mpr ⟨e, he, rfl⟩, beq_self_eq_true _⟩
  refine ⟨Health.summarizes_score hsettled hmember, fun r hr hvalid => ?_, perm_byId _, ?_⟩
  · obtain ⟨x, hx⟩ := hsettled r hr
    rw [(hx.matches_standing hmember).isEdge_eq, ← hx.isValid_eq, hvalid]
  · exact List.pairwise_map.mpr ((pairwise_byId _).imp of_decide_eq_true)

end Snapshot

end LinkAtlas
