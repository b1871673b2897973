import LinkAtlas.Proofs.Json.Record
import LinkAtlas.Snapshot

namespace LinkAtlas

/-!
# Snapshots are read back from their texts

* `Reference.ofTree?_toJson`, `Document.ofTree?_toJson`, `LinkIssue.ofTree?_toJson`,
  `Report.ofTree?_toJson`, `Diagnostic.ofTree?_toJson` — the parts of a snapshot are read back from
  their trees;
* `Snapshot.counts`, `Report.scores` — the numbers of a snapshot;
* `Snapshot.ofText_toText` — a snapshot is read back from its text.

Counts must fit 64 bits, as those of a corpus in memory do. Scores must be finite, since JSON has no
other numbers. Nothing is asked of texts.
-/

open Json (Value Tree)
open Json.Value (bind_record?_tree)
open Json.Record (required?_record withDefault?_record)

/-! ### References -/

/-- The name of a kind is read back. -/
@[simp] theorem Reference.Kind.ofTree?_name (k : Kind) :
    Kind.ofTree? (Value.text k.name).tree = some k := by
  rw [Kind.ofTree?, Tree.choice?_text, Option.bind_some, ofName?_name]

/-- The name of a strategy is read back. -/
@[simp] theorem Strategy.ofTree?_name (s : Strategy) :
    Strategy.ofTree? (Value.text s.name).tree = some s := by
  rw [Strategy.ofTree?, Tree.choice?_text, Option.bind_some, ofName?_name]

namespace Reference

/-- A reference is read back, with a label or without. -/
theorem ofTree?_toJson {r : Reference} (h : r.line < 2 ^ 64) : ofTree? r.toJson.tree = some r := by
  obtain ⟨source, rawTarget, kind, label, line, context, target, strategy, isValid⟩ := r
  have hline : (Value.int line).tree.nat? = some line := Tree.nat?_int h
  have hstrategy := Tree.orNull?_ofText? Strategy.ofTree?_name strategy
  -- Without a label its key is left out, and the reader takes the default.
  cases label
  all_goals
    rw [toJson, ofTree?, bind_record?_tree (by simp)]
    simp only [List.cons_append, List.nil_append, List.lookup_cons, List.lookup_nil,
      String.reduceBEq, required?_record, withDefault?_record, Option.elim_some, Option.elim_none,
      Tree.string?_text, Tree.orNull?_text, Tree.orNull?_string?, Tree.bool?_bool,
      Kind.ofTree?_name, hline, hstrategy]
    rfl

end Reference

/-! ### Documents -/

namespace Document

/-- A document is read back when the lines of its references fit. -/
theorem ofTree?_toJson {d : Document} (h : ∀ r ∈ d.references, r.line < 2 ^ 64) :
    ofTree? d.toJson.tree = some d := by
  have haliases : (Value.array (d.aliases.map .text)).tree.list? Tree.string? = some d.aliases :=
    Tree.list?_array fun _ _ => Tree.string?_text _
  have hreferences : (Value.array (d.references.map Reference.toJson)).tree.list?
      Reference.ofTree? = some d.references :=
    Tree.list?_array fun r hr => Reference.ofTree?_toJson (h r hr)
  rw [toJson, ofTree?, bind_record?_tree (by simp)]
  simp only [List.lookup_cons, String.reduceBEq, required?_record, withDefault?_record,
    Option.elim_some, Tree.string?_text, Tree.choice?_text, Option.bind_some, Kind.ofName?_name,
    Status.ofName?_name, haliases, hreferences]
  rfl

end Document

/-! ### Reports -/

namespace LinkIssue

/-- An issue with a line that fits a machine word is read back. -/
theorem ofTree?_toJson {i : LinkIssue} (h : i.line < 2 ^ 64) : ofTree? i.toJson.tree = some i := by
  rw [toJson, ofTree?, bind_record?_tree (by simp)]
  simp only [List.lookup_cons, String.reduceBEq, required?_record, Option.elim_some,
    Tree.string?_text, Tree.choice?_text, Option.bind_some, Reference.Kind.ofName?_name,
    Tree.nat?_int h]
  rfl

end LinkIssue

namespace Report

/-- The counts of a report. -/
def counts (r : Report) : List ℕ :=
  [r.totalNodes, r.totalEdges, r.validEdges, r.brokenEdges, r.ambiguousEdges, r.codeReferenceEdges,
    r.connectedNodes, r.componentCount] ++ r.strategyCounts.entries.map (·.2) ++
  r.broken.map (·.line) ++ r.ambiguous.map (·.line)

/-- The scores of a report. -/
def scores (r : Report) : List Float := [r.linkHealth, r.connectivity, r.overall]

/-- A tally is read back. -/
theorem tally?_toJson {t : Tally} (h : ∀ e ∈ t.entries, e.2 < 2 ^ 64) :
    tally? (Value.object (t.entries.map fun (k, n) => (k, .int n))).tree = some t := by
  have hentries (es : List (String × ℕ)) (hes : ∀ e ∈ es, e.2 < 2 ^ 64) :
      (Value.fieldTrees (es.map fun (k, n) => (k, .int n))).mapM (fun f => do
        return (← f.1, ← f.2.nat?)) = some es := by
    induction es with
    | nil => rfl
    | cons e es ih =>
      have hn := Tree.nat?_int (hes e List.mem_cons_self)
      rw [List.map_cons, Value.fieldTrees, List.mapM_cons,
        ih fun e' he' => hes e' (List.mem_cons_of_mem _ he')]
      simp [hn]
  rw [Value.tree, tally?, hentries t.entries h, Option.map_some, Tally.ofEntries_entries]

/-- A report is read back. -/
theorem ofTree?_toJson {r : Report} (hcounts : ∀ n ∈ r.counts, n < 2 ^ 64)
    (hscores : ∀ x ∈ r.scores, x.isFinite = true) : ofTree? r.toJson.tree = some r := by
  -- The bounds on the figures of the report come apart, one for each of its fields.
  simp only [counts, List.forall_mem_append, List.forall_mem_cons, List.forall_mem_map,
    List.not_mem_nil, false_imp_iff, implies_true, and_true] at hcounts
  obtain ⟨⟨⟨hfigures, htally⟩, hbroken⟩, hambiguous⟩ := hcounts
  simp only [scores, List.forall_mem_cons, List.not_mem_nil, false_imp_iff, implies_true,
    and_true] at hscores
  have horphans : (Value.array (r.orphans.map .text)).tree.list? Tree.string? = some r.orphans :=
    Tree.list?_array fun _ _ => Tree.string?_text _
  have hissues {is : List LinkIssue} (his : ∀ i ∈ is, i.line < 2 ^ 64) :
      (Value.array (is.map LinkIssue.toJson)).tree.list? LinkIssue.ofTree? = some is :=
    Tree.list?_array fun i hi => LinkIssue.ofTree?_toJson (his i hi)
  rw [toJson, ofTree?, bind_record?_tree (by simp)]
  simp only [List.lookup_cons, String.reduceBEq, required?_record, Option.elim_some, Tree.nat?_int,
    hfigures, Tree.float?_float, hscores, Tree.choice?_text, Option.bind_some, Tier.ofName?_name,
    horphans, tally?_toJson htally, hissues hbroken, hissues hambiguous]
  rfl

end Report

/-! ### Diagnostics -/

namespace Diagnostic

/-- A diagnostic of any kind is read back. -/
theorem ofTree?_toJson (d : Diagnostic) : ofTree? d.toJson.tree = some d := by
  -- Keys and types are fixed, so finding the type and then the fields of that type is evaluation.
  cases d with
  | unreadable path detail => rfl
  | invalidHeader path detail => rfl
  | duplicateId id path kept => rfl
  | enumeration path detail => rfl

end Diagnostic

/-! ### Snapshots -/

namespace Snapshot

/-- The counts of a snapshot: those of its report and the lines of its references. -/
def counts (s : Snapshot) : List ℕ :=
  s.report.counts ++ s.documents.flatMap fun d => d.references.map (·.line)

/-- A snapshot is read back from its tree, if its counts fit a machine word and its scores are
    finite. -/
theorem ofTree?_toJson {s : Snapshot} (hcounts : ∀ n ∈ s.counts, n < 2 ^ 64)
    (hscores : ∀ x ∈ s.report.scores, x.isFinite = true) : ofTree? s.toJson.tree = some s := by
  obtain ⟨hreport, hlines⟩ := List.forall_mem_append.mp hcounts
  have hdocuments : (Value.array (s.documents.map Document.toJson)).tree.list?
      Document.ofTree? = some s.documents :=
    -- The figures of a document are the line numbers of its references, which the snapshot lists.
    Tree.list?_array fun d hd => Document.ofTree?_toJson fun r hr =>
      hlines r.line (List.mem_flatMap.mpr ⟨d, hd, List.mem_map_of_mem hr⟩)
  have hdiagnostics : (Value.array (s.diagnostics.map Diagnostic.toJson)).tree.list?
      Diagnostic.ofTree? = some s.diagnostics :=
    Tree.list?_array fun d _ => Diagnostic.ofTree?_toJson d
  rw [toJson, ofTree?, bind_record?_tree (by simp)]
  simp only [List.lookup_cons, String.reduceBEq, required?_record, withDefault?_record,
    Option.elim_some, Tree.string?_text, hdocuments, Report.ofTree?_toJson hreport hscores,
    hdiagnostics]
  rfl

/-- A snapshot is read back from its text. -/
theorem ofText_toText {s : Snapshot} (hcounts : ∀ n ∈ s.counts, n < 2 ^ 64)
    (hscores : ∀ x ∈ s.report.scores, x.isFinite = true) : ofText s.toText = .ok s := by
  rw [ofText, toText, Value.parse?_pretty, Option.bind_some, ofTree?_toJson hcounts hscores]

/-- A snapshot with both forms of every optional field, every kind of diagnostic, and texts with
    quotes, control characters and characters beyond ASCII. -/
def varied : Snapshot where
  root := "/knowledge \"base\""
  documents :=
    [{ id := "a", kind := .guide, status := .draft, title := "Überblick\t🗺", aliases := ["α", "\\"]
       path := "/knowledge \"base\"/a.md", relPath := "a.md", contentHash := "0f"
       references :=
        [{ source := "a", rawTarget := "b", kind := .aliasedWiki, label := some "the \x01 b", line := 3
           context := "[[b|the \x01 b]]", target := some "b", strategy := some .byId
           isValid := true },
         { source := "a", rawTarget := "gone", kind := .plain, label := none, line := 4
           context := "[gone](gone)", target := none, strategy := some .broken, isValid := false },
         { source := "a", rawTarget := "code:x.rs", kind := .code, label := none, line := 5
           context := "", target := none, strategy := none, isValid := false }] },
     { id := "b", kind := .knowledge, status := .archived, title := "", aliases := []
       path := "", relPath := "b.md", contentHash := "", references := [] }]
  report :=
    { totalNodes := 2, totalEdges := 3, validEdges := 1, brokenEdges := 2, ambiguousEdges := 0
      codeReferenceEdges := 0, connectedNodes := 2, orphans := ["c\nd"]
      linkHealth := Float.ofBits 0x4040AAAAAAAAAAAB, connectivity := Float.ofBits 0x4059000000000000
      overall := Float.ofBits 0x8000000000000000, tier := .critical, componentCount := 1
      strategyCounts := Tally.ofNames ["id", "broken", "unresolved"]
      broken := [⟨"a", "gone", 4, .plain⟩, ⟨"a", "code:x.rs", 5, .code⟩], ambiguous := [] }
  diagnostics :=
    [.unreadable "x.md" "no UTF-8", .invalidHeader "y.md" "line 1:\r\n no id",
     .duplicateId "a" "z.md" "a.md", .enumeration "/knowledge/\x7f" ""]

/-- A snapshot with all kinds of references and diagnostics, with control characters, and with
    scores that need many digits. -/
theorem ofText_toText_varied :
    (∀ n ∈ varied.counts, n < 2 ^ 64) ∧ (∀ x ∈ varied.report.scores, x.isFinite = true) ∧
      ofText varied.toText = .ok varied :=
  have hcounts : ∀ n ∈ varied.counts, n < 2 ^ 64 := by decide +kernel
  have hscores : ∀ x ∈ varied.report.scores, x.isFinite = true := by decide +kernel
  ⟨hcounts, hscores, ofText_toText hcounts hscores⟩

end Snapshot

end LinkAtlas
