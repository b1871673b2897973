import LinkAtlas.Proofs.Search
import LinkAtlas.Proofs.WellFormed
import Mathlib.Data.List.Forall2

namespace LinkAtlas

/-!
# What the log tells of failed references

While documents are resolved, warnings and debug events are reported for the references that fail,
and for no others: the log and the settled documents tell the same.

* `Corpus.citations`, `Corpus.settledAs` — the references of a corpus in order, and those among them
  that are settled in one way;
* `Log.Event.Warns` — a warning of an ambiguous reference and of the documents that it could mean;
* `Log.Event.Complains` — a complaint of a broken reference, to a document or to source code;
* `Resolver.forall₂_warns`, `Resolver.forall₂_complains` — the events for one reference, case by case
  over the exits of the stages;
* `Resolver.log_tells_failures` — hence the events for a corpus are those of its failed references,
  one for each and in their order.
-/

namespace Corpus

/-- The references of documents in order, each with the id of its document. -/
def citations (ds : List Document) : List (String × Reference) :=
  ds.flatMap fun d => d.references.map (d.id, ·)

/-- The references that are settled in one way. -/
def settledAs (s : Strategy) (ds : List Document) : List (String × Reference) :=
  (citations ds).filter fun c => c.2.strategy = some s

/-- The ids of the documents that have a name. -/
def bearers (ks : List Document) (name : String) : List String :=
  (ks.filter (·.isNamed name)).map (·.id)

/-- Which references of resolved documents are settled in one way is asked of each on its own. -/
theorem settledAs_resolveAll (s : Strategy) (v : Resolver) (ds : List Document) :
    settledAs s (v.resolveAll ds) = ds.flatMap fun d => d.references.flatMap fun r =>
      if (v.resolve d r).strategy = s then [(d.id, r.settle (v.resolve d r))] else [] := by
  unfold settledAs citations Resolver.resolveAll
  rw [List.flatMap_map, List.filter_flatMap]
  refine List.flatMap_congr fun d _ => ?_
  show ((d.references.map fun r => r.settle (v.resolve d r)).map (d.id, ·)).filter _ = _
  rw [List.map_map, List.map_eq_flatMap, List.filter_flatMap]
  refine List.flatMap_congr fun r _ => ?_
  simp [List.filter_cons, Reference.settle]

/-- As many ids are listed as there are documents with the name. -/
theorem length_bearers (ks : List Document) (name : String) :
    (bearers ks name).length = ks.countP (·.isNamed name) := by
  rw [bearers, List.length_map, List.countP_eq_length_filter]

end Corpus

/-! ### Events about failures -/

namespace Log.Event

/-- An event warns of a reference: it tells what is written and where, and how many documents have
    that name and which, in ascending order. -/
structure Warns (ks : List Document) (r : Reference) (e : Event) : Prop where
  eq : e = .ambiguous r.rawTarget r.source r.line (Corpus.bearers ks r.rawTarget)
  text_eq : e.text = "Ambiguous reference '" ++ r.rawTarget ++ "' in '" ++ r.source ++ "' (line " ++
    digits r.line ++ "): " ++ digits (ks.countP (·.isNamed r.rawTarget)) ++ " nodes match (" ++
    ", ".intercalate (Corpus.bearers ks r.rawTarget) ++ ")"
  several : 2 ≤ ks.countP (·.isNamed r.rawTarget)
  ascending : (Corpus.bearers ks r.rawTarget).Pairwise (· < ·)

/-- An event complains of a reference in the document with an id: it tells the line, and what is
    written or, of a reference to source code, the path. -/
inductive Complains (id : String) (r : Reference) (e : Event) : Prop where
  | document (hkind : r.kind ≠ .code) (eq : e = .broken id r.line r.rawTarget)
      (text_eq : e.text = "Broken reference in '" ++ id ++ "' (line " ++ digits r.line ++ "): '" ++
        r.rawTarget ++ "'")
  | code {path : String} {symbol : Option String} (hkind : r.kind = .code)
      (hparts : r.codeParts? = some (path, symbol)) (eq : e = .missingCode id r.line path)
      (text_eq : e.text = "Code reference in '" ++ id ++ "' (line " ++ digits r.line ++
        ") points at missing path '" ++ path ++ "'")

/-- The warning that lists all documents with a name, if there are several. -/
theorem warns_ambiguous {ks : List Document} {r : Reference}
    (hks : (ks.map (·.id)).Pairwise (· < ·))
    (hseveral : 2 ≤ (Corpus.bearers ks r.rawTarget).length) :
    Warns ks r (.ambiguous r.rawTarget r.source r.line (Corpus.bearers ks r.rawTarget)) where
  eq := rfl
  text_eq := by
    rw [← Corpus.length_bearers]
    rfl
  several := by rwa [Corpus.length_bearers] at hseveral
  ascending := hks.sublist (List.filter_sublist.map _)

end Log.Event

namespace Resolver

open Log (Event)

/-- Which events of a corpus are of one sort is asked of those for each reference on its own. -/
theorem filter_events (p : Event → Bool) (v : Resolver) (ds : List Document) :
    (v.events ds).filter p = ds.flatMap fun d => d.references.flatMap fun r =>
      ((v.verdict d r).events d r).filter p := by
  simp only [events, List.filter_flatMap]

/-- Lists that are made of the same parts correspond if what is made of each part does. -/
theorem forall₂_flatMap {α β γ : Type} {R : β → γ → Prop} {f : α → List β} {g : α → List γ}
    {as : List α} (h : ∀ a ∈ as, List.Forall₂ R (f a) (g a)) :
    List.Forall₂ R (as.flatMap f) (as.flatMap g) := by
  have hsame : List.Forall₂ (fun a a' => a = a' ∧ a ∈ as) as as :=
    List.forall₂_same.mpr fun a ha => ⟨rfl, ha⟩
  refine List.rel_flatMap hsame ?_
  rintro a _ ⟨rfl, ha⟩
  exact h a ha

section Parts

variable (v : Resolver) (d : Document) (r : Reference)

/-- For a reference there is one warning if it is ambiguous, and none otherwise. -/
theorem forall₂_warns {ks : List Document} (h : v.catalog.Finds ks) :
    List.Forall₂ (fun c e => e.Warns ks c.2)
      (if (v.resolve d r).strategy = .ambiguous then [(d.id, r.settle (v.resolve d r))] else [])
      (((v.verdict d r).events d r).filter (·.level = .warn)) := by
  rcases v.events_verdict d r with ⟨stage, -, own, hexits, hevents⟩ | ⟨-, hnothing, hevents⟩
  · rw [hevents]
    unfold resolve
    generalize v.verdict d r = verdict at hexits ⊢
    cases hexits with
    | @ambiguous ids hids hseveral =>
      obtain rfl : Corpus.bearers ks r.rawTarget = ids := by
        rw [← hids, h.findByAlias, Corpus.bearers]
      exact .cons (Event.warns_ambiguous h.ascending hseveral) .nil
    -- No stage settles what it finds as a failure, and complaints are no warnings.
    | found stage target => cases stage <;> exact .nil
    | missingCode => exact .nil
    | noCode => exact .nil
  · rw [hevents, resolve, hnothing]
    exact .nil

/-- For a reference there is one complaint if it is broken, and none otherwise, unless it is one to
    source code that has no path. -/
theorem forall₂_complains (h : r.kind = .code → r.codeParts? ≠ none) :
    List.Forall₂ (fun c e => e.Complains c.1 c.2)
      (if (v.resolve d r).strategy = .broken then [(d.id, r.settle (v.resolve d r))] else [])
      (((v.verdict d r).events d r).filter (·.level = .debug)) := by
  rcases v.events_verdict d r with ⟨stage, hstage, own, hexits, hevents⟩ | ⟨hkind, hnothing, hevents⟩
  · rw [hevents]
    unfold resolve
    generalize v.verdict d r = verdict at hexits ⊢
    cases hexits with
    | missingCode hparts =>
      exact .cons (.code (Stage.eq_code_of_mem hstage) hparts rfl rfl) .nil
    -- The one way to be broken without a complaint.
    | noCode hparts => exact absurd hparts (h (Stage.eq_code_of_mem hstage))
    | found stage target => cases stage <;> exact .nil
    | ambiguous => exact .nil
  · rw [hevents, resolve, hnothing]
    exact .cons (.document hkind rfl rfl) .nil

end Parts

/-! ### Events of a corpus -/

/-- The log and the settled documents tell the same. If the targets of all references to source code
    have their mark, the warnings are those of the ambiguous references, one for each and in order,
    and the debug events are the complaints of the broken ones. -/
theorem log_tells_failures (isOnDisk : String → Bool) (root : String) (ds ns : List Document)
    (hmark : ∀ n ∈ ns, ∀ r ∈ n.references, r.kind = .code →
      Reference.codeMark <+: r.rawTarget.toList) :
    let v : Resolver := ⟨Catalog.build root ds, isOnDisk⟩
    List.Forall₂ (fun c e => e.Warns (Corpus.kept ds) c.2)
        (Corpus.settledAs .ambiguous (v.resolveAll ns)) ((v.events ns).filter (·.level = .warn)) ∧
      List.Forall₂ (fun c e => e.Complains c.1 c.2)
        (Corpus.settledAs .broken (v.resolveAll ns)) ((v.events ns).filter (·.level = .debug)) := by
  intro v
  -- Both lists are made of one part for each reference, in the same order.
  simp only [Corpus.settledAs_resolveAll, filter_events]
  constructor
  · exact forall₂_flatMap fun n _ => forall₂_flatMap fun r _ =>
      v.forall₂_warns n r (Catalog.finds_build root ds)
  · refine forall₂_flatMap fun n hn => forall₂_flatMap fun r hr => v.forall₂_complains n r ?_
    intro hkind
    simp [Reference.codeParts?, hkind, hmark n hn r hr hkind]

/-- A title that two documents have, a target that there is not, source code that is not on disk,
    and a document that is found: one warning and two complaints, for the lines in between. -/
theorem log_tells_failures_shared_title :
    let first : Document := { (default : Document) with id := "a", title := "Notes" }
    let second : Document := { (default : Document) with id := "b", title := "Notes" }
    let cite := Reference.unsettled "n"
    let n : Document := { (default : Document) with
      id := "n"
      references := [cite "a" .plain none 3 "", cite "Notes" .wiki none 4 "",
        cite "code:lib.rs::main" .code none 5 "", cite "c" .aliasedWiki (some "C") 6 ""] }
    let ds := [second, n, first]
    let v : Resolver := ⟨Catalog.build "/docs" ds, fun _ => false⟩
    let warned := Corpus.settledAs .ambiguous (v.resolveAll [n])
    let broken := Corpus.settledAs .broken (v.resolveAll [n])
    (∀ k ∈ [n], ∀ r ∈ k.references, r.kind = .code →
        Reference.codeMark <+: r.rawTarget.toList) ∧
      List.Forall₂ (fun c e => e.Warns (Corpus.kept ds) c.2) warned
        ((v.events [n]).filter (·.level = .warn)) ∧
      List.Forall₂ (fun c e => e.Complains c.1 c.2) broken
        ((v.events [n]).filter (·.level = .debug)) ∧
      warned.map (·.2.line) = [4] ∧ broken.map (·.2.line) = [5, 6] := by
  intro first second cite n ds v warned broken
  have hmark : ∀ k ∈ [n], ∀ r ∈ k.references, r.kind = .code →
      Reference.codeMark <+: r.rawTarget.toList := by decide +kernel
  obtain ⟨hwarns, hcomplains⟩ := log_tells_failures (fun _ => false) "/docs" ds [n] hmark
  refine ⟨hmark, hwarns, hcomplains, ?_, ?_⟩
  · simp only [warned, v, Corpus.settledAs_resolveAll,
      resolve_eq_search _ (Catalog.finds_build "/docs" ds)]
    decide +kernel
  · simp only [broken, v, Corpus.settledAs_resolveAll,
      resolve_eq_search _ (Catalog.finds_build "/docs" ds)]
    decide +kernel

end Resolver

end LinkAtlas
