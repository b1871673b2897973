import LinkAtlas.Proofs.Search
import Mathlib.Data.List.Forall2

namespace LinkAtlas

/-!
# Settled references

Resolving a document settles each of its references and changes nothing else.

* `Reference.SettledIn` — what holds of a settled reference: its fields agree with each other, its
  strategy is one for its kind, and a valid one to a document leads to a document of the catalog;
* `Reference.settledIn_settle` — an outcome settles a reference so, case by case over what stands
  behind outcomes;
* `Resolver.settledIn_resolve` — so does resolving a reference against the catalog of a corpus;
* `Resolver.resolveDocument_settled` — hence all references of a document that is resolved against
  the catalog of a corpus are settled so, whatever fields they had before.
-/

/-- A strategy is a success unless it is ambiguous or broken. -/
theorem Strategy.isFailure_eq_false_iff {s : Strategy} :
    s.isFailure = false ↔ s ≠ .ambiguous ∧ s ≠ .broken := by cases s <;> decide

/-- A kind that is one of two others is none for source code if these are not. -/
theorem Reference.Kind.ne_code {k a b : Reference.Kind} (h : k = a ∨ k = b)
    (hab : a ≠ .code ∧ b ≠ .code) : k ≠ .code := by
  rcases h with rfl | rfl
  · exact hab.1
  · exact hab.2

namespace Reference

/-- What holds of a reference that was settled with a strategy against a catalog. -/
structure SettledIn (c : Catalog) (r : Reference) (s : Strategy) : Prop where
  strategy_eq : r.strategy = some s
  isValid_iff : r.isValid = true ↔ ∃ target, r.target = some target
  target_iff : (∃ target, r.target = some target) ↔ s ≠ .ambiguous ∧ s ≠ .broken
  /-- A valid reference to a document does not dangle. -/
  findById? : r.isValid = true → r.kind ≠ .code →
    ∃ target k, r.target = some target ∧ c.findById? target = some k ∧ k.id = target
  ofCode : r.kind = .code → s = .byCode ∨ s = .broken
  byCode : s = .byCode → r.kind = .code
  byPath : s = .byPath → r.kind = .plain ∨ r.kind = .wiki
  byName : s = .byAlias ∨ s = .ambiguous → r.kind = .wiki ∨ r.kind = .aliasedWiki

variable {c : Catalog} {ks : List Document} {r : Reference} {o : Outcome}

/-- Settling changes only what a resolution settles. -/
theorem settle_eq (r : Reference) (o : Outcome) :
    r.settle o = { r with
      target := (r.settle o).target
      strategy := (r.settle o).strategy
      isValid := (r.settle o).isValid } := rfl

/-- A document of the catalog that a strategy for documents found settles a reference. -/
theorem settledIn_found {s : Strategy} {k : Document} (hfind : c.findById? k.id = some k)
    (hs : s ≠ .byCode ∧ s.isFailure = false) (hkind : r.kind ≠ .code)
    (hpath : s = .byPath → r.kind = .plain ∨ r.kind = .wiki)
    (hname : s = .byAlias → r.kind = .wiki ∨ r.kind = .aliasedWiki) :
    SettledIn c (r.settle (.found s k.id)) s := by
  obtain ⟨hcode, hfailure⟩ := hs
  -- A strategy that found a document is none of the failures, and its target is the id of the
  -- document.
  have htarget : (r.settle (.found s k.id)).target = some k.id := by
    simp [settle, Outcome.found, hfailure]
  have hne := Strategy.isFailure_eq_false_iff.mp hfailure
  exact
    { strategy_eq := rfl
      isValid_iff := by simp [settle, Outcome.found, hfailure]
      target_iff := ⟨fun _ => hne, fun _ => ⟨k.id, htarget⟩⟩
      findById? := fun _ _ => ⟨k.id, k, htarget, hfind, rfl⟩
      ofCode := fun h => absurd h hkind
      byCode := fun h => absurd h hcode
      byPath := hpath
      byName := fun h => h.elim hname fun h => absurd h hne.1 }

/-- A reference is settled by its outcome when something stands behind the outcome. -/
theorem settledIn_settle (h : c.Finds ks) (hback : Search.Backed ks r o) :
    SettledIn c (r.settle o) o.strategy := by
  -- What is behind an outcome is in the list, and what is in the list is in the catalog.
  have hfind : ∀ k ∈ ks, c.findById? k.id = some k := by
    intro k hk
    rw [h.findById?]
    exact Corpus.find?_of_ascending h.ascending hk
  cases hback with
  | byCode path hkind =>
    constructor <;> simp [settle, Outcome.found, Strategy.isFailure, hkind]
  | byId k hk hkind =>
    exact settledIn_found (hfind k hk) (by decide) hkind (fun h => absurd h (by decide))
      fun h => absurd h (by decide)
  | byPath k hk hkind =>
    exact settledIn_found (hfind k hk) (by decide) (Kind.ne_code hkind (by decide))
      (fun _ => hkind) fun h => absurd h (by decide)
  | byAlias k hk hkind =>
    exact settledIn_found (hfind k hk) (by decide) (Kind.ne_code hkind (by decide))
      (fun h => absurd h (by decide)) fun _ => hkind
  | byTitle k hk hkind =>
    exact settledIn_found (hfind k hk) (by decide) hkind (fun h => absurd h (by decide))
      fun h => absurd h (by decide)
  | ambiguous hkind =>
    have hne : r.kind ≠ .code := Kind.ne_code hkind (by decide)
    constructor <;> simp [settle, Outcome.ambiguous, Strategy.isFailure, hkind, hne]
  | broken => constructor <;> simp [settle, Outcome.broken, Strategy.isFailure]

end Reference

/-- What resolving against the catalog of a corpus settles is settled against that catalog. -/
theorem Resolver.settledIn_resolve (isOnDisk : String → Bool) (root : String)
    (ds : List Document) (d : Document) (r : Reference) :
    let v : Resolver := ⟨Catalog.build root ds, isOnDisk⟩
    Reference.SettledIn v.catalog (r.settle (v.resolve d r)) (v.resolve d r).strategy := by
  intro v
  have hfinds : v.catalog.Finds (Corpus.kept ds) := Catalog.finds_build root ds
  refine Reference.settledIn_settle hfinds ?_
  rw [resolve_eq_search isOnDisk hfinds]
  exact Search.backed_outcome isOnDisk v.catalog.root (Corpus.kept ds) d r

/-- Resolving against the catalog of a corpus settles every reference of a document, and leaves
    everything else of it as it was. -/
theorem Resolver.resolveDocument_settled (isOnDisk : String → Bool) (root : String)
    (ds : List Document) (d : Document) :
    let c := Catalog.build root ds
    let d' := resolveDocument ⟨c, isOnDisk⟩ d
    d' = { d with references := d'.references } ∧
      List.Forall₂ (fun r r' =>
          r' = { r with target := r'.target, strategy := r'.strategy, isValid := r'.isValid } ∧
            ∃ s, Reference.SettledIn c r' s)
        d.references d'.references := by
  intro c d'
  refine ⟨rfl, ?_⟩
  show List.Forall₂ _ d.references
    (d.references.map fun r => r.settle (resolve ⟨c, isOnDisk⟩ d r))
  rw [List.forall₂_map_right_iff, List.forall₂_same]
  intro r _
  exact ⟨Reference.settle_eq r _, _, settledIn_resolve isOnDisk root ds d r⟩

end LinkAtlas
