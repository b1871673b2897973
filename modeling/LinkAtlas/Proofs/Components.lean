import LinkAtlas.Proofs.Classification
import Mathlib.Data.List.NodupEquivFin
import Mathlib.Data.Set.Card
import Mathlib.Data.Setoid.Basic

namespace LinkAtlas.Health

/-!
# Components of the graph of documents

Each edge gives one label to the classes of its ends. In the end two vertices have one label when
edges connect them, in whatever direction and over however many other vertices.

* `labelOf_merge` — the label of a vertex after one edge;
* `Refines`, `Refines.merge`, `refines_labels` — labels never put together what no edge connects,
  which one edge preserves, and so all of them do;
* `Unites`, `unites_labels` — and the ends of every edge are put together;
* `labelOf_labels_eq_iff`, `componentCount_eq_card` — so labels tell the classes of the equivalence
  that edges generate, and there are as many labels as classes;
* `imageClass`, `card_quotient_map` — the classes of a relation that is carried along an injection;
* `Linked`, `owner`, `joined_edges` — the edges of a corpus are the links between its ids, carried to
  the positions that own these;
* `componentCount_edges_add`, `componentCount_score` — hence the components in a report are the
  classes of linked ids, if no id is repeated, and each document too many is one more.
-/

/-! ### The label of a vertex -/

/-- The label of a vertex is the entry at its place. -/
theorem labelOf_eq_getElem {ls : List Nat} {v : Nat} (h : v < ls.length) :
    labelOf ls v = ls[v] := by
  rw [labelOf, List.getD_eq_getElem?_getD, List.getElem?_eq_getElem h, Option.getD_some]

/-- The label of a vertex after an edge: that of the first end, if it was that of the second. -/
theorem labelOf_merge {ls : List Nat} (e : Edge) {v : Nat} (h : v < ls.length) :
    labelOf (merge ls e) v =
      if labelOf ls v = labelOf ls e.2 then labelOf ls e.1 else labelOf ls v := by
  have hv : v < (merge ls e).length := by rwa [length_merge]
  rw [labelOf_eq_getElem hv, labelOf_eq_getElem h]
  exact List.getElem_map _

/-! ### Labels that put too much together -/

section Refines

variable {n : Nat}

/-- Labels for `n` vertices that are the same for related vertices only. -/
structure Refines (ls : List Nat) (s : Setoid (Fin n)) : Prop where
  length_eq : ls.length = n
  rel : ∀ u v : Fin n, labelOf ls u = labelOf ls v → s u v

/-- Before any edge, each vertex has a label of its own. -/
theorem refines_range (s : Setoid (Fin n)) : Refines (List.range n) s where
  length_eq := List.length_range
  rel u v h := by
    have hlabel (w : Fin n) : labelOf (List.range n) w = w := by
      rw [labelOf_eq_getElem (by simp), List.getElem_range]
    rw [hlabel, hlabel] at h
    rw [Fin.ext h]

/-- An edge between related vertices puts related vertices together only. -/
theorem Refines.merge {ls : List Nat} {s : Setoid (Fin n)} (h : Refines ls s) {a b : Fin n}
    (hab : s a b) : Refines (merge ls (a, b)) s where
  length_eq := by rw [length_merge, h.length_eq]
  rel u v heq := by
    have hlt (w : Fin n) : w.val < ls.length := h.length_eq ▸ w.isLt
    rw [labelOf_merge _ (hlt u), labelOf_merge _ (hlt v)] at heq
    -- A vertex with the label of `b` gets that of `a`, so it matters which of the two has it.
    by_cases hu : labelOf ls u = labelOf ls b
    · by_cases hv : labelOf ls v = labelOf ls b
      · exact h.rel u v (hu.trans hv.symm)
      · rw [if_pos hu, if_neg hv] at heq
        have hub : s u b := h.rel u b hu
        have hav : s a v := h.rel a v heq
        exact s.trans hub (s.trans (s.symm hab) hav)
    · by_cases hv : labelOf ls v = labelOf ls b
      · rw [if_neg hu, if_pos hv] at heq
        have hua : s u a := h.rel u a heq
        have hvb : s v b := h.rel v b hv
        exact s.trans hua (s.trans hab (s.symm hvb))
      · rw [if_neg hu, if_neg hv] at heq
        exact h.rel u v heq

/-- What all edges together preserve. -/
theorem refines_labels {edges : List Edge} {s : Setoid (Fin n)}
    (hedges : ∀ e ∈ edges, ∃ a b : Fin n, e = (a.val, b.val) ∧ s a b) :
    Refines (labels n edges) s := by
  have hfold (ls : List Nat) (h : Refines ls s) : Refines (edges.foldl Health.merge ls) s := by
    induction edges generalizing ls with
    | nil => exact h
    | cons e rest ih =>
      obtain ⟨a, b, rfl, hab⟩ := hedges e List.mem_cons_self
      exact ih (fun e' he' => hedges e' (List.mem_cons_of_mem _ he')) _ (h.merge hab)
  exact hfold _ (refines_range s)

end Refines

/-! ### Labels that put enough together -/

/-- Labels that are the same for two vertices. -/
def Unites (ls : List Nat) (u v : Nat) : Prop :=
  u < ls.length ∧ v < ls.length ∧ labelOf ls u = labelOf ls v

/-- An edge puts its ends together. -/
theorem unites_merge {ls : List Nat} {e : Edge} (h₁ : e.1 < ls.length) (h₂ : e.2 < ls.length) :
    Unites (merge ls e) e.1 e.2 := by
  refine ⟨by rwa [length_merge], by rwa [length_merge], ?_⟩
  rw [labelOf_merge e h₁, labelOf_merge e h₂, if_pos rfl]
  split <;> rfl

/-- What is together stays together when an edge is added. -/
theorem Unites.merge {ls : List Nat} {u v : Nat} (h : Unites ls u v) (e : Edge) :
    Unites (merge ls e) u v := by
  obtain ⟨hu, hv, heq⟩ := h
  refine ⟨by rwa [length_merge], by rwa [length_merge], ?_⟩
  rw [labelOf_merge e hu, labelOf_merge e hv, heq]

/-- Vertices that have one label keep a common label when more edges are drawn. -/
theorem Unites.foldl_merge {ls : List Nat} {u v : Nat} (h : Unites ls u v) (edges : List Edge) :
    Unites (edges.foldl Health.merge ls) u v := by
  induction edges generalizing ls with
  | nil => exact h
  | cons e rest ih => exact ih (h.merge e)

/-- The ends of every edge are together in the end. -/
theorem unites_labels {n : Nat} {edges : List Edge} {e : Edge} (he : e ∈ edges) (h₁ : e.1 < n)
    (h₂ : e.2 < n) : Unites (labels n edges) e.1 e.2 := by
  obtain ⟨before, after, rfl⟩ := List.append_of_mem he
  have hlength : (labels n before).length = n := length_labels n before
  have hends : Unites (merge (labels n before) e) e.1 e.2 :=
    unites_merge (by rwa [hlength]) (by rwa [hlength])
  rw [labels, List.foldl_append, List.foldl_cons]
  exact hends.foldl_merge after

/-! ### Labels and classes -/

/-- Every label is that of a vertex. -/
theorem mem_labels_iff {n : Nat} {edges : List Edge} {l : Nat} :
    l ∈ labels n edges ↔ ∃ u : Fin n, labelOf (labels n edges) u = l := by
  have hlabel {i : Nat} (h : i < (labels n edges).length) :
      labelOf (labels n edges) i = (labels n edges)[i] := labelOf_eq_getElem h
  rw [List.mem_iff_getElem]
  constructor
  · rintro ⟨i, hi, rfl⟩
    exact ⟨⟨i, by rwa [length_labels] at hi⟩, hlabel hi⟩
  · rintro ⟨u, rfl⟩
    exact ⟨u, by rw [length_labels]; exact u.isLt, (hlabel _).symm⟩

/-- Without repetitions, no label is left twice. -/
theorem nodup_eraseDups (ls : List Nat) : ls.eraseDups.Nodup := by
  cases ls with
  | nil => simp
  | cons a rest =>
    rw [List.eraseDups_cons, List.nodup_cons, List.mem_eraseDups]
    exact ⟨by simp, nodup_eraseDups (rest.filter fun b => !b == a)⟩
termination_by ls.length
decreasing_by exact Nat.lt_succ_of_le (List.length_filter_le _ _)

/-- There are as many labels without repetitions as different ones. -/
theorem length_eraseDups (ls : List Nat) : ls.eraseDups.length = ls.toFinset.card := by
  have hsame : ls.eraseDups.toFinset = ls.toFinset := by
    ext l
    simp [List.mem_eraseDups]
  rw [← hsame, List.toFinset_card_of_nodup (nodup_eraseDups ls)]

section Classes

variable {n : Nat} {edges : List Edge}

/-- Two vertices are the ends of an edge, in its direction. -/
def Joined (edges : List Edge) (u v : Fin n) : Prop := (u.val, v.val) ∈ edges

variable (hedges : ∀ e ∈ edges, e.1 < n ∧ e.2 < n)
include hedges

/-- Two vertices have one label when edges connect them. -/
theorem labelOf_labels_eq_iff (u v : Fin n) :
    labelOf (labels n edges) u = labelOf (labels n edges) v ↔
      Relation.EqvGen (Joined edges) u v := by
  -- The labels refine the classes because only linked nodes are united; linked nodes share a label
  -- because every edge is united at some point and no later one parts what is together.
  constructor
  · have hrefines : Refines (labels n edges) (Relation.EqvGen.setoid (Joined (n := n) edges)) := by
      apply refines_labels
      intro e he
      obtain ⟨h₁, h₂⟩ := hedges e he
      exact ⟨⟨e.1, h₁⟩, ⟨e.2, h₂⟩, rfl, .rel _ _ he⟩
    exact hrefines.rel u v
  · intro h
    induction h with
    | rel u v huv => exact (unites_labels huv u.isLt v.isLt).2.2
    | refl u => rfl
    | symm u v _ ih => exact ih.symm
    | trans u v w _ _ ih ih' => exact ih.trans ih'

/-- There are as many labels as classes of connected vertices. -/
theorem componentCount_eq_card :
    componentCount n edges =
      Nat.card (Quotient (Relation.EqvGen.setoid (Joined (n := n) edges))) := by
  let label (u : Fin n) : Nat := labelOf (labels n edges) u
  have hker : Relation.EqvGen.setoid (Joined (n := n) edges) = Setoid.ker label :=
    Setoid.ext fun u v => (labelOf_labels_eq_iff hedges u v).symm
  have hrange : Set.range label = (labels n edges).toFinset := by
    ext l
    rw [Finset.mem_coe, List.mem_toFinset, mem_labels_iff]
    rfl
  rw [hker, Nat.card_congr (Setoid.quotientKerEquivRange label), Nat.card_coe_set_eq, hrange,
    Set.ncard_coe_finset]
  exact length_eraseDups _

end Classes

/-! ### Relations that are carried along -/

section Image

variable {α β : Type} {r : α → α → Prop} {f : α → β}

/-- A function that keeps a relation keeps the equivalence that it generates. -/
theorem eqvGen_map {s : β → β → Prop} (hf : ∀ a b, r a b → s (f a) (f b)) {a b : α}
    (h : Relation.EqvGen r a b) : Relation.EqvGen s (f a) (f b) := by
  induction h with
  | rel a b hab => exact .rel _ _ (hf a b hab)
  | refl a => exact .refl _
  | symm a b _ ih => exact .symm _ _ ih
  | trans a b c _ _ ih ih' => exact .trans _ _ _ ih ih'

open Classical in
/-- The class of a point when a relation is carried along an injection: that of the point which it
    comes from, or the point alone. -/
noncomputable def imageClass (r : α → α → Prop) (f : α → β) (b : β) :
    Quotient (Relation.EqvGen.setoid r) ⊕ { b : β // b ∉ Set.range f } :=
  if h : b ∈ Set.range f then .inl (Quotient.mk _ h.choose) else .inr ⟨b, h⟩

/-- A point that nothing is mapped to is alone in its class. -/
theorem imageClass_of_notMem {b : β} (h : b ∉ Set.range f) : imageClass r f b = .inr ⟨b, h⟩ :=
  dif_neg h

variable (hf : Function.Injective f)
include hf

/-- A point that something is mapped to has the class of what is mapped. -/
theorem imageClass_apply (a : α) : imageClass r f (f a) = .inl (Quotient.mk _ a) := by
  have h : f a ∈ Set.range f := ⟨a, rfl⟩
  rw [imageClass, dif_pos h, hf h.choose_spec]

/-- The classes are those of the equivalence that the carried relation generates. -/
theorem imageClass_eq_iff {u v : β} :
    imageClass r f u = imageClass r f v ↔ Relation.EqvGen (Relation.Map r f f) u v := by
  constructor
  · intro h
    -- Four cases, by whether each node is an image. Two images are together when their origins are,
    -- and a node that is no image is together with itself only.
    by_cases hu : u ∈ Set.range f
    · obtain ⟨a, rfl⟩ := hu
      rw [imageClass_apply hf] at h
      by_cases hv : v ∈ Set.range f
      · obtain ⟨b, rfl⟩ := hv
        rw [imageClass_apply hf] at h
        have hab : Relation.EqvGen r a b := Quotient.exact (Sum.inl.inj h)
        exact eqvGen_map (fun a b hr => ⟨a, b, hr, rfl, rfl⟩) hab
      · rw [imageClass_of_notMem hv] at h
        exact nomatch h
    · rw [imageClass_of_notMem hu] at h
      by_cases hv : v ∈ Set.range f
      · obtain ⟨b, rfl⟩ := hv
        rw [imageClass_apply hf] at h
        exact nomatch h
      · rw [imageClass_of_notMem hv] at h
        obtain rfl : u = v := congrArg Subtype.val (Sum.inr.inj h)
        exact .refl u
  · intro h
    induction h with
    | rel u v huv =>
      obtain ⟨a, b, hab, rfl, rfl⟩ := huv
      rw [imageClass_apply hf, imageClass_apply hf]
      exact congrArg Sum.inl (Quotient.sound (.rel a b hab))
    | refl u => rfl
    | symm u v _ ih => exact ih.symm
    | trans u v w _ _ ih ih' => exact ih.trans ih'

/-- An injection carries no more together than the relation does. -/
theorem eqvGen_map_iff {a b : α} :
    Relation.EqvGen (Relation.Map r f f) (f a) (f b) ↔ Relation.EqvGen r a b := by
  rw [← imageClass_eq_iff hf, imageClass_apply hf, imageClass_apply hf, Sum.inl.injEq]
  exact Quotient.eq

/-- The classes of a relation that is carried along an injection are those of the relation, and the
    points that the injection leaves out. -/
theorem card_quotient_map [Finite β] :
    Nat.card (Quotient (Relation.EqvGen.setoid (Relation.Map r f f))) + Nat.card α =
      Nat.card (Quotient (Relation.EqvGen.setoid r)) + Nat.card β := by
  classical
  have : Finite α := Finite.of_injective f hf
  have hker : Relation.EqvGen.setoid (Relation.Map r f f) = Setoid.ker (imageClass r f) :=
    Setoid.ext fun u v => (imageClass_eq_iff hf).symm
  have hsurjective : Function.Surjective (imageClass r f) := by
    rintro (q | ⟨b, hb⟩)
    · obtain ⟨a, rfl⟩ := Quotient.exists_rep q
      exact ⟨f a, imageClass_apply hf a⟩
    · exact ⟨b, imageClass_of_notMem hb⟩
  -- The classes above are those of the origins and one for each node that is no image.
  have hclasses : Nat.card (Quotient (Relation.EqvGen.setoid (Relation.Map r f f))) =
      Nat.card (Quotient (Relation.EqvGen.setoid r)) + Nat.card { b : β // b ∉ Set.range f } := by
    rw [hker, Nat.card_congr (Setoid.quotientKerEquivOfSurjective _ hsurjective), Nat.card_sum]
  have hpoints : Nat.card (Set.range f) + Nat.card { b : β // b ∉ Set.range f } = Nat.card β := by
    rw [← Nat.card_sum]
    exact Nat.card_congr (Equiv.Set.sumCompl (Set.range f))
  have hrange : Nat.card (Set.range f) = Nat.card α :=
    Nat.card_congr (Equiv.ofInjective f hf).symm
  omega

end Image

/-! ### Documents as vertices -/

/-- The ids of a corpus. -/
abbrev Member (ds : List Document) : Type := { id : String // id ∈ ds.map (·.id) }

/-- Two ids are linked when a valid reference of a document with the first leads to the second. -/
def Linked (ds : List Document) (a b : Member ds) : Prop :=
  ∃ d ∈ ds, ∃ r ∈ d.references, d.id = a ∧ r.LinksTo ds b

section Corpus

variable {ds : List Document}

/-- The edges are the valid references between documents, by the positions of their ends. -/
theorem mem_edges_iff {e : Edge} :
    e ∈ edges ds ↔ ∃ d ∈ ds, ∃ r ∈ d.references, ∃ target, r.LinksTo ds target ∧
      position? ds d.id = some e.1 ∧ position? ds target = some e.2 := by
  simp only [edges, standings, List.mem_filterMap, List.mem_flatMap, List.mem_map]
  constructor
  -- Of the five standings only a link has an edge.
  · rintro ⟨-, ⟨d, hd, r, hr, rfl⟩, he⟩
    have hdescribes := describes_standing ds r
    generalize Standing.of (isMember ds) r = x at he hdescribes
    cases hdescribes with
    | ambiguous _ | broken _ | outside _ _ | code _ _ => simp at he
    | linked target hlinks =>
      cases ha : position? ds d.id with
      | none => simp [ha] at he
      | some a =>
        cases hb : position? ds target with
        | none => simp [ha, hb] at he
        | some b =>
          obtain rfl : (a, b) = e := by simpa [ha, hb] using he
          exact ⟨d, hd, r, hr, target, hlinks, ha, hb⟩
  · rintro ⟨d, hd, r, hr, target, hlinks, ha, hb⟩
    refine ⟨_, ⟨d, hd, r, hr, rfl⟩, ?_⟩
    simp only [(describes_standing ds r).eq_linked_iff.mpr hlinks, ha, hb]

/-- A document with the id is at the position of an id. -/
theorem getElem?_of_position? {id : String} {i : Nat} (h : position? ds id = some i) :
    (ds.map (·.id))[i]? = some id := by
  obtain ⟨k, hk, rfl⟩ := Option.map_eq_some_iff.mp h
  obtain ⟨hlt, hid, -⟩ := List.findIdx?_eq_some_iff_getElem.mp hk
  rw [List.length_reverse] at hlt
  rw [List.getElem_reverse, beq_iff_eq] at hid
  rw [List.getElem?_map, List.getElem?_eq_getElem (by omega), Option.map_some, hid]

/-- Every id of a corpus has a position. -/
theorem exists_position? {id : String} (h : id ∈ ds.map (·.id)) :
    ∃ i, position? ds id = some i := by
  obtain ⟨d, hd, rfl⟩ := List.mem_map.mp h
  have hsome : (ds.reverse.findIdx? (·.id == d.id)).isSome = true := by
    rw [List.findIdx?_isSome, List.any_eq_true]
    exact ⟨d, List.mem_reverse.mpr hd, beq_self_eq_true _⟩
  obtain ⟨k, hk⟩ := Option.isSome_iff_exists.mp hsome
  exact ⟨_, by rw [position?, hk, Option.map_some]⟩

/-- A position is one in the corpus. -/
theorem position?_lt {id : String} {i : Nat} (h : position? ds id = some i) : i < ds.length := by
  have hlt := (List.getElem?_eq_some_iff.mp (getElem?_of_position? h)).1
  rwa [List.length_map] at hlt

/-- The position of an id: that of the last document with it. -/
def owner (a : Member ds) : Fin ds.length :=
  let found := Option.isSome_iff_exists.mpr (exists_position? a.property)
  ⟨(position? ds a).get found, position?_lt (Option.some_get found).symm⟩

/-- The position of a member is that of the document that owns it. -/
theorem position?_eq_owner (a : Member ds) : position? ds a = some (owner a).val := by
  simp [owner]

/-- Different members have different owners. -/
theorem owner_injective : Function.Injective (owner : Member ds → Fin ds.length) := by
  intro a b h
  have ha := getElem?_of_position? (position?_eq_owner a)
  have hb := getElem?_of_position? (position?_eq_owner b)
  rw [h] at ha
  exact Subtype.ext (Option.some.inj (ha.symm.trans hb))

/-- The edges between positions are the links between ids, carried to the positions of these. -/
theorem joined_edges : Joined (n := ds.length) (edges ds) = Relation.Map (Linked ds) owner owner := by
  funext u v
  refine propext ⟨?_, ?_⟩
  · intro huv
    obtain ⟨d, hd, r, hr, target, hlinks, hu, hv⟩ := mem_edges_iff.mp huv
    let a : Member ds := ⟨d.id, List.mem_map_of_mem hd⟩
    let b : Member ds := ⟨target, hlinks.mem⟩
    refine ⟨a, b, ⟨d, hd, r, hr, rfl, hlinks⟩, Fin.ext ?_, Fin.ext ?_⟩
    · exact Option.some.inj ((position?_eq_owner a).symm.trans hu)
    · exact Option.some.inj ((position?_eq_owner b).symm.trans hv)
  · rintro ⟨a, b, ⟨d, hd, r, hr, hid, hlinks⟩, rfl, rfl⟩
    refine mem_edges_iff.mpr ⟨d, hd, r, hr, b, hlinks, ?_, position?_eq_owner b⟩
    rw [hid]
    exact position?_eq_owner a

/-- Both ends of an edge are positions in the corpus. -/
theorem mem_edges_lt : ∀ e ∈ edges ds, e.1 < ds.length ∧ e.2 < ds.length := by
  intro e he
  obtain ⟨d, -, r, -, target, -, ha, hb⟩ := mem_edges_iff.mp he
  exact ⟨position?_lt ha, position?_lt hb⟩

/-- The components are the classes of linked ids, and beside these the documents that do not own
    their id. -/
theorem componentCount_edges_add (ds : List Document) :
    componentCount ds.length (edges ds) + Nat.card (Member ds) =
      Nat.card (Quotient (Relation.EqvGen.setoid (Linked ds))) + ds.length := by
  rw [componentCount_eq_card mem_edges_lt, joined_edges, card_quotient_map owner_injective,
    Nat.card_fin]

/-- Without repeated ids, there are as many components as classes of linked ids. -/
theorem componentCount_edges (hnodup : (ds.map (·.id)).Nodup) :
    componentCount ds.length (edges ds) =
      Nat.card (Quotient (Relation.EqvGen.setoid (Linked ds))) := by
  have hadd := componentCount_edges_add ds
  have hcard : Nat.card (Member ds) = ds.length := by
    rw [← Nat.card_congr (List.Nodup.getEquiv _ hnodup), Nat.card_fin, List.length_map]
  omega

/-! ### Orphans -/

/-- A valid reference connects both of its ends, so no link leaves an orphan or comes to one. -/
theorem Linked.not_orphan {a b : Member ds} (h : Linked ds a b) :
    a.val ∉ (score ds).orphans ∧ b.val ∉ (score ds).orphans := by
  obtain ⟨d, hd, r, hr, hid, hlinks⟩ := h
  have ha : a.val ∈ connectedIds ds :=
    mem_connectedIds_iff.mpr ⟨d, hd, r, hr, .inl ⟨hlinks.1, hid⟩⟩
  have hb : b.val ∈ connectedIds ds := mem_connectedIds_iff.mpr ⟨d, hd, r, hr, .inr hlinks⟩
  constructor
  · rw [mem_orphans_iff]
    rintro ⟨o, -, ho, heq⟩
    exact ho (heq ▸ ha)
  · rw [mem_orphans_iff]
    rintro ⟨o, -, ho, heq⟩
    exact ho (heq ▸ hb)

/-- The class of an orphan holds nothing else. -/
theorem eq_of_orphan {a b : Member ds} (h : Relation.EqvGen (Linked ds) a b)
    (horphan : a.val ∈ (score ds).orphans ∨ b.val ∈ (score ds).orphans) : a = b := by
  induction h with
  | rel a b hab =>
    obtain ⟨ha, hb⟩ := hab.not_orphan
    rcases horphan with h | h
    · exact absurd h ha
    · exact absurd h hb
  | refl a => rfl
  | symm a b _ ih => exact (ih horphan.symm).symm
  | trans a b c _ _ ih ih' =>
    -- Whichever end is the orphan, the vertex between the two is that orphan.
    rcases horphan with h | h
    · obtain rfl := ih (.inl h)
      exact ih' (.inl h)
    · obtain rfl := ih' (.inr h)
      exact ih (.inr h)

/-- Different orphans are in different classes. -/
theorem length_orphans_le :
    (score ds).orphans.length ≤ Nat.card (Quotient (Relation.EqvGen.setoid (Linked ds))) := by
  have hnodup : (score ds).orphans.Nodup := (Ids.ascending_ofList _).imp Std.ne_of_lt
  have hmem : ∀ id ∈ (score ds).orphans, id ∈ ds.map (·.id) := by
    intro id hid
    obtain ⟨d, hd, -, rfl⟩ := mem_orphans_iff.mp hid
    exact List.mem_map_of_mem hd
  let orphan (i : Fin (score ds).orphans.length) : Member ds :=
    ⟨(score ds).orphans[i], hmem _ (List.getElem_mem i.isLt)⟩
  let classOf (i : Fin (score ds).orphans.length) :
      Quotient (Relation.EqvGen.setoid (Linked ds)) := Quotient.mk _ (orphan i)
  -- Two orphans are in different classes, so choosing one class for each is injective.
  have hinjective : Function.Injective classOf := by
    intro i j hij
    have hsame : orphan i = orphan j :=
      eq_of_orphan (Quotient.exact hij) (.inl (List.getElem_mem i.isLt))
    exact Fin.ext ((List.Nodup.getElem_inj_iff hnodup).mp (congrArg Subtype.val hsame))
  have hcard := Nat.card_le_card_of_injective classOf hinjective
  rwa [Nat.card_fin] at hcard

end Corpus

/-! ### The report -/

/-- There are no more components than vertices. -/
theorem componentCount_le (n : Nat) (edges : List Edge) : componentCount n edges ≤ n := by
  have hsub : (labels n edges).toFinset.card ≤ (labels n edges).length := List.toFinset_card_le _
  rw [componentCount, length_eraseDups]
  rwa [length_labels] at hsub

/-- The components in the report on a corpus without repeated ids are the classes of linked ids: the
    least equivalence on ids that relates the source of every valid reference to a document with its
    target. None are in an empty corpus, there are no more than documents, and every orphan is a
    class of its own, so that there are no fewer than orphans. -/
theorem componentCount_score (ds : List Document) (hnodup : (ds.map (·.id)).Nodup) :
    (score ds).componentCount = Nat.card (Quotient (Relation.EqvGen.setoid (Linked ds))) ∧
      (score []).componentCount = 0 ∧
      (score ds).componentCount ≤ (score ds).totalNodes ∧
      (score ds).orphans.length ≤ (score ds).componentCount ∧
      ∀ a b : Member ds, a.val ∈ (score ds).orphans → Relation.EqvGen (Linked ds) a b → b = a := by
  have hcount : (score ds).componentCount =
      Nat.card (Quotient (Relation.EqvGen.setoid (Linked ds))) := componentCount_edges hnodup
  refine ⟨hcount, by decide, componentCount_le ds.length (edges ds), ?_, ?_⟩
  · rw [hcount]
    exact length_orphans_le
  · intro a b ha hab
    exact (eq_of_orphan hab (.inl ha)).symm

/-- Two documents that refer to each other, one that refers to itself, and one that refers to code
    whose path is an id. -/
theorem componentCount_score_four :
    let toA : Reference := { (default : Reference) with target := some "a", isValid := true }
    let toB : Reference := { (default : Reference) with target := some "b", isValid := true }
    let toC : Reference := { (default : Reference) with target := some "c", isValid := true }
    let a : Document := { (default : Document) with id := "a", references := [toB, toB] }
    let b : Document := { (default : Document) with id := "b", references := [toA] }
    let c : Document := { (default : Document) with id := "c", references := [toC] }
    let d : Document := { (default : Document) with
      id := "d", references := [{ toA with kind := .code }] }
    let ds := [a, b, c, d]
    Nat.card (Quotient (Relation.EqvGen.setoid (Linked ds))) = 3 ∧ (score ds).orphans = [] := by
  intro toA toB toC a b c d ds
  obtain ⟨hcount, -⟩ := componentCount_score ds (by decide)
  rw [← hcount]
  exact ⟨by decide +kernel, by decide⟩

end LinkAtlas.Health
