import LinkAtlas.Proofs.Search

namespace LinkAtlas

/-!
# A corpus that grows

A document that is added to a corpus can take over what a search finds, but it can not hand a search
to a third document: a lowest id stays or becomes its id, and only a list of ids can grow.

* `Search.Grows` — how an outcome may change when a document is added: it stays, it becomes the new
  document, or an alias that was the only one becomes ambiguous;
* `Search.find?_add`, `Search.lowest?_add`, `Search.atReading?_add`, `Search.ids_add` — what is
  added to the answers of a single question;
* `Search.grows_nameOutcome`, `Search.grows_documentOutcome`, `Search.grows_outcome` — hence every
  outcome grows so;
* `Resolver.resolve_growth` — the same for the catalogs of a corpus and of the corpus with one more
  document, wherever it is put.
-/

namespace Search

/-- How the outcome for a reference may change when a document is added. -/
inductive Grows (x : Document) (r : Reference) : Outcome → Outcome → Prop where
  /-- Nothing changes. -/
  | same (o : Outcome) : Grows x r o o
  /-- The new document is found. -/
  | found {o : Outcome} (s : Strategy) (hs : s.isFailure = false) (hkind : r.kind ≠ .code) :
      Grows x r o (.found s x.id)
  /-- The new document shares a name that belonged to one document. -/
  | shared (only : String) (hnamed : x.isNamed r.rawTarget = true) (hkind : r.kind ≠ .code) :
      Grows x r (.found .byAlias only) .ambiguous

namespace Grows

variable {x : Document} {r : Reference} {o o' : Outcome}

/-- An outcome that grows stays, or leads to the new document, or becomes ambiguous by a name that
    the new document has too. -/
theorem eq_or (h : Grows x r o o') :
    o' = o ∨ o'.strategy.isFailure = false ∧ o'.target = some x.id ∨
      o.strategy = .byAlias ∧ o'.strategy = .ambiguous ∧
        (x.title = r.rawTarget ∨ r.rawTarget ∈ x.aliases) := by
  cases h with
  | same => exact .inl rfl
  | found s hs hkind => exact .inr (.inl ⟨hs, rfl⟩)
  | shared only hnamed hkind =>
    exact .inr (.inr ⟨rfl, rfl, by simpa [Document.isNamed] using hnamed⟩)

/-- What was broken does not become ambiguous. -/
theorem ne_ambiguous (h : Grows x r o o') (hbroken : o.strategy = .broken) :
    o'.strategy ≠ .ambiguous := by
  cases h with
  | same => simp [hbroken]
  | found s hs hkind =>
    rintro rfl
    exact nomatch hs
  | shared only hnamed hkind => exact nomatch hbroken

/-- A target stays or gives way to the new document. -/
theorem target_eq_or {id id' : String} (h : Grows x r o o') (hid : o.target = some id)
    (hid' : o'.target = some id') : id' = id ∨ id' = x.id := by
  cases h with
  | same => exact .inl (Option.some.inj (hid'.symm.trans hid))
  | found s hs hkind => exact .inr (Option.some.inj hid').symm
  | shared only hnamed hkind => exact nomatch hid'

/-- Outcomes for source code stay. -/
theorem eq_of_code (h : Grows x r o o') (hcode : r.kind = .code) : o' = o := by
  cases h with
  | same => rfl
  | found s hs hkind => exact absurd hcode hkind
  | shared only hnamed hkind => exact absurd hcode hkind

end Grows

/-! ### Answers to one question -/

section Questions

variable {low high : List Document} {x : Document}

/-- The first answer to a question stays, or is the new document. -/
theorem find?_add (low high : List Document) (x : Document) (question : Document → Bool) :
    (low ++ x :: high).find? question = (low ++ high).find? question ∨
      (low ++ x :: high).find? question = some x := by
  rw [List.find?_append, List.find?_append, List.find?_cons]
  cases low.find? question with
  | some k => exact .inl rfl
  | none =>
    cases question x with
    | true => exact .inr rfl
    | false => exact .inl rfl

variable (h : ((low ++ x :: high).map (·.id)).Pairwise (· < ·)) (question : Document → Bool)
include h

/-- The ids ascend without the new document too. -/
theorem ascending_of_add : ((low ++ high).map (·.id)).Pairwise (· < ·) :=
  h.sublist (((List.sublist_cons_self x high).append_left low).map _)

/-- The lowest id stays or becomes the new one. -/
theorem lowest?_add : lowest? (low ++ x :: high) question = lowest? (low ++ high) question ∨
    lowest? (low ++ x :: high) question = some x.id := by
  rw [lowest?_of_ascending h, lowest?_of_ascending (ascending_of_add h)]
  rcases find?_add low high x question with heq | heq <;> rw [heq]
  · exact .inl rfl
  · exact .inr rfl

/-- The document at a path stays, or is the new one. -/
theorem atReading?_add (isOnDisk : String → Bool) (reading : Candidate) :
    atReading? isOnDisk (low ++ x :: high) reading = atReading? isOnDisk (low ++ high) reading ∨
      atReading? isOnDisk (low ++ x :: high) reading = some x.id := by
  cases reading with
  | rooted p => exact lowest?_add h (·.liesAt p)
  | absolute p =>
    simp only [atReading?]
    split
    · exact lowest?_add h (·.liesAt p)
    · exact .inl rfl

/-- The ids stay, or the new one comes between them because its document answers the question. -/
theorem ids_add : ids (low ++ x :: high) question = ids (low ++ high) question ∨
    question x = true ∧ ∃ before after, ids (low ++ high) question = before ++ after ∧
      ids (low ++ x :: high) question = before ++ x.id :: after := by
  rw [ids_of_ascending h, ids_of_ascending (ascending_of_add h), List.filter_append,
    List.filter_append, List.map_append, List.map_append]
  cases hx : question x with
  | true => exact .inr ⟨rfl, _, _, rfl, by rw [List.filter_cons_of_pos hx, List.map_cons]⟩
  | false => exact .inl (by rw [List.filter_cons_of_neg (by simp [hx])])

end Questions

/-- If what is found at each place stays or becomes one thing, so does what is found first. -/
theorem findSome?_eq_or {α β : Type} {f g : α → Option β} {b : β}
    (h : ∀ a, g a = f a ∨ g a = some b) (as : List α) :
    as.findSome? g = as.findSome? f ∨ as.findSome? g = some b := by
  induction as with
  | nil => exact .inl rfl
  | cons a as ih =>
    rw [List.findSome?_cons, List.findSome?_cons]
    rcases h a with ha | ha <;> rw [ha]
    · cases f a with
      | some _ => exact .inl rfl
      | none => exact ih
    · exact .inr rfl

/-! ### Outcomes -/

/-- What a new name does depends on how many documents had it before. -/
theorem grows_nameOutcome {x : Document} {r : Reference} (hkind : r.kind ≠ .code)
    {names names' : List String} {spelled spelled' : Option String}
    (hnames : names' = names ∨ x.isNamed r.rawTarget = true ∧
      ∃ before after, names = before ++ after ∧ names' = before ++ x.id :: after)
    (hspelled : spelled' = spelled ∨ spelled' = some x.id) :
    Grows x r (nameOutcome names spelled) (nameOutcome names' spelled') := by
  -- The name may have been nobody's, one document's or several's before, and the new one may be
  -- first, second or later among them.
  rcases hnames with rfl | ⟨hnamed, before, after, rfl, rfl⟩
  · rcases names' with _ | ⟨only, _ | _⟩
    · rcases hspelled with rfl | rfl
      · exact .same _
      · exact .found .byTitle rfl hkind
    · exact .same _
    · exact .same _
  · rcases before with _ | ⟨first, _ | ⟨second, before⟩⟩
    · rcases after with _ | ⟨only, _ | ⟨second, after⟩⟩
      · exact .found .byAlias rfl hkind
      · exact .shared only hnamed hkind
      · exact .same _
    · rcases after with _ | ⟨second, after⟩
      · exact .shared first hnamed hkind
      · exact .same _
    · exact .same _

section Outcomes

variable {low high : List Document} {x : Document}
variable (h : ((low ++ x :: high).map (·.id)).Pairwise (· < ·)) (isOnDisk : String → Bool)
include h

/-- Every outcome for a reference to a document grows. -/
theorem grows_documentOutcome (d : Document) {r : Reference} (hkind : r.kind ≠ .code) :
    Grows x r (documentOutcome isOnDisk (low ++ high) d r)
      (documentOutcome isOnDisk (low ++ x :: high) d r) := by
  have hany : (low ++ x :: high).any (·.id == r.rawTarget) =
      ((low ++ high).any (·.id == r.rawTarget) || x.id == r.rawTarget) := by
    simp [Bool.or_left_comm, Bool.or_comm]
  unfold documentOutcome
  extract_lets paths names names'
  have hnames : names' = names ∨ x.isNamed r.rawTarget = true ∧
      ∃ before after, names = before ++ after ∧ names' = before ++ x.id :: after := by
    simp only [names, names']
    split
    · exact ids_add h _
    · exact .inl rfl
  rw [hany]
  cases (low ++ high).any (·.id == r.rawTarget) with
  | true => exact .same _
  | false =>
  -- No old document has the target as its id. The new one may, and is asked before paths and names.
  by_cases hid : x.id = r.rawTarget
  · simp only [hid, beq_self_eq_true, Bool.or_true, if_true]
    exact hid ▸ .found .byId rfl hkind
  · simp only [beq_eq_false_iff_ne.mpr hid, Bool.or_self, Bool.false_eq_true, if_false]
    rcases findSome?_eq_or (atReading?_add h isOnDisk) paths with hpath | hpath <;> rw [hpath]
    · cases paths.findSome? (atReading? isOnDisk (low ++ high)) with
      | some id => exact .same _
      | none => exact grows_nameOutcome hkind hnames (lowest?_add h _)
    · exact .found .byPath rfl hkind

/-- Every outcome grows. -/
theorem grows_outcome (root : String) (d : Document) (r : Reference) :
    Grows x r (outcome isOnDisk root (low ++ high) d r)
      (outcome isOnDisk root (low ++ x :: high) d r) := by
  unfold outcome
  split
  · exact .same _
  · rename_i hkind
    exact grows_documentOutcome h isOnDisk d hkind

end Outcomes

end Search

/-- Adding a document with a new id to a corpus, wherever it is put, leaves an outcome as it was,
    or leads the reference to the new document, or makes the name of one document ambiguous because
    the new document has it too. So no broken reference becomes ambiguous, no target gives way to
    another old document, and references to source code stay. -/
theorem Resolver.resolve_growth (isOnDisk : String → Bool) (root : String) (as bs : List Document)
    (x : Document) (hx : x.id ∉ (as ++ bs).map (·.id)) (d : Document) (r : Reference) :
    let o := resolve ⟨Catalog.build root (as ++ bs), isOnDisk⟩ d r
    let o' := resolve ⟨Catalog.build root (as ++ x :: bs), isOnDisk⟩ d r
    (o' = o ∨ o'.strategy.isFailure = false ∧ o'.target = some x.id ∨
        o.strategy = .byAlias ∧ o'.strategy = .ambiguous ∧
          (x.title = r.rawTarget ∨ r.rawTarget ∈ x.aliases)) ∧
      (o.strategy = .broken → o'.strategy ≠ .ambiguous) ∧
      (∀ id id', o.target = some id → o'.target = some id' → id' = id ∨ id' = x.id) ∧
      (r.kind = .code → o' = o) := by
  intro o o'
  -- The new document stands somewhere among the ids that ascend, and the others stay as they are.
  obtain ⟨low, high, hold, hnew⟩ := Corpus.exists_kept_insert hx
  have hascending := Corpus.ascending_kept (as ++ x :: bs)
  rw [hnew] at hascending
  have hgrows : Search.Grows x r o o' := by
    simp only [o, o', resolve_eq_search isOnDisk (Catalog.finds_build root _), Catalog.root_build,
      hold, hnew]
    exact Search.grows_outcome hascending isOnDisk root d r
  exact ⟨hgrows.eq_or, hgrows.ne_ambiguous, fun _ _ => hgrows.target_eq_or, hgrows.eq_of_code⟩

/-- A title in use that a second document takes: the reference by that title was settled, is
    ambiguous afterwards, and the title is indeed that of the second document. -/
theorem Resolver.resolve_growth_shared_title :
    let old : Document := { (default : Document) with id := "b", title := "Notes" }
    let new : Document := { (default : Document) with id := "a", title := "Notes" }
    let r : Reference := { (default : Reference) with kind := .wiki, rawTarget := "Notes" }
    let o := resolve ⟨Catalog.build "/docs" ([old] ++ []), fun _ => false⟩ default r
    let o' := resolve ⟨Catalog.build "/docs" ([old] ++ [new]), fun _ => false⟩ default r
    new.id ∉ ([old] ++ []).map Document.id ∧ o = .found .byAlias "b" ∧ o' = .ambiguous ∧
      (new.title = r.rawTarget ∨ r.rawTarget ∈ new.aliases) := by
  intro old new r o o'
  have hnew : new.id ∉ ([old] ++ []).map Document.id := by decide
  have hold : o = .found .byAlias "b" := by
    simp only [o, resolve_eq_search _ (Catalog.finds_build "/docs" _)]
    decide
  have hambiguous : o' = .ambiguous := by
    simp only [o', resolve_eq_search _ (Catalog.finds_build "/docs" _)]
    decide
  have hgrowth := (resolve_growth (fun _ => false) "/docs" [old] [] new hnew default r).1
  change o' = o ∨ o'.strategy.isFailure = false ∧ _ ∨ o.strategy = .byAlias ∧ _ at hgrowth
  rw [hold, hambiguous] at hgrowth
  rcases hgrowth with heq | ⟨hsuccess, -⟩ | ⟨-, -, hshared⟩
  · exact nomatch heq
  · exact nomatch hsuccess
  · exact ⟨hnew, hold, hambiguous, hshared⟩

end LinkAtlas
