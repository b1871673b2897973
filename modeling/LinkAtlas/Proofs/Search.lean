import LinkAtlas.Proofs.Catalog
import LinkAtlas.Resolution.Resolver

namespace LinkAtlas

/-!
# Resolution as a search of the documents

What a reference leads to can be said without a catalog and without stages, by going through the
list of documents once for each question.

* `Search.ids`, `Search.lowest?` — the documents that answer a question, by their ids;
* `Search.atReading?` — the document at one reading of a path;
* `Search.codeOutcome`, `Search.documentOutcome` — the outcome for a reference to source code, and
  for one to a document, which comes to `Search.nameOutcome` when its target is no id and no path;
* `Search.outcome` — the one that the kind of the reference asks for;
* `Search.Backed`, `Search.backed_outcome` — what stands behind an outcome of a search;
* `Resolver.resolve_eq_search` — a resolver whose catalog finds exactly some documents resolves
  every reference as a search of them does;
* `Resolver.resolve_build_eq_search` — the same for the catalog of a corpus and the documents that
  keep their ids.
-/

namespace Search

/-- The ids of the documents that answer a question, in ascending order. -/
def ids (ks : List Document) (question : Document → Bool) : List String :=
  Ids.ofList ((ks.filter question).map (·.id))

/-- The lowest id of a document that answers a question. -/
def lowest? (ks : List Document) (question : Document → Bool) : Option String :=
  (ids ks question).head?

/-- The lowest id of a document at one reading of a path. An absolute path counts only when it is on
    disk. -/
def atReading? (isOnDisk : String → Bool) (ks : List Document) : Candidate → Option String
  | .rooted p => lowest? ks (·.liesAt p)
  | .absolute p => if isOnDisk p then lowest? ks (·.liesAt p) else none

/-- The outcome for a reference to source code: the path as it is written, if one of its readings is
    on disk. -/
def codeOutcome (isOnDisk : String → Bool) (root : String) (d : Document) (r : Reference) :
    Outcome :=
  match r.codeParts? with
  | none => .broken
  | some (path, _) =>
    if (Candidate.ofTarget d path).any fun reading => isOnDisk (reading.onDisk root) then
      .found .byCode path
    else .broken

/-- The outcome for a name: the only document that has it, no single one when several have it, and
    when none has it the one with its spelling. -/
def nameOutcome (names : List String) (spelled : Option String) : Outcome :=
  match names with
  | [] =>
    match spelled with
    | some id => .found .byTitle id
    | none => .broken
  | [only] => .found .byAlias only
  | _ :: _ :: _ => .ambiguous

/-- The outcome for a reference to a document: by id, by path, by name, and by spelling. -/
def documentOutcome (isOnDisk : String → Bool) (ks : List Document) (d : Document)
    (r : Reference) : Outcome :=
  let paths := if r.kind = .plain ∨ r.kind = .wiki then Candidate.ofTarget d r.rawTarget else []
  let names := if r.kind = .wiki ∨ r.kind = .aliasedWiki then ids ks (·.isNamed r.rawTarget) else []
  if ks.any (·.id == r.rawTarget) then .found .byId r.rawTarget
  else
    match paths.findSome? (atReading? isOnDisk ks) with
    | some id => .found .byPath id
    | none => nameOutcome names (lowest? ks (·.isSpelled (Text.spellingKey r.rawTarget)))

/-- The outcome for a reference of a document. -/
def outcome (isOnDisk : String → Bool) (root : String) (ks : List Document) (d : Document)
    (r : Reference) : Outcome :=
  if r.kind = .code then codeOutcome isOnDisk root d r else documentOutcome isOnDisk ks d r

/-! ### Answers of a search -/

/-- The ids that a question finds are those of the documents that answer it. -/
theorem mem_ids {ks : List Document} {question : Document → Bool} {id : String} :
    id ∈ ids ks question ↔ ∃ k ∈ ks, question k = true ∧ k.id = id := by
  simp [ids, and_assoc]

/-- The lowest id that a question finds is that of a document that answers it. -/
theorem exists_of_lowest? {ks : List Document} {question : Document → Bool} {id : String}
    (h : lowest? ks question = some id) : ∃ k ∈ ks, question k = true ∧ k.id = id :=
  mem_ids.mp (List.mem_of_mem_head? h)

/-- What is found at a reading is the id of a document. -/
theorem exists_of_atReading? {isOnDisk : String → Bool} {ks : List Document} {reading : Candidate}
    {id : String} (h : atReading? isOnDisk ks reading = some id) : ∃ k ∈ ks, k.id = id := by
  have hlowest : ∃ p, lowest? ks (·.liesAt p) = some id := by
    -- A reading below the root is looked up as it is, and an absolute one only if it is on disk.
    cases reading with
    | rooted p => exact ⟨p, h⟩
    | absolute p =>
      rw [atReading?] at h
      split at h
      · exact ⟨p, h⟩
      · exact nomatch h
  obtain ⟨p, hp⟩ := hlowest
  obtain ⟨k, hk, -, hid⟩ := exists_of_lowest? hp
  exact ⟨k, hk, hid⟩

/-- What stands behind an outcome: a kind of reference that the strategy is for, and for a document
    the document with the id that was found. -/
inductive Backed (ks : List Document) (r : Reference) : Outcome → Prop where
  | byCode (path : String) (hkind : r.kind = .code) : Backed ks r (.found .byCode path)
  | byId (k : Document) (hk : k ∈ ks) (hkind : r.kind ≠ .code) : Backed ks r (.found .byId k.id)
  | byPath (k : Document) (hk : k ∈ ks) (hkind : r.kind = .plain ∨ r.kind = .wiki) :
      Backed ks r (.found .byPath k.id)
  | byAlias (k : Document) (hk : k ∈ ks) (hkind : r.kind = .wiki ∨ r.kind = .aliasedWiki) :
      Backed ks r (.found .byAlias k.id)
  | byTitle (k : Document) (hk : k ∈ ks) (hkind : r.kind ≠ .code) :
      Backed ks r (.found .byTitle k.id)
  | ambiguous (hkind : r.kind = .wiki ∨ r.kind = .aliasedWiki) : Backed ks r .ambiguous
  | broken : Backed ks r .broken

/-- What is found for source code is backed. -/
theorem backed_codeOutcome (isOnDisk : String → Bool) (root : String) (ks : List Document)
    (d : Document) {r : Reference} (hkind : r.kind = .code) :
    Backed ks r (codeOutcome isOnDisk root d r) := by
  unfold codeOutcome
  split
  · exact .broken
  · split
    · exact .byCode _ hkind
    · exact .broken

/-- What is found for a name is backed, if the ids that were found belong to documents. -/
theorem backed_nameOutcome {ks : List Document} {r : Reference} {names : List String}
    {spelled : Option String} (hkind : r.kind ≠ .code)
    (hwiki : names ≠ [] → r.kind = .wiki ∨ r.kind = .aliasedWiki)
    (hnames : ∀ id ∈ names, ∃ k ∈ ks, k.id = id) (hspelled : ∀ id ∈ spelled, ∃ k ∈ ks, k.id = id) :
    Backed ks r (nameOutcome names spelled) := by
  -- No name, one name or several, as the name stage takes them.
  rcases names with _ | ⟨only, _ | _⟩
  · cases spelled with
    | some id =>
      obtain ⟨k, hk, rfl⟩ := hspelled id rfl
      exact .byTitle k hk hkind
    | none => exact .broken
  · obtain ⟨k, hk, rfl⟩ := hnames only List.mem_cons_self
    exact .byAlias k hk (hwiki (List.cons_ne_nil _ _))
  · exact .ambiguous (hwiki (List.cons_ne_nil _ _))

/-- What is found for a reference to a document is backed. -/
theorem backed_documentOutcome (isOnDisk : String → Bool) (ks : List Document) (d : Document)
    {r : Reference} (hkind : r.kind ≠ .code) : Backed ks r (documentOutcome isOnDisk ks d r) := by
  unfold documentOutcome
  extract_lets paths names
  split
  · rename_i hany
    obtain ⟨k, hk, hid⟩ := List.any_eq_true.mp hany
    rw [← beq_iff_eq.mp hid]
    exact .byId k hk hkind
  · split
    · rename_i id hpath
      obtain ⟨reading, hreading, hat⟩ := List.exists_of_findSome?_eq_some hpath
      obtain ⟨k, hk, rfl⟩ := exists_of_atReading? hat
      refine .byPath k hk ?_
      -- For any other kind there is no reading that could be at a document.
      by_contra hno
      simp [paths, hno] at hreading
    · refine backed_nameOutcome hkind ?_ ?_ ?_
      · intro hne
        by_contra hno
        exact hne (if_neg hno)
      · intro id hid
        have hid : id ∈ ids ks (·.isNamed r.rawTarget) := by
          by_contra hno
          simp [names, hno] at hid
        obtain ⟨k, hk, -, hkid⟩ := mem_ids.mp hid
        exact ⟨k, hk, hkid⟩
      · intro id hid
        obtain ⟨k, hk, -, hkid⟩ := exists_of_lowest? hid
        exact ⟨k, hk, hkid⟩

/-- Every outcome of a search is backed. -/
theorem backed_outcome (isOnDisk : String → Bool) (root : String) (ks : List Document)
    (d : Document) (r : Reference) : Backed ks r (outcome isOnDisk root ks d r) := by
  unfold outcome
  split
  · rename_i hkind
    exact backed_codeOutcome isOnDisk root ks d hkind
  · rename_i hkind
    exact backed_documentOutcome isOnDisk ks d hkind

/-! ### Searches of documents whose ids ascend -/

section Ascending

variable {ks : List Document} (h : (ks.map (·.id)).Pairwise (· < ·)) (question : Document → Bool)
include h

/-- Documents whose ids ascend are found in their order. -/
theorem ids_of_ascending : ids ks question = (ks.filter question).map (·.id) :=
  Ids.eq_of_mem_iff (Ids.ascending_ofList _) (h.sublist (List.filter_sublist.map _)) fun _ =>
    Ids.mem_ofList

/-- So the first of them that answers a question has the lowest id. -/
theorem lowest?_of_ascending : lowest? ks question = (ks.find? question).map (·.id) := by
  rw [lowest?, ids_of_ascending h, List.head?_map, List.head?_filter]

end Ascending

end Search

namespace Resolver

variable {c : Catalog} {ks : List Document} (isOnDisk : String → Bool)

/-! ### The stages as searches -/

section Stages

variable (h : c.Finds ks) (d : Document) (r : Reference)
include h

/-- The look-up of one reading is a search for it. -/
theorem documentAt?_eq_search : documentAt? ⟨c, isOnDisk⟩ = Search.atReading? isOnDisk ks := by
  funext reading
  cases reading <;>
    simp only [documentAt?, Search.atReading?, h.findByPath?,
      Search.lowest?_of_ascending h.ascending]

/-- The stage for ids finds a document if one has the target as its id. -/
theorem run?_id_eq_search : run? ⟨c, isOnDisk⟩ d r .id =
    if ks.any (·.id == r.rawTarget) then some (.found .id r.rawTarget) else none := by
  simp only [run?, h.findById?]
  cases hfind : ks.find? (·.id == r.rawTarget) with
  | none => simpa using hfind
  | some k =>
    have hk : k.id = r.rawTarget := by simpa using List.find?_some hfind
    have hany : ks.any (·.id == r.rawTarget) = true :=
      List.any_eq_true.mpr ⟨k, List.mem_of_find?_eq_some hfind, by simpa using hk⟩
    simp [hany, hk]

/-- The stage for locations finds the document at the first reading that has one. -/
theorem run?_path_eq_search : run? ⟨c, isOnDisk⟩ d r .path =
    ((Candidate.ofTarget d r.rawTarget).findSome? (Search.atReading? isOnDisk ks)).map
      (.found .path) := by
  rw [run?, documentAt?_eq_search isOnDisk h]

/-- The stage for names finds all documents that have the target as a name. -/
theorem run?_exactName_eq_search : run? ⟨c, isOnDisk⟩ d r .exactName =
    match Search.ids ks (·.isNamed r.rawTarget) with
    | [] => none
    | [only] => some (.found .exactName only)
    | ids => some (.ambiguous ids) := by
  have hids : c.findByAlias r.rawTarget = Search.ids ks (·.isNamed r.rawTarget) := by
    rw [h.findByAlias, Search.ids_of_ascending h.ascending]
  unfold run? nameVerdict?
  -- One list stands on both sides; what the cases say of it is the same.
  generalize c.findByAlias r.rawTarget = found at hids ⊢
  subst hids
  rfl

/-- The stage for spellings finds the first document with the spelling of the target. -/
theorem run?_title_eq_search : run? ⟨c, isOnDisk⟩ d r .title =
    (Search.lowest? ks (·.isSpelled (Text.spellingKey r.rawTarget))).map (.found .title) := by
  rw [run?, h.findByTitle?, Search.lowest?_of_ascending h.ascending]

end Stages

/-- The stage for source code finds what a search finds. -/
theorem outcome_codeVerdict (d : Document) (r : Reference) :
    (codeVerdict ⟨c, isOnDisk⟩ d r).outcome = Search.codeOutcome isOnDisk c.root d r := by
  unfold codeVerdict Search.codeOutcome
  cases r.codeParts? with
  | none => rfl
  | some parts =>
    simp only
    split <;> rfl

/-! ### Stages after each other -/

/-- The outcome when only some stages are run. -/
def outcomeOf (v : Resolver) (d : Document) (r : Reference) (stages : List Stage) : Outcome :=
  ((stages.findSome? (v.run? d r)).getD .nothing).outcome

section Sequence

variable (h : c.Finds ks) (d : Document) (r : Reference)
include h

/-- Where ids come first, they are asked first. -/
theorem outcomeOf_id (stages : List Stage) : outcomeOf ⟨c, isOnDisk⟩ d r (.id :: stages) =
    if ks.any (·.id == r.rawTarget) then .found .byId r.rawTarget
    else outcomeOf ⟨c, isOnDisk⟩ d r stages := by
  unfold outcomeOf
  rw [List.findSome?_cons, run?_id_eq_search isOnDisk h]
  cases ks.any (·.id == r.rawTarget) <;> rfl

/-- Where locations come next, they are asked next. -/
theorem outcomeOf_path (stages : List Stage) : outcomeOf ⟨c, isOnDisk⟩ d r (.path :: stages) =
    match (Candidate.ofTarget d r.rawTarget).findSome? (Search.atReading? isOnDisk ks) with
    | some id => .found .byPath id
    | none => outcomeOf ⟨c, isOnDisk⟩ d r stages := by
  unfold outcomeOf
  rw [List.findSome?_cons, run?_path_eq_search isOnDisk h]
  cases (Candidate.ofTarget d r.rawTarget).findSome? (Search.atReading? isOnDisk ks) <;> rfl

/-- Where spellings come last, they decide. -/
theorem outcomeOf_title : outcomeOf ⟨c, isOnDisk⟩ d r [.title] =
    Search.nameOutcome [] (Search.lowest? ks (·.isSpelled (Text.spellingKey r.rawTarget))) := by
  unfold outcomeOf
  rw [List.findSome?_cons, run?_title_eq_search isOnDisk h]
  cases Search.lowest? ks (·.isSpelled (Text.spellingKey r.rawTarget)) <;> rfl

/-- Names and spellings are asked after each other. -/
theorem outcomeOf_exactName_title : outcomeOf ⟨c, isOnDisk⟩ d r [.exactName, .title] =
    Search.nameOutcome (Search.ids ks (·.isNamed r.rawTarget))
      (Search.lowest? ks (·.isSpelled (Text.spellingKey r.rawTarget))) := by
  have htitle := outcomeOf_title isOnDisk h d r
  unfold outcomeOf at htitle ⊢
  rw [List.findSome?_cons, run?_exactName_eq_search isOnDisk h]
  rcases Search.ids ks (·.isNamed r.rawTarget) with _ | ⟨only, _ | _⟩
  · exact htitle
  · rfl
  · rfl

/-- A resolver whose catalog finds exactly some documents resolves as a search of them does. -/
theorem resolve_eq_search :
    resolve ⟨c, isOnDisk⟩ d r = Search.outcome isOnDisk c.root ks d r := by
  show outcomeOf ⟨c, isOnDisk⟩ d r (Stage.ofKind r.kind) = _
  unfold Search.outcome Search.documentOutcome
  -- What the stages of a kind do not look for is empty in the search.
  cases hkind : r.kind with
  | code => exact outcome_codeVerdict isOnDisk d r
  | plain =>
    rw [Stage.ofKind_plain, outcomeOf_id isOnDisk h, outcomeOf_path isOnDisk h,
      outcomeOf_title isOnDisk h]
    rfl
  | wiki =>
    rw [Stage.ofKind_wiki, outcomeOf_id isOnDisk h, outcomeOf_path isOnDisk h,
      outcomeOf_exactName_title isOnDisk h]
    rfl
  | aliasedWiki =>
    rw [Stage.ofKind_aliasedWiki, outcomeOf_id isOnDisk h, outcomeOf_exactName_title isOnDisk h]
    rfl

end Sequence

/-- Resolving against the catalog of a corpus is a search of the documents that keep their ids. -/
theorem resolve_build_eq_search (isOnDisk : String → Bool) (root : String) (ds : List Document)
    (d : Document) (r : Reference) :
    resolve ⟨Catalog.build root ds, isOnDisk⟩ d r =
      Search.outcome isOnDisk root (Corpus.kept ds) d r := by
  rw [resolve_eq_search isOnDisk (Catalog.finds_build root ds), Catalog.root_build]

end Resolver

end LinkAtlas
