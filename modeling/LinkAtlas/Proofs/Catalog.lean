import LinkAtlas.Proofs.Corpus

namespace LinkAtlas

/-!
# What the look-ups of a catalog find

A catalog keeps four tables, each with its own rule for two documents with one key. Because
documents are entered in ascending order of ids, all four say the same: the lowest id wins.

* `Document.liesAt`, `Document.isNamed`, `Document.isSpelled` — the questions behind the tables,
  asked of one document;
* `Catalog.Finds` — the tables of a catalog agree with a search of a list of documents;
* `Catalog.Finds.insert` — entering a document with a higher id keeps the agreement, table by table;
* `Catalog.Finds.add_cases` — what entering the next document of an arranged corpus does;
* `Catalog.finds_foldl_add` — what entering arranged documents one after the other does;
* `Catalog.finds_build` — the catalog of a corpus finds exactly the documents that keep their ids.
-/

namespace Document

/-- Whether a document lies at a path, be it its location on disk or the one below the content root.
    Nothing lies at the empty path. -/
def liesAt (path : String) (d : Document) : Bool :=
  path != "" && (d.relPath == path || d.path == path)

/-- Whether a document has a name as its title or as an alias. -/
def isNamed (name : String) (d : Document) : Bool := d.title == name || d.aliases.contains name

/-- Whether a document has a title with a spelling. No title counts for the empty spelling. -/
def isSpelled (key : String) (d : Document) : Bool :=
  key != "" && Text.spellingKey d.title == key

end Document

namespace Catalog

/-! ### The questions and the keys -/

/-- The keys of a document among the locations are the paths that it lies at. -/
theorem mem_pathsOf {d : Document} {path : String} : path ∈ pathsOf d ↔ d.liesAt path = true := by
  simp only [pathsOf, Document.liesAt, List.mem_filter, List.mem_cons, List.not_mem_nil, or_false,
    Bool.and_eq_true, Bool.or_eq_true, beq_iff_eq]
  rw [and_comm, eq_comm (a := path), eq_comm (a := path)]

/-- The keys of a document among the names are those that it has. -/
theorem mem_namesOf {d : Document} {name : String} : name ∈ namesOf d ↔ d.isNamed name = true := by
  simp only [namesOf, Document.isNamed, List.mem_cons, Bool.or_eq_true, beq_iff_eq,
    List.contains_iff_mem]
  rw [eq_comm]

/-! ### One table after a document is entered -/

section Tables

variable (id : String)

/-- A path leads where it led before; a new one leads to the document. -/
theorem getElem?_addPath (paths : Std.TreeMap String String) (p path : String) :
    (addPath id paths p)[path]? = (paths[path]?).or (if path = p then some id else none) := by
  simp only [addPath, Std.TreeMap.getElem?_insertIfNew, Std.LawfulEqCmp.compare_eq_iff_eq,
    Std.TreeMap.mem_iff_isSome_getElem?]
  by_cases hp : path = p
  · subst hp
    cases paths[path]? <;> simp
  · simp [hp, Ne.symm hp]

/-- Several paths of a document are entered as one is: old ones stay with their owners. -/
theorem getElem?_foldl_addPath (paths : Std.TreeMap String String) (ps : List String)
    (path : String) :
    (ps.foldl (addPath id) paths)[path]? =
      (paths[path]?).or (if path ∈ ps then some id else none) := by
  induction ps generalizing paths with
  | nil => simp
  | cons p ps ih =>
    rw [List.foldl_cons, ih, getElem?_addPath]
    by_cases hp : path = p <;> by_cases hps : path ∈ ps <;> cases paths[path]? <;> simp [hp, hps]

/-- A name gets the id among its ids; the ids of other names stay. -/
theorem getElem?_addName (names : Std.TreeMap String (List String)) (n name : String) :
    ((addName id names n)[name]?).getD [] =
      if name = n then Ids.insert id ((names[name]?).getD []) else (names[name]?).getD [] := by
  simp only [addName, Std.TreeMap.getElem?_alter, Std.LawfulEqCmp.compare_eq_iff_eq]
  by_cases hn : name = n
  · subst hn
    simp
  · simp [hn, Ne.symm hn]

/-- Several names of a document are entered as one is. -/
theorem getElem?_foldl_addName (names : Std.TreeMap String (List String)) (ns : List String)
    (name : String) :
    ((ns.foldl (addName id) names)[name]?).getD [] =
      if name ∈ ns then Ids.insert id ((names[name]?).getD []) else (names[name]?).getD [] := by
  induction ns generalizing names with
  | nil => simp
  | cons n ns ih =>
    rw [List.foldl_cons, ih, getElem?_addName]
    -- A name that is given twice does not get the id twice.
    by_cases hn : name = n <;> by_cases hns : name ∈ ns <;> simp [hn, hns, Ids.insert_insert]

/-- A spelling gets the id when it is the lowest so far. -/
theorem getElem?_addTitle (titles : Std.TreeMap String String) (title key : String) :
    (addTitle id titles title)[key]? =
      if key ≠ "" ∧ Text.spellingKey title = key then
        some (match titles[key]? with
          | none => id
          | some owner => if id < owner then id else owner)
      else titles[key]? := by
  -- An empty spelling is never a key, and only the spelling of this title changes.
  by_cases hkey : Text.spellingKey title = key
  · subst hkey
    by_cases hempty : Text.spellingKey title = ""
    · simp [addTitle, hempty]
    · simp only [addTitle, hempty, if_false, Std.TreeMap.getElem?_alter_self, ne_eq,
        not_false_eq_true, true_and, if_true]
      cases titles[Text.spellingKey title]? <;> rfl
  · by_cases hempty : Text.spellingKey title = ""
    · simp [addTitle, hempty]
    · simp [addTitle, hempty, hkey, Std.TreeMap.getElem?_alter, Std.LawfulEqCmp.compare_eq_iff_eq]

end Tables

/-! ### All tables -/

/-- The tables of a catalog agree with a search of documents whose ids ascend: each key leads to the
    first document that answers its question, and a name leads to all of them. The ids of these
    documents are those in the list of ids, in its order. -/
structure Finds (c : Catalog) (ks : List Document) : Prop where
  ascending : (ks.map (·.id)).Pairwise (· < ·)
  order_eq : c.order = ks.map (·.id)
  size_eq : c.size = ks.length
  byId : ∀ id, c.byId[id]? = ks.find? (·.id == id)
  byPath : ∀ path, c.byPath[path]? = (ks.find? (·.liesAt path)).map (·.id)
  byAlias : ∀ name, (c.byAlias[name]?).getD [] = (ks.filter (·.isNamed name)).map (·.id)
  byTitle : ∀ key, c.byTitle[key]? = (ks.find? (·.isSpelled key)).map (·.id)

namespace Finds

variable {c : Catalog} {ks : List Document} {d : Document}

/-- A catalog without documents finds none. -/
theorem empty (root : String) : Finds (Catalog.empty root) [] where
  ascending := List.Pairwise.nil
  order_eq := rfl
  size_eq := Std.TreeMap.size_emptyc
  byId _ := Std.TreeMap.getElem?_emptyc
  byPath _ := Std.TreeMap.getElem?_emptyc
  byAlias _ := by simp [Catalog.empty]
  byTitle _ := Std.TreeMap.getElem?_emptyc

/-- An id above all others is not in use. -/
theorem byId_eq_none (h : Finds c ks) (hd : ∀ k ∈ ks, k.id < d.id) : c.byId[d.id]? = none := by
  rw [h.byId, List.find?_eq_none]
  intro k hk
  simpa using Std.ne_of_lt (hd k hk)

/-- What the tables say of a document with an id above all others that is entered. -/
theorem insert (h : Finds c ks) (hd : ∀ k ∈ ks, k.id < d.id) : Finds (c.insert d) (ks ++ [d]) where
  ascending := by
    rw [List.map_append]
    refine List.pairwise_append.mpr ⟨h.ascending, List.pairwise_singleton .., fun id hid e he => ?_⟩
    obtain ⟨k, hk, rfl⟩ := List.mem_map.mp hid
    rw [List.mem_singleton.mp he]
    exact hd k hk
  order_eq := by rw [Catalog.insert, h.order_eq, List.map_append, List.map_singleton]
  size_eq := by
    have hnew : c.byId.contains d.id = false := by
      rw [Std.TreeMap.contains_eq_isSome_getElem?, h.byId_eq_none hd, Option.isSome_none]
    have hsize : c.byId.size = ks.length := h.size_eq
    simp [size, Catalog.insert, Std.TreeMap.size_insert, hnew, hsize]
  byId id := by
    simp only [Catalog.insert, Std.TreeMap.getElem?_insert, Std.LawfulEqCmp.compare_eq_iff_eq,
      h.byId, List.find?_append, List.find?_singleton, beq_iff_eq]
    by_cases hid : d.id = id
    · -- No document from before has the id, so the new one is the first.
      have hnone : ks.find? (·.id == id) = none := by
        rw [List.find?_eq_none]
        intro k hk
        simpa [← hid] using Std.ne_of_lt (hd k hk)
      simp [hid, hnone]
    · simp [hid]
  byPath path := by
    simp only [Catalog.insert, getElem?_foldl_addPath, h.byPath, mem_pathsOf, List.find?_append,
      List.find?_singleton]
    cases ks.find? (·.liesAt path) <;> by_cases hp : d.liesAt path <;> simp [hp]
  byAlias name := by
    -- The new id comes after all ids with the name.
    have habove : ∀ id ∈ (ks.filter (·.isNamed name)).map (·.id), id < d.id := by
      intro id hid
      obtain ⟨k, hk, rfl⟩ := List.mem_map.mp hid
      exact hd k (List.mem_filter.mp hk).1
    simp only [Catalog.insert, getElem?_foldl_addName, h.byAlias, mem_namesOf, List.filter_append,
      List.map_append, Ids.insert_of_forall_lt habove]
    by_cases hn : d.isNamed name <;> simp [hn]
  byTitle key := by
    simp only [Catalog.insert, getElem?_addTitle, h.byTitle, List.find?_append,
      List.find?_singleton, Document.isSpelled, Bool.and_eq_true, bne_iff_ne, beq_iff_eq]
    by_cases hkey : key ≠ "" ∧ Text.spellingKey d.title = key
    · cases hfind : ks.find? fun k => key != "" && Text.spellingKey k.title == key with
      | none => simp [hkey]
      | some k =>
        -- The owner so far has the lower id and stays.
        have hlt := hd k (List.mem_of_find?_eq_some hfind)
        simp [hkey, Std.not_lt.mpr (Std.le_of_lt hlt)]
    · simp [hkey]

/-- The tables find no less and no more when only the list of duplicates grows. -/
theorem withDuplicates (h : Finds c ks) (ds : List Duplicate) :
    Finds { c with duplicates := ds } ks :=
  ⟨h.ascending, h.order_eq, h.size_eq, h.byId, h.byPath, h.byAlias, h.byTitle⟩

/-- A document whose id is taken changes no table and joins the duplicates. -/
theorem add_taken (h : Finds c ks) {k : Document} (hk : k ∈ ks) (hid : k.id = d.id) :
    Finds (c.add d) ks ∧
      (c.add d).duplicates = c.duplicates ++ [⟨d.id, d.relPath, k.relPath⟩] := by
  have hfound : c.byId[d.id]? = some k := by
    rw [h.byId, ← hid]
    exact Corpus.find?_of_ascending h.ascending hk
  have hadd : c.add d =
      { c with duplicates := c.duplicates ++ [⟨d.id, d.relPath, k.relPath⟩] } := by
    simp only [add, hfound]
  rw [hadd]
  exact ⟨h.withDuplicates _, rfl⟩

/-- A document with an id above all others is entered. -/
theorem add_new (h : Finds c ks) (hd : ∀ k ∈ ks, k.id < d.id) :
    Finds (c.add d) (ks ++ [d]) ∧ (c.add d).duplicates = c.duplicates := by
  have hadd : c.add d = c.insert d := by simp only [add, h.byId_eq_none hd]
  rw [hadd]
  exact ⟨h.insert hd, rfl⟩

/-- What entering a document does that may stand after the last one: it repeats the id of that one,
    or it is new. -/
theorem add_cases (h : Finds c ks) (hd : ∀ k ∈ ks.getLast?, k.precedes d = true) :
    (∃ k, ks.getLast? = some k ∧ k.id = d.id ∧ Finds (c.add d) ks ∧
      (c.add d).duplicates = c.duplicates ++ [⟨d.id, d.relPath, k.relPath⟩]) ∨
    (∀ k ∈ ks.getLast?, k.id ≠ d.id) ∧ Finds (c.add d) (ks ++ [d]) ∧
      (c.add d).duplicates = c.duplicates := by
  rcases List.eq_nil_or_concat ks with rfl | ⟨init, last, rfl⟩
  · exact .inr ⟨nofun, h.add_new (d := d) (by simp)⟩
  · rw [List.concat_eq_append] at *
    rw [List.getLast?_concat] at *
    by_cases hid : last.id = d.id
    · exact .inl ⟨last, rfl, hid, h.add_taken (List.mem_append_right init List.mem_cons_self) hid⟩
    · -- The ids entered so far ascend to that of the last document, which is lower.
      have hlast : last.id < d.id :=
        Std.lt_of_le_of_ne (Document.id_le_of_precedes (hd last rfl)) hid
      have habove : ∀ k ∈ init ++ [last], k.id < d.id := by
        intro k hk
        rcases List.mem_append.mp hk with hk | hk
        · have hasc := h.ascending
          rw [List.map_append] at hasc
          exact String.lt_trans ((List.pairwise_append.mp hasc).2.2 k.id
            (List.mem_map_of_mem hk) last.id List.mem_cons_self) hlast
        · rwa [List.mem_singleton.mp hk]
      exact .inr ⟨fun k hk => by rwa [← Option.some.inj hk], h.add_new habove⟩

end Finds

/-- After arranged documents are entered, the tables find those among them that have a new id. -/
theorem finds_foldl_add {c : Catalog} {ks es : List Document} (h : Finds c ks)
    (hes : (ks.getLast?.toList ++ es).Pairwise fun a b => a.precedes b = true) :
    Finds (es.foldl add c) (ks ++ (Scan.keepAfter ks.getLast? es).1) := by
  -- By induction on what is still to be added; `ks` are the documents kept so far.
  induction es generalizing c ks with
  | nil => simpa [Scan.keepAfter] using h
  | cons e es ih =>
    have hlast : ∀ k ∈ ks.getLast?, k.precedes e = true := fun k hk =>
      (List.pairwise_append.mp hes).2.2 k (Option.mem_toList.mpr hk) e List.mem_cons_self
    rw [List.foldl_cons]
    -- The id is the last one's again, or it is new and greater than all of them.
    rcases h.add_cases hlast with ⟨k, hk, hid, hfinds, -⟩ | ⟨hnew, hfinds, -⟩
    · rw [hk, Scan.keepAfter_cons_repeated hid, ← hk]
      exact ih hfinds (hes.sublist ((List.Sublist.refl _).append (List.sublist_cons_self e es)))
    · rw [Scan.keepAfter_cons_new hnew]
      have hstep := ih hfinds
      rw [List.getLast?_concat, List.append_assoc] at hstep
      exact hstep (hes.sublist (List.sublist_append_right _ _))

/-- The catalog of a corpus finds exactly the documents that keep their ids. -/
theorem finds_build (root : String) (ds : List Document) :
    Finds (build root ds) (Corpus.kept ds) := by
  rw [← Corpus.keepFirst_documents]
  exact finds_foldl_add (.empty root) (Corpus.pairwise_arranged ds)

/-- No document that is entered changes the content root. -/
theorem root_foldl_add (c : Catalog) (ds : List Document) : (ds.foldl add c).root = c.root := by
  induction ds generalizing c with
  | nil => rfl
  | cons d ds ih =>
    rw [List.foldl_cons, ih]
    unfold add
    split <;> rfl

/-- The catalog of a corpus has the content root that it was built with. -/
@[simp] theorem root_build (root : String) (ds : List Document) : (build root ds).root = root :=
  root_foldl_add ..

/-! ### Look-ups -/

namespace Finds

variable {c : Catalog} {ks : List Document}

/-- Looking up an id is a search for the document with it. -/
theorem findById? (h : Finds c ks) (id : String) : c.findById? id = ks.find? (·.id == id) :=
  h.byId id

/-- Looking up a path is a search for the first document that lies at it. -/
theorem findByPath? (h : Finds c ks) (path : String) :
    c.findByPath? path = (ks.find? (·.liesAt path)).map (·.id) := h.byPath path

/-- Looking up a name is a search for all documents that have it. -/
theorem findByAlias (h : Finds c ks) (name : String) :
    c.findByAlias name = (ks.filter (·.isNamed name)).map (·.id) := h.byAlias name

/-- Looking up a title is a search for the first document with its spelling. -/
theorem findByTitle? (h : Finds c ks) (title : String) :
    c.findByTitle? title = (ks.find? (·.isSpelled (Text.spellingKey title))).map (·.id) := by
  by_cases hkey : Text.spellingKey title = ""
  · have hnone : ks.find? (·.isSpelled "") = none :=
      List.find?_eq_none.mpr fun _ _ => by simp [Document.isSpelled]
    simp [Catalog.findByTitle?, hkey, hnone]
  · simp [Catalog.findByTitle?, hkey, h.byTitle]

end Finds

end Catalog

end LinkAtlas
