namespace LinkAtlas.Ids

/-!
# Ids in ascending order

* `insert` — puts an id at its place, once; `ofList` — the ids of a list in ascending order;
* `mem_insert`, `mem_ofList` — which ids are there;
* `ascending_insert`, `ascending_ofList` — the order, without repeats;
* `insert_insert`, `insert_of_forall_lt`, `exists_insert_eq` — an id put twice, a highest id, and a
  new id;
* `eq_of_mem_iff` — ids in ascending order are told apart by their members alone.
-/

/-- Puts an id at its place among ascending ids, once. -/
def insert (id : String) : List String → List String
  | [] => [id]
  | other :: rest =>
    if id < other then id :: other :: rest
    else if id = other then other :: rest
    else other :: insert id rest

/-- The ids of a list in ascending order, each once. -/
def ofList (ids : List String) : List String := ids.foldl (fun sorted id => insert id sorted) []

/-- What is in a list of ids after one is put in. -/
@[simp] theorem mem_insert {id other : String} {ids : List String} :
    other ∈ insert id ids ↔ other = id ∨ other ∈ ids := by
  induction ids with
  | nil => simp [insert]
  | cons head rest ih =>
    unfold insert
    split
    · simp
    · split
      · rename_i h
        subst h
        simp
      · simp only [List.mem_cons, ih]
        constructor
        · rintro (h | h | h) <;> simp [h]
        · rintro (h | h | h) <;> simp [h]

/-- A list of ids still ascends after one is put in, even if it was there before. -/
theorem ascending_insert (id : String) {ids : List String} (h : ids.Pairwise (· < ·)) :
    (insert id ids).Pairwise (· < ·) := by
  induction ids with
  | nil => simp [insert]
  | cons head rest ih =>
    obtain ⟨hhead, hrest⟩ := List.pairwise_cons.mp h
    unfold insert
    split
    · rename_i hlt
      refine List.pairwise_cons.mpr ⟨fun other hm => ?_, h⟩
      rcases List.mem_cons.mp hm with rfl | hm
      · exact hlt
      · exact String.lt_trans hlt (hhead other hm)
    · split
      · exact h
      · rename_i hlt hne
        refine List.pairwise_cons.mpr ⟨fun other hm => ?_, ih hrest⟩
        rcases mem_insert.mp hm with rfl | hm
        · exact Std.lt_of_le_of_ne (String.not_lt.mp hlt) (Ne.symm hne)
        · exact hhead other hm

/-- To put in an id twice is to put it in once. -/
theorem insert_insert (id : String) (ids : List String) :
    insert id (insert id ids) = insert id ids := by
  induction ids with
  | nil => simp [insert]
  | cons head rest ih =>
    by_cases hlt : id < head
    · simp [insert, hlt]
    · by_cases heq : id = head
      · subst heq
        simp [insert]
      · simp [insert, hlt, heq, ih]

/-- An id above all others comes last. -/
theorem insert_of_forall_lt {id : String} {ids : List String} (h : ∀ other ∈ ids, other < id) :
    insert id ids = ids ++ [id] := by
  induction ids with
  | nil => rfl
  | cons head rest ih =>
    have hlt : head < id := h head List.mem_cons_self
    have hne : id ≠ head := (Std.ne_of_lt hlt).symm
    simp [insert, Std.not_lt.mpr (Std.le_of_lt hlt), hne,
      ih fun other ho => h other (List.mem_cons_of_mem head ho)]

/-- A new id is put between two parts of the list. -/
theorem exists_insert_eq {id : String} {ids : List String} (h : id ∉ ids) :
    ∃ low high, ids = low ++ high ∧ insert id ids = low ++ id :: high := by
  induction ids with
  | nil => exact ⟨[], [], rfl, rfl⟩
  | cons head rest ih =>
    rw [List.mem_cons, not_or] at h
    by_cases hlt : id < head
    · exact ⟨[], head :: rest, rfl, by simp [insert, hlt]⟩
    · obtain ⟨low, high, hrest, hinsert⟩ := ih h.2
      exact ⟨head :: low, high, by simp [hrest], by simp [insert, hlt, h.1, hinsert]⟩

/-- Putting in ids one after the other keeps the order and loses none, whatever the list started
    with. -/
private theorem foldl_insert (ids sorted : List String) (h : sorted.Pairwise (· < ·)) :
    (ids.foldl (fun sorted id => insert id sorted) sorted).Pairwise (· < ·) ∧
      ∀ other, other ∈ ids.foldl (fun sorted id => insert id sorted) sorted ↔
        other ∈ ids ∨ other ∈ sorted := by
  induction ids generalizing sorted with
  | nil => exact ⟨h, fun _ => by simp⟩
  | cons id rest ih =>
    obtain ⟨h1, h2⟩ := ih (insert id sorted) (ascending_insert id h)
    refine ⟨h1, fun other => ?_⟩
    simp only [List.foldl_cons, h2, mem_insert, List.mem_cons]
    constructor
    · rintro (h | h | h) <;> simp [h]
    · rintro ((h | h) | h) <;> simp [h]

/-- The ids of a list come out in ascending order. -/
theorem ascending_ofList (ids : List String) : (ofList ids).Pairwise (· < ·) :=
  (foldl_insert ids [] List.Pairwise.nil).1

/-- The ids of a list come out, and no others. -/
@[simp] theorem mem_ofList {other : String} {ids : List String} :
    other ∈ ofList ids ↔ other ∈ ids := by
  simp [ofList, (foldl_insert ids [] List.Pairwise.nil).2]

/-- Two lists in ascending order with the same ids are equal. -/
theorem eq_of_mem_iff {ids others : List String} (h : ids.Pairwise (· < ·))
    (h' : others.Pairwise (· < ·)) (hm : ∀ id, id ∈ ids ↔ id ∈ others) : ids = others := by
  induction ids generalizing others with
  | nil =>
    cases others with
    | nil => rfl
    | cons other rest => exact absurd ((hm other).mpr List.mem_cons_self) List.not_mem_nil
  | cons id ids ih =>
    cases others with
    | nil => exact absurd ((hm id).mp List.mem_cons_self) List.not_mem_nil
    | cons other rest =>
      obtain ⟨hid, hids⟩ := List.pairwise_cons.mp h
      obtain ⟨hother, hrest⟩ := List.pairwise_cons.mp h'
      -- The least id of one list is the least of the other.
      have heq : id = other := by
        rcases List.mem_cons.mp ((hm id).mp List.mem_cons_self) with he | hlt
        · exact he
        · rcases List.mem_cons.mp ((hm other).mpr List.mem_cons_self) with he | hgt
          · exact he.symm
          · exact absurd (String.lt_trans (hid other hgt) (hother id hlt)) (String.lt_irrefl id)
      subst heq
      rw [ih hids hrest fun x => ?_]
      constructor
      · intro hx
        rcases List.mem_cons.mp ((hm x).mp (List.mem_cons_of_mem _ hx)) with he | hx'
        · exact absurd (he ▸ hid x hx) (String.lt_irrefl id)
        · exact hx'
      · intro hx
        rcases List.mem_cons.mp ((hm x).mpr (List.mem_cons_of_mem _ hx)) with he | hx'
        · exact absurd (he ▸ hother x hx) (String.lt_irrefl id)
        · exact hx'

end LinkAtlas.Ids
