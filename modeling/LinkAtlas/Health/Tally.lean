namespace LinkAtlas

/-!
# Tallies

* `Tally` — numbers by name, names in ascending order without repeats;
* `Tally.put` — sets the number of a name, `Tally.count` — adds one to it;
* `get?_put`, `get?_count`, `get?_ofNames` — what a name has after `put`, after `count`, and in the
  tally of a list;
* `ofEntries_entries` — a tally can be built again from its numbers;
* `eq_of_lookup_eq`, `ofNames_perm` — the numbers of all names tell a tally, so that of a list does
  not depend on the order;
* `Tally.total` — the sum of all numbers, `total_ofNames` — which is the length of the list.
-/

/-- Numbers by name. -/
structure Tally where
  entries : List (String × Nat)
  ascending : entries.Pairwise fun a b => a.1 < b.1

namespace Tally

@[ext] theorem ext {s t : Tally} (h : s.entries = t.entries) : s = t := by
  cases s
  cases t
  cases h
  rfl

/-- Nothing has been counted. -/
def empty : Tally := ⟨[], List.Pairwise.nil⟩

/-- The number of a name. -/
def get? (t : Tally) (name : String) : Option Nat := t.entries.lookup name

/-- Sets the number of a name in a list with ascending names. -/
def putEntry (name : String) (n : Nat) : List (String × Nat) → List (String × Nat)
  | [] => [(name, n)]
  | (other, m) :: rest =>
    if name < other then (name, n) :: (other, m) :: rest
    else if name = other then (name, n) :: rest
    else (other, m) :: putEntry name n rest

/-- An entry of a changed list is the one put in, or was there before. -/
theorem mem_putEntry {name : String} {n : Nat} {es : List (String × Nat)} {e : String × Nat}
    (h : e ∈ putEntry name n es) : e = (name, n) ∨ e ∈ es := by
  induction es with
  | nil => simpa [putEntry] using h
  | cons p rest ih =>
    obtain ⟨other, m⟩ := p
    unfold putEntry at h
    split at h
    · simpa using h
    · split at h
      · rcases List.mem_cons.mp h with h | h
        · exact .inl h
        · exact .inr (List.mem_cons_of_mem _ h)
      · rcases List.mem_cons.mp h with h | h
        · exact .inr (h ▸ List.mem_cons_self)
        · rcases ih h with h | h
          · exact .inl h
          · exact .inr (List.mem_cons_of_mem _ h)

/-- The names ascend after an entry is put in. -/
theorem ascending_putEntry (name : String) (n : Nat) {es : List (String × Nat)}
    (h : es.Pairwise fun a b => a.1 < b.1) :
    (putEntry name n es).Pairwise fun a b => a.1 < b.1 := by
  induction es with
  | nil => simp [putEntry]
  | cons p rest ih =>
    obtain ⟨other, m⟩ := p
    obtain ⟨hp, hrest⟩ := List.pairwise_cons.mp h
    unfold putEntry
    split
    · rename_i hlt
      refine List.pairwise_cons.mpr ⟨fun e he => ?_, h⟩
      rcases List.mem_cons.mp he with rfl | he
      · exact hlt
      · exact String.lt_trans hlt (hp e he)
    · split
      · rename_i heq
        subst heq
        exact List.pairwise_cons.mpr ⟨hp, hrest⟩
      · rename_i hlt hne
        refine List.pairwise_cons.mpr ⟨fun e he => ?_, ih hrest⟩
        rcases mem_putEntry he with rfl | he
        · exact Std.lt_of_le_of_ne (String.not_lt.mp hlt) (Ne.symm hne)
        · exact hp e he

/-- Sets the number of a name. -/
def put (t : Tally) (name : String) (n : Nat) : Tally :=
  ⟨putEntry name n t.entries, ascending_putEntry name n t.ascending⟩

/-- Adds one to the number of a name. -/
def count (t : Tally) (name : String) : Tally := t.put name ((t.get? name).getD 0 + 1)

/-- The tally of a list of names. -/
def ofNames (names : List String) : Tally := names.foldl count empty

/-- The tally with given numbers; of a repeated name the last counts. -/
def ofEntries (es : List (String × Nat)) : Tally := es.foldl (fun t (name, n) => t.put name n) empty

/-- Looking up a name in a list that starts with an entry. -/
private theorem lookup_cons_ite (name other : String) (n : Nat) (es : List (String × Nat)) :
    List.lookup other ((name, n) :: es) = if other = name then some n else es.lookup other := by
  by_cases h : other = name
  · simp [h]
  · have hb : (other == name) = false := by simpa using h
    simp [List.lookup_cons, hb, h]

/-- After an entry is put in, its name has the new number and all others have theirs. -/
theorem lookup_putEntry (name other : String) (n : Nat) (es : List (String × Nat)) :
    (putEntry name n es).lookup other = if other = name then some n else es.lookup other := by
  induction es with
  | nil => simp [putEntry, lookup_cons_ite]
  | cons p rest ih =>
    obtain ⟨k, m⟩ := p
    unfold putEntry
    split
    · rw [lookup_cons_ite]
    · split
      · rename_i h
        subst h
        rw [lookup_cons_ite, lookup_cons_ite]
        split <;> rfl
      · rename_i h
        rw [lookup_cons_ite, lookup_cons_ite, ih]
        by_cases hk : other = k
        · subst hk
          simp [Ne.symm h]
        · simp [hk]

/-- A tally in which a number is put has that number under its name, and the others as before. -/
theorem get?_put (t : Tally) (name other : String) (n : Nat) :
    (t.put name n).get? other = if other = name then some n else t.get? other :=
  lookup_putEntry name other n t.entries

/-- Counting a name adds one to its number and to no other. -/
theorem get?_count (t : Tally) (name other : String) :
    (t.count name).get? other =
      if other = name then some ((t.get? name).getD 0 + 1) else t.get? other :=
  get?_put t name other _

/-- A name that was never counted has no number; any other has the number of times it was. -/
theorem get?_ofNames (names : List String) (name : String) :
    (ofNames names).get? name = if name ∈ names then some (names.count name) else none := by
  -- The tally changes with every name, so the lemma is about any tally to start from.
  have hfold (t : Tally) : (names.foldl count t).get? name =
      if name ∈ names then some ((t.get? name).getD 0 + names.count name) else t.get? name := by
    induction names generalizing t with
    | nil => simp
    | cons head rest ih =>
      rw [List.foldl_cons, ih, get?_count]
      by_cases hhead : name = head
      · subst hhead
        by_cases hrest : name ∈ rest
        · simp [hrest, Nat.add_assoc, Nat.add_comm 1]
        · simp [hrest, List.count_eq_zero_of_not_mem]
      · simp [hhead, Ne.symm hhead]
  have hempty : empty.get? name = none := rfl
  rw [ofNames, hfold, hempty, Option.getD_none, Nat.zero_add]

/-- A name behind all names of a list is put at the end. -/
theorem putEntry_of_lt {name : String} {n : Nat} {es : List (String × Nat)}
    (h : ∀ e ∈ es, e.1 < name) : putEntry name n es = es ++ [(name, n)] := by
  induction es with
  | nil => rfl
  | cons e rest ih =>
    have hlt := h e List.mem_cons_self
    have hne : name ≠ e.1 := fun heq => String.lt_irrefl _ (heq ▸ hlt)
    rw [putEntry, if_neg (String.lt_asymm hlt), if_neg hne,
      ih fun e' he' => h e' (List.mem_cons_of_mem _ he'), List.cons_append]

/-- A tally is the tally with its own numbers. -/
theorem ofEntries_entries (t : Tally) : ofEntries t.entries = t := by
  -- The entries are put one by one, so the lemma is about a tally that has the first of them.
  have hfold (es : List (String × Nat)) (s : Tally)
      (h : (s.entries ++ es).Pairwise fun a b => a.1 < b.1) :
      (es.foldl (fun t (name, n) => t.put name n) s).entries = s.entries ++ es := by
    induction es generalizing s with
    | nil => rw [List.foldl_nil, List.append_nil]
    | cons e rest ih =>
      have hput : (s.put e.1 e.2).entries = s.entries ++ [e] :=
        putEntry_of_lt fun e' he' => (List.pairwise_append.mp h).2.2 e' he' e List.mem_cons_self
      rw [List.foldl_cons, ih (s.put e.1 e.2) (by simpa [hput] using h), hput, List.append_assoc,
        List.singleton_append]
  exact ext (hfold t.entries empty t.ascending)

/-- The sum of all numbers. -/
def total (t : Tally) : Nat := (t.entries.map (·.2)).foldr (· + ·) 0

/-- A name below all others is not in the list. -/
theorem lookup_eq_none_of_lt {name : String} {es : List (String × Nat)}
    (h : ∀ e ∈ es, name < e.1) : es.lookup name = none := by
  rw [List.lookup_eq_none_iff]
  intro e he
  have hne : name ≠ e.1 := Std.ne_of_lt (h e he)
  simpa using hne

/-- Two lists with ascending names that have the same number for every name are equal. -/
theorem eq_of_lookup_eq {es fs : List (String × Nat)} (hes : es.Pairwise fun a b => a.1 < b.1)
    (hfs : fs.Pairwise fun a b => a.1 < b.1) (h : ∀ name, es.lookup name = fs.lookup name) :
    es = fs := by
  induction es generalizing fs with
  | nil =>
    cases fs with
    | nil => rfl
    | cons f fs => exact absurd (h f.1).symm (by simp)
  | cons e es ih =>
    cases fs with
    | nil => exact absurd (h e.1) (by simp)
    | cons f fs =>
      obtain ⟨name, n⟩ := e
      obtain ⟨other, m⟩ := f
      obtain ⟨he, hrest⟩ := List.pairwise_cons.mp hes
      obtain ⟨hf, hrest'⟩ := List.pairwise_cons.mp hfs
      -- The lower of two first names would have no number in the other list.
      have hle : ¬ name < other := by
        intro hlt
        have hnone : List.lookup name ((other, m) :: fs) = none :=
          lookup_eq_none_of_lt (List.forall_mem_cons.mpr
            ⟨hlt, fun f' hf' => String.lt_trans hlt (hf f' hf')⟩)
        exact absurd (h name) (by simp [hnone])
      have hge : ¬ other < name := by
        intro hlt
        have hnone : List.lookup other ((name, n) :: es) = none :=
          lookup_eq_none_of_lt (List.forall_mem_cons.mpr
            ⟨hlt, fun e' he' => String.lt_trans hlt (he e' he')⟩)
        exact absurd (h other) (by simp [hnone])
      obtain rfl : name = other := String.le_antisymm (String.not_lt.mp hge) (String.not_lt.mp hle)
      obtain rfl : n = m := by simpa [lookup_cons_ite] using h name
      rw [ih hrest hrest' fun x => ?_]
      by_cases hx : x = name
      · rw [hx, lookup_eq_none_of_lt he, lookup_eq_none_of_lt hf]
      · simpa [lookup_cons_ite, hx] using h x

/-- The order of names does not matter for their tally. -/
theorem ofNames_perm {names names' : List String} (h : names.Perm names') :
    ofNames names = ofNames names' := by
  apply ext
  apply eq_of_lookup_eq (ofNames names).ascending (ofNames names').ascending
  intro name
  show (ofNames names).get? name = (ofNames names').get? name
  simp only [get?_ofNames, h.count_eq, h.mem_iff]

/-- Setting a number replaces the one that the name had in the sum. -/
theorem sum_putEntry (name : String) (n : Nat) {es : List (String × Nat)}
    (h : es.Pairwise fun a b => a.1 < b.1) :
    ((putEntry name n es).map (·.2)).foldr (· + ·) 0 + (es.lookup name).getD 0 =
      (es.map (·.2)).foldr (· + ·) 0 + n := by
  induction es with
  | nil => simp [putEntry]
  | cons p rest ih =>
    obtain ⟨other, m⟩ := p
    obtain ⟨hp, hrest⟩ := List.pairwise_cons.mp h
    have ih := ih hrest
    unfold putEntry
    rw [lookup_cons_ite]
    split
    · rename_i hlt
      have hne : name ≠ other := Std.ne_of_lt hlt
      have hnone : rest.lookup name = none :=
        lookup_eq_none_of_lt fun e he => String.lt_trans hlt (hp e he)
      simp only [if_neg hne, hnone, Option.getD_none, List.map_cons, List.foldr_cons]
      omega
    · split
      · simp only [Option.getD_some, List.map_cons, List.foldr_cons]
        omega
      · simp only [List.map_cons, List.foldr_cons]
        omega

/-- Counting a name adds one to the total. -/
theorem total_count (t : Tally) (name : String) : (t.count name).total = t.total + 1 := by
  have hsum := sum_putEntry name ((t.get? name).getD 0 + 1) t.ascending
  show ((putEntry name _ t.entries).map (·.2)).foldr (· + ·) 0 = t.total + 1
  rw [get?] at hsum ⊢
  rw [total]
  omega

/-- The numbers of the tally of a list sum to its length. -/
theorem total_ofNames (names : List String) : (ofNames names).total = names.length := by
  have hfold (t : Tally) : (names.foldl count t).total = t.total + names.length := by
    induction names generalizing t with
    | nil => rfl
    | cons name rest ih =>
      rw [List.foldl_cons, ih, total_count, List.length_cons]
      omega
  have hempty : empty.total = 0 := rfl
  rw [ofNames, hfold, hempty, Nat.zero_add]

instance : BEq Tally := ⟨fun s t => s.entries == t.entries⟩

instance : Inhabited Tally := ⟨empty⟩

end Tally

end LinkAtlas
