import LinkAtlas.Proofs.Json.Tree
import LinkAtlas.Reference.Json

namespace LinkAtlas.Json

/-!
# The records of printed values

* `Value.record` — the record that an object with distinct keys is read as;
* `Record.required?_record`, `Record.withDefault?_record` — its fields are those of the object;
* `Tree.string?_text`, `Tree.nat?_int`, `Tree.float?_float`, … — the values of fields are read as
  what was printed.
-/

namespace Value

/-- What an object with these fields is read as. -/
def record (fields : List (String × Value)) : Record where
  byPlace := false
  found := fields.map fun f => (f.1, f.2.tree)

/-- Of distinct keys each stands at most once. -/
theorem occursOnce_fieldTrees {fields : List (String × Value)} (h : (fields.map (·.1)).Nodup)
    (name : String) : Tree.occursOnce (fieldTrees fields) name = true := by
  -- The reader counts optional keys and the writer has none that is missing.
  have hcount : (fieldTrees fields).countP (fun f => f.1 == some name) =
      (fields.map (·.1)).count name := by
    rw [fieldTrees_eq_map, List.countP_map, List.count, List.countP_map]
    rfl
  rw [Tree.occursOnce, decide_eq_true_eq, ← List.countP_eq_length_filter, hcount]
  exact List.nodup_iff_count_le_one.mp h name

/-- An object with distinct keys is read as its record, whatever names are asked for. -/
theorem record?_tree {fields : List (String × Value)} (h : (fields.map (·.1)).Nodup)
    (names : List String) : (object fields).tree.record? names = some (record fields) := by
  have hkeys : (fieldTrees fields).all (fun f => f.1.isSome) = true := by simp
  have hnames : names.all (Tree.occursOnce (fieldTrees fields)) = true :=
    List.all_eq_true.mpr fun name _ => occursOnce_fieldTrees h name
  rw [tree, Tree.record?, if_pos (by rw [hkeys, hnames]; rfl), fieldTrees_eq_map, record]
  simp

/-- What reads an object as a record goes on with its fields. -/
theorem bind_record?_tree {β : Type} {fields : List (String × Value)}
    (h : (fields.map (·.1)).Nodup) (names : List String) (next : Record → Option β) :
    ((object fields).tree.record? names >>= next) = next (record fields) := by
  rw [record?_tree h, Option.bind_eq_bind, Option.bind_some]

end Value

namespace Record

open Value (record)

variable {α : Type} (fields : List (String × Value)) (name : String) (read : Tree → Option α)

/-- A field of a record is that of the fields it was made of. -/
theorem field?_record : (record fields).field? name = (fields.lookup name).map Value.tree := by
  induction fields with
  | nil => rfl
  | cons f fields ih =>
    rw [field?, record, List.map_cons, List.lookup_cons, List.lookup_cons]
    split
    · rfl
    · exact ih

/-- A field that must be there is read from the fields. -/
@[simp] theorem required?_record :
    (record fields).required? name read =
      (fields.lookup name).elim none fun v => read v.tree := by
  rw [required?, field?_record]
  cases fields.lookup name <;> rfl

/-- A field that may be left out is read from the fields, or has its default. -/
@[simp] theorem withDefault?_record (default : α) :
    (record fields).withDefault? name default read =
      (fields.lookup name).elim (some default) fun v => read v.tree := by
  rw [withDefault?, field?_record]
  cases fields.lookup name <;> rfl

end Record

namespace Tree

variable {α : Type} {read : Tree → Option α}

/-- A text is read as itself. -/
@[simp] theorem string?_text (s : String) : (Value.text s).tree.string? = some s := rfl

/-- A truth value is read as itself. -/
@[simp] theorem bool?_bool (b : Bool) : (Value.bool b).tree.bool? = some b := rfl

/-- A natural number that fits 64 bits is read back. -/
theorem nat?_int {n : ℕ} (h : n < 2 ^ 64) : (Value.int n).tree.nat? = some n := by
  have hsign : ¬ (n : ℤ) < 0 := by omega
  have hfits : n < Nat.pow 2 64 := h
  simp [Value.tree, nat?, hsign, hfits]

/-- A finite double is read back, to the bit. -/
theorem float?_float {x : Float} (h : x.isFinite = true) : (Value.float x).tree.float? = some x := by
  obtain ⟨n, htoken, hread⟩ := exists_floatToken h
  rw [Value.tree, htoken]
  exact hread

/-- A name among several choices is read back. -/
@[simp] theorem choice?_text (s : String) : (Value.text s).tree.choice? = some s := rfl

/-- A list is read back when its items are. -/
theorem list?_array {write : α → Value} {items : List α}
    (h : ∀ a ∈ items, read (write a).tree = some a) :
    (Value.array (items.map write)).tree.list? read = some items := by
  rw [Value.tree, Value.trees_eq_map, list?, List.map_map]
  induction items with
  | nil => rfl
  | cons a items ih =>
    rw [List.map_cons, List.mapM_cons, ih fun b hb => h b (List.mem_cons_of_mem _ hb)]
    simp [h a List.mem_cons_self]

/-- What may be null is read back when a text that stands for it is. -/
theorem orNull?_ofText? {write : α → String} (h : ∀ a, read (Value.text (write a)).tree = some a)
    (o : Option α) : (Value.ofText? (o.map write)).tree.orNull? read = some o := by
  cases o with
  | none => rfl
  | some a => exact congrArg (Option.map some) (h a)

/-- A text that might be null is read as itself. -/
@[simp] theorem orNull?_text (s : String) :
    (Value.text s).tree.orNull? string? = some (some s) := rfl

/-- A text that might be left out is read as itself, or as left out. -/
@[simp] theorem orNull?_string? (o : Option String) :
    (Value.ofText? o).tree.orNull? string? = some o := by
  cases o <;> rfl

end Tree

end LinkAtlas.Json
