import LinkAtlas.Json.Tree
import LinkAtlas.Proofs.Json.Token

namespace LinkAtlas.Json

/-!
# The tree of a printed value

* `Value.tree` — the tree that the text of a value spells;
* `Value.reads_tokens` — the tokens of a value are read as that tree, whatever follows;
* `Value.parse?_pretty` — so is its text.

Integers stay numerals and keys stay texts here. A double that is not finite has no numeral; its
tree is null, and the statements hold of it too.
-/

namespace Value

mutual

/-- The tree that the text of a value spells. -/
def tree : Value → Tree
  | .null => .null
  | .bool b => .bool b
  | .int n => .number ⟨⟨decide (n < 0), n.natAbs, 0⟩, true⟩
  | .float x =>
    match floatToken x with
    | .number n => .number n
    | _ => .null
  | .text s => .text (some s)
  | .array items => .array (trees items)
  | .object fields => .object (fieldTrees fields)

/-- The trees of a list of values. -/
def trees : List Value → List Tree
  | [] => []
  | v :: items => tree v :: trees items

/-- The trees of a list of fields. -/
def fieldTrees : List (String × Value) → List (Option String × Tree)
  | [] => []
  | (k, v) :: fields => (some k, tree v) :: fieldTrees fields

end

/-- The trees of items are made one by one. -/
@[simp] theorem trees_eq_map (items : List Value) : trees items = items.map tree := by
  induction items with
  | nil => rfl
  | cons v items ih => rw [trees, ih, List.map_cons]

/-- The trees of fields are made one by one. -/
@[simp] theorem fieldTrees_eq_map (fields : List (String × Value)) :
    fieldTrees fields = fields.map fun f => (some f.1, f.2.tree) := by
  induction fields with
  | nil => rfl
  | cons f fields ih => rw [fieldTrees, ih, List.map_cons]

/-- Tokens are read as a tree in no more steps than there are, whatever follows. -/
def Reads (ts : List Token) (t : Tree) : Prop :=
  ∀ fuel rest, ts.length ≤ fuel → Tree.read? fuel (ts ++ rest) = some (t, rest)

/-- Tokens are read as a tree if they are with any fuel at all. -/
theorem reads_of_ne_nil {ts : List Token} {t : Tree} (hts : ts ≠ [])
    (h : ∀ fuel rest, Tree.read? (fuel + 1) (ts ++ rest) = some (t, rest)) : Reads ts t := by
  intro fuel rest hfuel
  have hpos := List.length_pos_of_ne_nil hts
  obtain ⟨k, rfl⟩ : ∃ k, fuel = k + 1 := ⟨fuel - 1, by omega⟩
  exact h k rest

/-- One token is read as a tree if it is with any fuel at all. -/
theorem reads_token {tok : Token} {t : Tree}
    (h : ∀ fuel rest, Tree.read? (fuel + 1) (tok :: rest) = some (t, rest)) : Reads [tok] t :=
  reads_of_ne_nil (List.cons_ne_nil _ _) h

/-- The token of a double is a number or null. -/
theorem floatToken_cases (x : Float) :
    (∃ n, floatToken x = .number n) ∨ floatToken x = .null := by
  by_cases hx : x.isFinite = true
  · obtain ⟨n, hn, -⟩ := exists_floatToken hx
    exact .inl ⟨n, hn⟩
  · exact .inr (floatToken_of_not_isFinite hx)

/-- The token of a double is read as its tree. -/
theorem reads_floatToken (x : Float) : Reads [floatToken x] (tree (.float x)) := by
  rw [tree]
  rcases floatToken_cases x with ⟨n, hn⟩ | hn <;> rw [hn] <;> exact reads_token fun _ _ => rfl

/-- No value starts with a closing bracket. -/
theorem exists_tokens_cons (v : Value) : ∃ tok ts, v.tokens = tok :: ts ∧ tok ≠ .closeArray := by
  cases v with
  | null | bool | int | text => exact ⟨_, _, rfl, by simp⟩
  | float x =>
    refine ⟨_, _, rfl, ?_⟩
    rcases floatToken_cases x with ⟨n, hn⟩ | hn <;> rw [hn] <;> simp
  | array items => cases items <;> exact ⟨_, _, rfl, by simp⟩
  | object fields =>
    rcases fields with _ | ⟨⟨k, v⟩, fields⟩ <;> exact ⟨_, _, rfl, by simp⟩

/-- An array is read when its items are. -/
theorem reads_array {ts : List Token} {items : List Tree}
    (hstart : ∃ tok ts', ts = tok :: ts' ∧ tok ≠ .closeArray)
    (h : ∀ fuel rest, ts.length < fuel →
      Tree.readItems? fuel (ts ++ .closeArray :: rest) = some (items, rest)) :
    Reads (.openArray :: ts ++ [.closeArray]) (.array items) := by
  intro fuel rest hfuel
  obtain ⟨tok, ts', rfl, hne⟩ := hstart
  obtain ⟨k, rfl⟩ : ∃ k, fuel = k + 1 := ⟨fuel - 1, by simp at hfuel; omega⟩
  have hitems := h k rest (by simp at hfuel ⊢; omega)
  have htokens : .openArray :: (tok :: ts') ++ [.closeArray] ++ rest =
      .openArray :: tok :: (ts' ++ .closeArray :: rest) := by simp
  -- The reader tells an empty array by its second token, which no value starts with.
  rw [htokens, Tree.read?]
  · rw [← List.cons_append, hitems]
    rfl
  · exact fun _ heq => hne (List.cons.inj heq).1

/-- An object is read when its fields are. -/
theorem reads_object {k : String} {ts : List Token} {fields : List (Option String × Tree)}
    (h : ∀ fuel rest, ts.length + 1 < fuel →
      Tree.readFields? fuel (.text (some k) :: ts ++ .closeObject :: rest) = some (fields, rest)) :
    Reads (.openObject :: .text (some k) :: ts ++ [.closeObject]) (.object fields) := by
  intro fuel rest hfuel
  -- One unit of fuel is spent on the opening brace, and the others are for the fields.
  obtain ⟨f, rfl⟩ : ∃ f, fuel = f + 1 := ⟨fuel - 1, by simp at hfuel; omega⟩
  have hfields := h f rest (by simp at hfuel ⊢; omega)
  have htokens : .openObject :: .text (some k) :: ts ++ [.closeObject] ++ rest =
      .openObject :: .text (some k) :: (ts ++ .closeObject :: rest) := by simp
  rw [htokens, Tree.read?]
  · rw [← List.cons_append, hfields]
    rfl
  · exact fun _ heq => by cases heq

mutual

/-- The tokens of a value are read as its tree. -/
theorem reads_tokens : (v : Value) → Reads v.tokens v.tree
  | .null => reads_token fun _ _ => rfl
  | .bool _ => reads_token fun _ _ => rfl
  | .int _ => reads_token fun _ _ => rfl
  | .float x => reads_floatToken x
  | .text _ => reads_token fun _ _ => rfl
  | .array [] => reads_of_ne_nil (List.cons_ne_nil _ _) fun _ _ => rfl
  | .array (v :: items) => by
    obtain ⟨tok, ts, hts, hne⟩ := exists_tokens_cons v
    -- No value begins with a closing bracket, so the list is not taken for an empty one.
    refine reads_array ⟨tok, ts ++ itemTokens items, ?_, hne⟩ fun fuel rest hfuel => ?_
    · rw [hts]
      rfl
    · exact readItems?_tokens items (reads_tokens v) fuel rest (by simpa using hfuel)
  | .object [] => reads_of_ne_nil (List.cons_ne_nil _ _) fun _ _ => rfl
  | .object ((k, v) :: fields) => reads_object fun fuel rest hfuel =>
    readFields?_tokens k fields (reads_tokens v) fuel rest (by simpa [Nat.add_assoc] using hfuel)

/-- A first item and others are read up to the closing bracket. -/
theorem readItems?_tokens : (items : List Value) → {ts : List Token} → {t : Tree} → Reads ts t →
    (fuel : ℕ) → (rest : List Token) → ts.length + (itemTokens items).length < fuel →
    Tree.readItems? fuel (ts ++ itemTokens items ++ .closeArray :: rest) =
      some (t :: trees items, rest)
  | _, _, _, _, 0, _, h => absurd h (Nat.not_lt_zero _)
  | [], ts, t, ht, fuel + 1, rest, h => by
    rw [itemTokens, List.append_nil, Tree.readItems?,
      ht fuel _ (by rw [itemTokens] at h; simp at h; omega)]
    rfl
  | w :: items, ts, t, ht, fuel + 1, rest, h => by
    rw [itemTokens] at h ⊢
    simp only [List.length_append, List.length_cons] at h
    -- The fuel that is left bounds what is left, since each item takes a comma at least.
    have hnext := readItems?_tokens items (reads_tokens w) fuel rest (by omega)
    rw [List.append_assoc, List.cons_append, List.cons_append, Tree.readItems?,
      ht fuel _ (by omega)]
    simp only [hnext]
    rfl

/-- A first field and others are read up to the closing brace. -/
theorem readFields?_tokens (k : String) : (fields : List (String × Value)) → {ts : List Token} →
    {t : Tree} → Reads ts t → (fuel : ℕ) → (rest : List Token) →
    ts.length + (fieldTokens fields).length + 2 < fuel →
    Tree.readFields? fuel
      (.text (some k) :: .colon :: ts ++ fieldTokens fields ++ .closeObject :: rest) =
      some ((some k, t) :: fieldTrees fields, rest)
  | _, _, _, _, 0, _, h => absurd h (Nat.not_lt_zero _)
  | [], ts, t, ht, fuel + 1, rest, h => by
    rw [fieldTokens, List.append_nil, List.cons_append, List.cons_append, Tree.readFields?,
      ht fuel _ (by omega)]
    rfl
  | (k', w) :: fields, ts, t, ht, fuel + 1, rest, h => by
    rw [fieldTokens] at h ⊢
    simp only [List.length_append, List.length_cons] at h
    have hnext := readFields?_tokens k' fields (reads_tokens w) fuel rest (by omega)
    rw [List.append_assoc, List.cons_append, List.cons_append, List.cons_append, List.cons_append,
      Tree.readFields?, ht fuel _ (by omega)]
    simp only [hnext]
    rfl

end

/-- The text of a value is read as its tree. -/
theorem parse?_pretty (v : Value) : Tree.parse? (String.ofList v.pretty) = some v.tree := by
  have hread := reads_tokens v (v.tokens.length + 1) [] (Nat.le_succ _)
  rw [List.append_nil] at hread
  rw [Tree.parse?, String.toList_ofList, scan?_pretty, Option.bind_some, Tree.ofTokens?, hread]

end Value

end LinkAtlas.Json
