namespace LinkAtlas.Health

/-!
# Connected components

* `merge` — gives the vertices of two classes one label;
* `labels` — a label for each of `n` vertices, the same for vertices that edges connect;
* `componentCount` — the number of different labels.
-/

/-- An edge between two vertices, in either direction. -/
abbrev Edge := Nat × Nat

/-- The label of a vertex. -/
def labelOf (labels : List Nat) (v : Nat) : Nat := labels.getD v v

/-- Gives the class of the second end of an edge the label of the first. -/
def merge (labels : List Nat) (e : Edge) : List Nat :=
  let a := labelOf labels e.1
  let b := labelOf labels e.2
  labels.map fun l => if l = b then a else l

/-- The labels of `n` vertices under edges. -/
def labels (n : Nat) (edges : List Edge) : List Nat := edges.foldl merge (List.range n)

/-- The number of connected components of `n` vertices under edges. -/
def componentCount (n : Nat) (edges : List Edge) : Nat := (labels n edges).eraseDups.length

/-- Merging changes labels, not how many there are. -/
@[simp] theorem length_merge (ls : List Nat) (e : Edge) : (merge ls e).length = ls.length := by
  simp [merge]

/-- Every vertex has a label. -/
@[simp] theorem length_labels (n : Nat) (edges : List Edge) : (labels n edges).length = n := by
  unfold labels
  -- The labels change with every edge, so the lemma is about any labels to start from.
  suffices h : ∀ ls : List Nat, (edges.foldl merge ls).length = ls.length by
    simp [h]
  induction edges with
  | nil => intro ls; rfl
  | cons e rest ih => intro ls; simp [ih]

end LinkAtlas.Health
