namespace LinkAtlas.Path

/-!
# Paths as text

Paths between documents are texts with `/` between their components; nothing here looks at a disk.

* `splitSlash`, `joinSlash` — components and back; `joinSlash_splitSlash` loses nothing, and
  `splitSlash_joinSlash` finds the same components again;
* `splitSlash_append` — the components of two paths with a slash between them;
* `normalize?` — without `.`, `..` and empty components; none when `..` climbs above the start;
* `resolve?` — a path read relative to a directory;
* `withoutFragment`, `isDocumentRelative` — the two questions asked about a target.
-/

/-- The components of a path: what stands between its slashes. -/
def splitSlash : List Char → List (List Char)
  | [] => [[]]
  | c :: rest =>
    if c = '/' then [] :: splitSlash rest
    else
      match splitSlash rest with
      | [] => [[c]]
      | part :: parts => (c :: part) :: parts

/-- Components with slashes between them. -/
def joinSlash : List (List Char) → List Char
  | [] => []
  | [part] => part
  | part :: parts => part ++ '/' :: joinSlash parts

/-- Whether a path starts at the root. -/
def isAbsolute (s : List Char) : Bool := s.head? == some '/'

/-- One step of normalization: the components kept so far are given in reverse. -/
def pushPart? (kept : List (List Char)) (part : List Char) : Option (List (List Char)) :=
  if part = [] ∨ part = ['.'] then some kept
  else if part = ['.', '.'] then
    match kept with
    | [] => none
    | _ :: rest => some rest
  else some (part :: kept)

/-- The components left when `.` and `..` are carried out, in reverse. -/
def collapse? : List (List Char) → List (List Char) → Option (List (List Char))
  | kept, [] => some kept
  | kept, part :: parts =>
    match pushPart? kept part with
    | some kept => collapse? kept parts
    | none => none

/-- A path without `.`, `..`, and empty components. An absolute path stays absolute. -/
def normalizeChars? (s : List Char) : Option (List Char) :=
  (collapse? [] (splitSlash s)).map fun kept =>
    let joined := joinSlash kept.reverse
    if isAbsolute s then '/' :: joined else joined

/-- `normalizeChars?` on a `String`. -/
def normalize? (s : String) : Option String := (normalizeChars? s.toList).map String.ofList

/-- A path read from a directory, normalized. An absolute path does not need the directory. -/
def resolveChars? (dir rel : List Char) : Option (List Char) :=
  if isAbsolute rel || dir.isEmpty then normalizeChars? rel
  else normalizeChars? (dir ++ '/' :: rel)

/-- `resolveChars?` on `String`s. -/
def resolve? (dir rel : String) : Option String :=
  (resolveChars? dir.toList rel.toList).map String.ofList

/-- A target without its fragment: what stands before the first `#`. -/
def withoutFragment (s : List Char) : List Char := s.takeWhile (· != '#')

/-- Whether a target is written relative to the document it stands in. -/
def isDocumentRelative (s : List Char) : Bool :=
  ['.', '/'].isPrefixOf s || ['.', '.', '/'].isPrefixOf s

/-! ### Small laws -/

/-- An absolute path starts with a slash. -/
theorem exists_eq_slash_cons {s : List Char} (h : isAbsolute s = true) :
    ∃ rest, s = '/' :: rest := by
  cases s with
  | nil => exact nomatch h
  | cons c rest => exact ⟨rest, by simpa [isAbsolute] using h⟩

/-- Even the empty text has one piece between slashes. -/
theorem splitSlash_ne_nil (s : List Char) : splitSlash s ≠ [] := by
  cases s with
  | nil => simp [splitSlash]
  | cons c rest =>
    unfold splitSlash
    split
    · simp
    · split <;> simp

/-- Joining puts the first piece before a slash and the others, if there are others. -/
theorem joinSlash_cons (part : List Char) {parts : List (List Char)} (h : parts ≠ []) :
    joinSlash (part :: parts) = part ++ '/' :: joinSlash parts := by
  cases parts with
  | nil => contradiction
  | cons p ps => rfl

/-- Joining the pieces of a text gives the text back. -/
theorem joinSlash_splitSlash (s : List Char) : joinSlash (splitSlash s) = s := by
  induction s with
  | nil => rfl
  | cons c rest ih =>
    unfold splitSlash
    split
    · rename_i h
      rw [joinSlash_cons _ (splitSlash_ne_nil rest), ih, h]; rfl
    · split
      · rename_i h
        exact absurd h (splitSlash_ne_nil rest)
      · rename_i part parts h
        rw [h] at ih
        cases parts with
        | nil => simp_all [joinSlash]
        | cons p ps => simp_all [joinSlash]

/-- A text without slashes is its only piece. -/
theorem splitSlash_eq_singleton {part : List Char} (h : '/' ∉ part) : splitSlash part = [part] := by
  induction part with
  | nil => rfl
  | cons c rest ih =>
    have hc : ¬ c = '/' := fun hc => h (hc ▸ List.mem_cons_self)
    have hrest := ih fun hr => h (List.mem_cons_of_mem c hr)
    simp [splitSlash, hc, hrest]

/-- What stands before the first slash is the first piece. -/
theorem splitSlash_append_slash {part : List Char} (h : '/' ∉ part) (s : List Char) :
    splitSlash (part ++ '/' :: s) = part :: splitSlash s := by
  induction part with
  | nil => simp [splitSlash]
  | cons c rest ih =>
    have hc : ¬ c = '/' := fun hc => h (hc ▸ List.mem_cons_self)
    have hrest := ih fun hr => h (List.mem_cons_of_mem c hr)
    simp [splitSlash, hc, hrest]

/-- A slash that is put between two paths ends a component of the first. -/
theorem splitSlash_append (s t : List Char) :
    splitSlash (s ++ '/' :: t) = splitSlash s ++ splitSlash t := by
  induction s with
  | nil => simp [splitSlash]
  | cons c rest ih =>
    by_cases hc : c = '/'
    · simp [splitSlash, hc, ih]
    · obtain ⟨part, parts, hparts⟩ := List.exists_cons_of_ne_nil (splitSlash_ne_nil rest)
      rw [hparts, List.cons_append] at ih
      simp [splitSlash, hc, ih, hparts]

/-- Splitting what was joined gives the pieces back, if none has a slash in it. -/
theorem splitSlash_joinSlash {parts : List (List Char)} (hne : parts ≠ [])
    (h : ∀ part ∈ parts, '/' ∉ part) : splitSlash (joinSlash parts) = parts := by
  induction parts with
  | nil => contradiction
  | cons part rest ih =>
    have hpart := h part List.mem_cons_self
    by_cases hr : rest = []
    · subst hr
      exact splitSlash_eq_singleton hpart
    · rw [joinSlash_cons part hr, splitSlash_append_slash hpart,
        ih hr fun other ho => h other (List.mem_cons_of_mem part ho)]

end LinkAtlas.Path
