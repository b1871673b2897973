namespace LinkAtlas.Text

/-!
# Blank characters and trimming

* `isBlank` — the characters with the Unicode property `White_Space`;
* `trimStart`, `trimEnd`, `trim` — what remains of a text without the blanks at its ends;
* `firstWord` — the first run of characters that are not blank;
* `trim_eq_self_iff` — the texts that trimming leaves as they are.
-/

/-- The characters with the Unicode property `White_Space`. -/
def isBlank (c : Char) : Bool :=
  let n := c.toNat
  (0x9 ≤ n && n ≤ 0xD) || n == 0x20 || n == 0x85 || n == 0xA0 || n == 0x1680 ||
    (0x2000 ≤ n && n ≤ 0x200A) || n == 0x2028 || n == 0x2029 || n == 0x202F || n == 0x205F ||
    n == 0x3000

/-- The text without its leading blanks. -/
def trimStart (s : List Char) : List Char := s.dropWhile isBlank

/-- The text without its trailing blanks. -/
def trimEnd (s : List Char) : List Char := (s.reverse.dropWhile isBlank).reverse

/-- The text without the blanks at either end. -/
def trim (s : List Char) : List Char := trimEnd (trimStart s)

/-- `trim` on a `String`. -/
def trimmed (s : String) : String := String.ofList (trim s.toList)

/-- Whether nothing but blanks is there. -/
def isBlankText (s : List Char) : Bool := s.all isBlank

/-- The first maximal run of characters that are not blank; empty when there is none. -/
def firstWord (s : List Char) : List Char := (trimStart s).takeWhile (! isBlank ·)

/-! ### Small laws -/

@[simp] theorem trimStart_nil : trimStart [] = [] := rfl

@[simp] theorem trimEnd_nil : trimEnd [] = [] := rfl

@[simp] theorem trim_nil : trim [] = [] := rfl

/-- A text is its own trim at the start when it does not start with a blank. -/
theorem trimStart_eq_self_iff {s : List Char} :
    trimStart s = s ↔ ∀ c ∈ s.head?, isBlank c = false := by
  cases s with
  | nil => simp
  | cons c rest =>
    have hlength : (rest.dropWhile isBlank).length ≤ rest.length :=
      (List.dropWhile_suffix isBlank).length_le
    by_cases hc : isBlank c = true
    · have hne : trimStart (c :: rest) ≠ c :: rest := by
        intro heq
        have hlt := congrArg List.length heq
        rw [trimStart, List.dropWhile_cons_of_pos hc, List.length_cons] at hlt
        omega
      simpa [hc] using hne
    · simp [trimStart, hc]

/-- A text is its own trim at the end when it does not end with a blank. -/
theorem trimEnd_eq_self_iff {s : List Char} :
    trimEnd s = s ↔ ∀ c ∈ s.getLast?, isBlank c = false := by
  rw [← List.head?_reverse, ← trimStart_eq_self_iff, trimEnd, ← trimStart, List.reverse_eq_iff]

/-- A text is its own trim when it neither starts nor ends with a blank. -/
theorem trim_eq_self_iff {s : List Char} : trim s = s ↔
    (∀ c ∈ s.head?, isBlank c = false) ∧ ∀ c ∈ s.getLast?, isBlank c = false := by
  rw [← trimStart_eq_self_iff, ← trimEnd_eq_self_iff]
  constructor
  · intro h
    -- Nothing is lost in all, so nothing is lost at the start.
    have hend : (trimEnd (trimStart s)).length ≤ (trimStart s).length := by
      have hreverse : ((trimStart s).reverse.dropWhile isBlank).length ≤
          (trimStart s).reverse.length := (List.dropWhile_suffix isBlank).length_le
      rw [trimEnd, List.length_reverse]
      rwa [List.length_reverse] at hreverse
    have hsuffix : trimStart s <:+ s := List.dropWhile_suffix isBlank
    have hstart : trimStart s = s := by
      apply hsuffix.eq_of_length_le
      rwa [← trim, h] at hend
    rw [trim, hstart] at h
    exact ⟨hstart, h⟩
  · rintro ⟨hstart, hend⟩
    rw [trim, hstart, hend]

end LinkAtlas.Text
