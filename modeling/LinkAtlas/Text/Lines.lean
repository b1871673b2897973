namespace LinkAtlas.Text

/-!
# Lines of a text

A line keeps the line feed that ends it, so that the lines of a text concatenate to the text.

* `lines` — cut after every line feed; a text that ends in one has no empty last line;
* `flatten_lines` — nothing is lost;
* `content` — a line without its line feed and carriage returns at the end.
-/

/-- The lines of a text, each with the line feed that ends it. -/
def lines : List Char → List (List Char)
  | [] => []
  | c :: rest =>
    if c = '\n' then [c] :: lines rest
    else
      match lines rest with
      | [] => [[c]]
      | l :: ls => (c :: l) :: ls

/-- The characters that may end a line. -/
def isLineEnd (c : Char) : Bool := c == '\n' || c == '\r'

/-- A line without the line feeds and carriage returns at its end. -/
def content (line : List Char) : List Char := (line.reverse.dropWhile isLineEnd).reverse

@[simp] theorem lines_nil : lines [] = [] := rfl

/-- The lines of a text in a row are the text. -/
theorem flatten_lines (s : List Char) : (lines s).flatten = s := by
  induction s with
  | nil => rfl
  | cons c rest ih =>
    unfold lines
    split
    · simp [ih]
    · split <;> rename_i h <;> rw [h] at ih <;> simp_all

end LinkAtlas.Text
