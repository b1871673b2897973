import LinkAtlas.Text.Alphanumeric
import LinkAtlas.Text.Lowercase

namespace LinkAtlas.Text

/-!
# Titles up to spelling

* `isSpellingChar` — the characters that matter when titles are compared loosely;
* `spelling` — what is left of a title in small letters when all others are dropped.
-/

/-- Letters, digits and hyphens. -/
def isSpellingChar (c : Char) : Bool := isAlphanumeric c || c == '-'

/-- The letters, digits and hyphens of a text in small letters. -/
def spelling (s : List Char) : List Char := (lower s).filter isSpellingChar

/-- `spelling` on a `String`. -/
def spellingKey (s : String) : String := String.ofList (spelling s.toList)

/-- A spelling has no other characters than those that count. -/
theorem isSpellingChar_of_mem_spelling {s : List Char} {c : Char} (h : c ∈ spelling s) :
    isSpellingChar c = true := (List.mem_filter.mp h).2

end LinkAtlas.Text
