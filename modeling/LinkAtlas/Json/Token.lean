import LinkAtlas.Decimal.Text
import LinkAtlas.Json.Text

namespace LinkAtlas.Json

/-!
# The tokens of a JSON text

* `Token` — brackets, marks, literals, numerals and strings;
* `Token.next?` — the token at the start of a text and the rest;
* `Token.scan?` — all tokens of a text, blanks between them dropped.

A string whose escapes leave half of a surrogate pair alone is a token without a text, so that
a reader that skips it need not refuse it.
-/

/-- A number as it is written. -/
structure Numeral where
  decimal : Decimal
  /-- Neither point nor exponent is written. -/
  whole : Bool
  deriving DecidableEq, Repr

/-- A piece of JSON text that has a meaning of its own. -/
inductive Token where
  | openArray
  | closeArray
  | openObject
  | closeObject
  | comma
  | colon
  | null
  | bool (b : Bool)
  | number (n : Numeral)
  | text (t : Option String)
  deriving DecidableEq, Repr

/-- The blanks of JSON. -/
def isGap (c : Char) : Bool := c == ' ' || c == '\n' || c == '\t' || c == '\r'

/-- The fraction at the start of a text: its digits, none when no point is there. -/
def fraction? : List Char → Option (List Char × List Char)
  | '.' :: rest =>
    match Decimal.digits rest with
    | ([], _) => none
    | (ds, rest) => some (ds, rest)
  | rest => some ([], rest)

/-- The numeral at the start of a text, after its minus sign. A leading zero stands alone. -/
def numeral? (negative : Bool) (s : List Char) : Option (Numeral × List Char) :=
  match Decimal.digits s with
  | ([], _) => none
  | (ds, rest) =>
    -- No zero may stand in front of another digit.
    if ds.length ≠ 1 ∧ ds.head? = some '0' then none
    else
      match fraction? rest with
      | none => none
      | some (fs, rest) =>
        match Decimal.exponent? rest with
        | none => none
        | some (power, rest) =>
          some ({ decimal := ⟨negative, Decimal.ofDigits (ds ++ fs), power.getD 0 - fs.length⟩
                  whole := fs.isEmpty && power.isNone }, rest)

namespace Token

/-- The token at the start of a text that does not start with a blank, and the rest. -/
def next? : List Char → Option (Token × List Char)
  | '[' :: rest => some (.openArray, rest)
  | ']' :: rest => some (.closeArray, rest)
  | '\x7b' :: rest => some (.openObject, rest)
  | '\x7d' :: rest => some (.closeObject, rest)
  | ',' :: rest => some (.comma, rest)
  | ':' :: rest => some (.colon, rest)
  | '"' :: rest =>
    (readItems? rest).map fun (items, rest) => (.text ((joinItems? items).map String.ofList), rest)
  | 'n' :: 'u' :: 'l' :: 'l' :: rest => some (.null, rest)
  | 't' :: 'r' :: 'u' :: 'e' :: rest => some (.bool true, rest)
  | 'f' :: 'a' :: 'l' :: 's' :: 'e' :: rest => some (.bool false, rest)
  | '-' :: rest => (numeral? true rest).map fun (n, rest) => (.number n, rest)
  | s => (numeral? false s).map fun (n, rest) => (.number n, rest)

/-- The tokens of a text, with a bound on their number. -/
def scanWithin? : Nat → List Char → Option (List Token)
  | 0, _ => none
  | _ + 1, [] => some []
  | fuel + 1, c :: rest =>
    if isGap c then scanWithin? fuel rest
    else
      match next? (c :: rest) with
      | none => none
      | some (t, rest) => (scanWithin? fuel rest).map (t :: ·)

/-- The tokens of a text. -/
def scan? (s : List Char) : Option (List Token) := scanWithin? (s.length + 1) s

end Token

end LinkAtlas.Json
