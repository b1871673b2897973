import LinkAtlas.Decimal.Basic

namespace LinkAtlas.Decimal

/-!
# Decimals as they are written

* `digits`, `exponent?` — the parts of a numeral at the start of a text;
* `ofBase?` — the number that digits and letters spell in a base;
* `ofText?` — the decimal that a whole text spells, with or without digits on one side of its point.
-/

/-- The digits at the start of a text and the rest. -/
def digits (s : List Char) : List Char × List Char := s.span Decimal.isDigit

/-- The digits of an exponent after its mark and sign. -/
def power? (negative : Bool) (s : List Char) : Option (Option Int × List Char) :=
  match digits s with
  | ([], _) => none
  | (ds, rest) =>
    let n : Int := Decimal.ofDigits ds
    some (some (if negative then -n else n), rest)

/-- The exponent at the start of a text, none when no mark is there. -/
def exponent? : List Char → Option (Option Int × List Char)
  | c :: rest =>
    if c = 'e' ∨ c = 'E' then
      match rest with
      | '+' :: rest => power? false rest
      | '-' :: rest => power? true rest
      | rest => power? false rest
    else some (none, c :: rest)
  | [] => some (none, [])

/-- The value of a letter or digit in bases up to thirty-six. -/
def alphanumericValue? (c : Char) : Option Nat :=
  if '0' ≤ c ∧ c ≤ '9' then some (c.toNat - '0'.toNat)
  else if 'a' ≤ c ∧ c ≤ 'z' then some (c.toNat - 'a'.toNat + 10)
  else if 'A' ≤ c ∧ c ≤ 'Z' then some (c.toNat - 'A'.toNat + 10)
  else none

/-- The number that a text of at least one digit spells in a base. -/
def ofBase? (base : Nat) (s : List Char) : Option Nat :=
  if s.isEmpty then none
  else
    s.foldlM (fun n c =>
      (alphanumericValue? c).bind fun d => if d < base then some (base * n + d) else none) 0

/-- The decimal of a text after its sign. -/
def ofUnsigned? (negative : Bool) (s : List Char) : Option Decimal :=
  let (ds, rest) := digits s
  let (fs, rest) := match rest with
    | '.' :: rest => digits rest
    | rest => ([], rest)
  if ds.isEmpty && fs.isEmpty then none
  else
    match exponent? rest with
    | some (power, []) => some ⟨negative, ofDigits (ds ++ fs), power.getD 0 - fs.length⟩
    | _ => none

/-- The decimal that a text spells. -/
def ofText? : List Char → Option Decimal
  | '-' :: rest => ofUnsigned? true rest
  | '+' :: rest => ofUnsigned? false rest
  | s => ofUnsigned? false s

end LinkAtlas.Decimal
