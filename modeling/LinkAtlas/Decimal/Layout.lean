import LinkAtlas.Decimal.Shortest

namespace LinkAtlas.Decimal

/-!
# The text of a decimal

* `Layout` — where positional notation ends, and how an exponent is written;
* `Layout.render` — the text of a decimal under a layout;
* `fixedOne` — a magnitude with exactly one digit after the point, a tie to the even digit.
-/

/-- How decimals are written. -/
structure Layout where
  /-- Positional when the point falls after this many digits or fewer. -/
  maxWhole : Int
  /-- Positional when at most this many zeros stand between the point and the first digit. -/
  maxZeros : Int
  /-- What follows the digits of an integral value. -/
  integralTail : List Char
  /-- What stands between the digits and a positive exponent. -/
  plusMark : List Char

/-- A run of zeros. -/
def zeros (n : Int) : List Char := List.replicate n.toNat '0'

/-- The text of a decimal whose coefficient does not end in zero. -/
def Layout.render (l : Layout) (d : Decimal) : List Char :=
  let sign := if d.negative then ['-'] else []
  let digits := natText d.coefficient
  -- Where the point stands, counted from the first digit.
  let point : Int := digits.length + d.exponent
  let body :=
    if d.coefficient = 0 then '0' :: l.integralTail
    else if 0 ≤ d.exponent && point ≤ l.maxWhole then
      digits ++ zeros d.exponent ++ l.integralTail
    else if 0 < point && point ≤ l.maxWhole then
      digits.take point.toNat ++ '.' :: digits.drop point.toNat
    else if -l.maxZeros ≤ point && point ≤ 0 then
      '0' :: '.' :: zeros (-point) ++ digits
    else
      let mantissa :=
        match digits with
        | [] => []
        | [d] => [d]
        | d :: rest => d :: '.' :: rest
      let power := point - 1
      mantissa ++ 'e' :: (if power < 0 then [] else l.plusMark) ++ intText power
  sign ++ body

/-- A magnitude in units of a tenth, rounded, with its last digit after a point. -/
def fixedOne (x : Float) : List Char :=
  match magnitude? x with
  | none => ['N', 'a', 'N']
  | some m =>
    let tenths := roundScaled (m.significand * 10) 1 (-m.exponent)
    let sign := if isNegative x then ['-'] else []
    sign ++ natText (tenths / 10) ++ '.' :: natText (tenths % 10)

end LinkAtlas.Decimal
