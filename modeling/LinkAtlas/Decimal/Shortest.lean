import LinkAtlas.Decimal.Binary64

namespace LinkAtlas.Decimal

/-!
# The fewest digits that read back

* `Interval` — the decimals that a magnitude is nearest to, scaled to naturals;
* `Interval.candidate?` — a decimal of the interval on the grid of multiples of a power of ten;
* `shortest` — the decimal with the fewest digits that reads back to a magnitude, and of those the
  one nearest to it.
-/

/-- The reals that round to a magnitude, in units of `unitNum / unitDen`: all from `low` to `high`
    around `mid`, with both ends when `closed`. -/
structure Interval where
  low : Nat
  mid : Nat
  high : Nat
  closed : Bool
  unitNum : Nat
  unitDen : Nat

/-- The interval of a positive magnitude. Below the least significand of a binade the spacing
    halves, so the lower half-gap is half as wide there. -/
def Interval.of (m : Magnitude) : Interval where
  low := if m.significand = Nat.pow 2 52 ∧ -1074 < m.exponent then 4 * m.significand - 1
    else 4 * m.significand - 2
  mid := 4 * m.significand
  high := 4 * m.significand + 2
  closed := m.significand % 2 == 0
  unitNum := Nat.pow 2 (m.exponent - 2).toNat
  unitDen := Nat.pow 2 (2 - m.exponent).toNat

/-- Whether `a / b` lies in the interval. -/
def Interval.contains (i : Interval) (a b : Nat) : Bool :=
  let x := a * i.unitDen
  let y := b * i.unitNum
  if i.closed then i.low * y ≤ x && x ≤ i.high * y else i.low * y < x && x < i.high * y

/-- The value in the middle of the interval is at least `10 ^ k`. -/
def Interval.reaches (i : Interval) (k : Int) : Bool :=
  Nat.pow 10 k.toNat * i.unitDen ≤ i.mid * i.unitNum * Nat.pow 10 (-k).toNat

/-- The number of digits before the decimal point of the value in the middle; negative when zeros
    follow the point. -/
def Interval.pointPlace (i : Interval) : Int :=
  let log : Int := (i.mid * i.unitNum).log2 - (i.unitDen.log2 : Int)
  let guess := log * 30103 / 100000 + 1
  if i.reaches guess then guess + 1 else if i.reaches (guess - 1) then guess else guess - 1

/-- The nearer of the value's two neighbours among the multiples of `10 ^ k`, if it lies in the
    interval; of two equally near ones the even multiple. -/
def Interval.candidate? (i : Interval) (k : Int) : Option Nat :=
  let num := i.mid * i.unitNum * Nat.pow 10 (-k).toNat
  let den := i.unitDen * Nat.pow 10 k.toNat
  let inside (d : Nat) : Bool := i.contains (d * Nat.pow 10 k.toNat) (Nat.pow 10 (-k).toNat)
  let near := roundDiv num den
  if inside near then some near
  else
    let far := if near = num / den then near + 1 else num / den
    if inside far then some far else none

/-- The first of the grids `10 ^ (place - n)`, …, `10 ^ (place - n - fuel)` that holds a candidate. -/
def Interval.search (i : Interval) (place : Int) : Nat → Nat → Option (Nat × Int)
  | 0, _ => none
  | fuel + 1, n =>
    match i.candidate? (place - n) with
    | some d => some (d, place - n)
    | none => search i place fuel (n + 1)

/-- Strips the zeros at the end of a coefficient. -/
def stripZeros : Nat → Nat × Int → Nat × Int
  | 0, d => d
  | fuel + 1, (d, k) => if d ≠ 0 ∧ d % 10 = 0 then stripZeros fuel (d / 10, k + 1) else (d, k)

/-- The decimal with the fewest digits that reads back to the magnitude. -/
def shortest (negative : Bool) (m : Magnitude) : Decimal :=
  if m.significand = 0 then ⟨negative, 0, 0⟩
  else
    let i := Interval.of m
    match i.search i.pointPlace 20 1 with
    | some found =>
      let (d, k) := stripZeros 20 found
      ⟨negative, d, k⟩
    | none => ⟨negative, 0, 0⟩

end LinkAtlas.Decimal
