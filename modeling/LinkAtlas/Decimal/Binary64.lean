import LinkAtlas.Decimal.Basic

namespace LinkAtlas.Decimal

/-!
# Decimals and binary floating point

* `Magnitude` — a finite double without its sign: `significand · 2 ^ exponent`;
* `magnitude?` — the magnitude of a double, none for infinities and for what is no number;
* `nearest?` — the magnitude nearest to a quotient of naturals, ties to an even significand; none
  when it lies beyond the largest double;
* `toFloat?` — the double nearest to a decimal.
-/

/-- The number `significand · 2 ^ exponent`. -/
structure Magnitude where
  significand : Nat
  exponent : Int
  deriving DecidableEq, Repr

/-- Whether the sign bit of a double is set. -/
def isNegative (x : Float) : Bool := x.toBits.toNat / Nat.pow 2 63 == 1

/-- The magnitude of a finite double. -/
def magnitude? (x : Float) : Option Magnitude :=
  let bits := x.toBits.toNat
  let field : Nat := bits / Nat.pow 2 52 % Nat.pow 2 11
  let fraction : Nat := bits % Nat.pow 2 52
  if field = 2047 then none
  else if field = 0 then some ⟨fraction, -1074⟩
  else some ⟨Nat.pow 2 52 + fraction, (field : Int) - 1075⟩

/-- A double from its sign and magnitude, whose significand has at most 53 bits. -/
def ofMagnitude (negative : Bool) (m : Magnitude) : Float :=
  let sign := if negative then Nat.pow 2 63 else 0
  let body :=
    if m.significand < Nat.pow 2 52 then m.significand
    else (m.exponent + 1075).toNat * Nat.pow 2 52 + (m.significand - Nat.pow 2 52)
  Float.ofBits (UInt64.ofNat (sign + body))

/-- The quotient `num / (den · 2 ^ q)`, rounded. -/
def roundScaled (num den : Nat) (q : Int) : Nat :=
  if 0 ≤ q then roundDiv num (den * Nat.pow 2 q.toNat)
  else roundDiv (num * Nat.pow 2 (-q).toNat) den

/-- The magnitude nearest to `num / den`. -/
def nearest? (num den : Nat) : Option Magnitude :=
  if num = 0 then some ⟨0, -1074⟩
  else
    let guess : Int := (num.log2 : Int) - den.log2 - 53
    let q := max guess (-1074)
    let narrow : Magnitude := ⟨roundScaled num den q, q⟩
    let wide : Magnitude := ⟨roundScaled num den (q + 1), q + 1⟩
    let m := if narrow.significand < Nat.pow 2 53 then narrow else wide
    let m := if m.significand < Nat.pow 2 53 then m else ⟨m.significand / 2, m.exponent + 1⟩
    if 971 < m.exponent then none else some m

/-- The double nearest to a decimal; none when the decimal is out of range. -/
def toFloat? (d : Decimal) : Option Float :=
  if d.coefficient = 0 then some (ofMagnitude d.negative ⟨0, -1074⟩)
  else
    let top : Int := (natText d.coefficient).length + d.exponent
    if 400 < top then none
    else if top < -400 then some (ofMagnitude d.negative ⟨0, -1074⟩)
    else
      let m? :=
        if 0 ≤ d.exponent then nearest? (d.coefficient * Nat.pow 10 d.exponent.toNat) 1
        else nearest? d.coefficient (Nat.pow 10 (-d.exponent).toNat)
      m?.map (ofMagnitude d.negative)

end LinkAtlas.Decimal
