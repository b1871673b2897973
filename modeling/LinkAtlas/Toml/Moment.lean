import LinkAtlas.Decimal.Basic
import LinkAtlas.Toml.Text

namespace LinkAtlas.Toml

/-!
# Dates and times

* `startsMoment` — whether a text starts like a date or a time;
* `moment` — reads a date, a time, or both with an offset, and gives its canonical text: `T` between
  date and time, nine digits of a second at most and no zeros at their end, `Z` or a signed offset.
-/

/-- Whether a text starts with so many digits and then a mark. -/
def startsDigits (n : Nat) (mark : Char) (s : List Char) : Bool :=
  (s.take n).length == n && (s.take n).all Decimal.isDigit && (s.drop n).head? == some mark

/-- Whether a text starts like a time. -/
def startsTime (s : List Char) : Bool := startsDigits 2 ':' s

/-- Whether a text starts like a date or a time. -/
def startsMoment (s : List Char) : Bool := startsDigits 4 '-' s || startsTime s

/-- A number of exactly `n` digits within bounds, as written. -/
def digitsBetween (n low high : Nat) : Reader (List Char) := do
  let ds := (← get).take n
  Reader.skip n
  if ds.length = n ∧ ds.all Decimal.isDigit ∧ low ≤ Decimal.ofDigits ds ∧
      Decimal.ofDigits ds ≤ high then
    return ds
  else failure

/-- The number of days of a month. -/
def daysOfMonth (year month : Nat) : Nat :=
  if month = 2 then
    if year % 4 = 0 ∧ (year % 100 ≠ 0 ∨ year % 400 = 0) then 29 else 28
  else if month = 4 ∨ month = 6 ∨ month = 9 ∨ month = 11 then 30
  else 31

/-- A date. -/
def date : Reader (List Char) := do
  let year ← digitsBetween 4 0 9999
  Reader.expect "-"
  let month ← digitsBetween 2 1 12
  Reader.expect "-"
  let day ← digitsBetween 2 1 (daysOfMonth (Decimal.ofDigits year) (Decimal.ofDigits month))
  return year ++ '-' :: month ++ '-' :: day

/-- A fraction of a second with its point, if there is one and it is not zero. -/
def secondFraction : Reader (List Char) := do
  match ← get with
  | '.' :: rest =>
    let ds := rest.takeWhile Decimal.isDigit
    if ds.isEmpty then return []
    else
      Reader.skip (ds.length + 1)
      let kept := ((ds.take 9).reverse.dropWhile (· == '0')).reverse
      return if kept.isEmpty then [] else '.' :: kept
  | _ => return []

/-- A time of day. A leap second may be there. -/
def time : Reader (List Char) := do
  let hour ← digitsBetween 2 0 23
  Reader.expect ":"
  let minute ← digitsBetween 2 0 59
  Reader.expect ":"
  let second ← digitsBetween 2 0 60
  return hour ++ ':' :: minute ++ ':' :: second ++ (← secondFraction)

/-- An offset from universal time, if there is one. -/
def offset : Reader (List Char) := do
  match ← Reader.peek with
  | some c =>
    if c = 'Z' ∨ c = 'z' then
      Reader.skip 1
      return ['Z']
    else if c = '+' ∨ c = '-' then
      Reader.skip 1
      let hour ← digitsBetween 2 0 23
      Reader.expect ":"
      let minute ← digitsBetween 2 0 59
      -- An offset of zero is written with a plus.
      let isZero := Decimal.ofDigits (hour ++ minute) == 0
      return (if isZero then '+' else c) :: hour ++ ':' :: minute
    else return []
  | none => return []

/-- The text of a date, a time, or both. -/
def moment : Reader (List Char) := do
  if startsTime (← get) then time
  else
    let day ← date
    match ← get with
    | c :: rest =>
      -- A blank stands for the `T` only when a time follows.
      if (c = 'T' ∨ c = 't' ∨ c = ' ') ∧ startsTime rest then
        Reader.skip 1
        let clock ← time
        return day ++ 'T' :: clock ++ (← offset)
      else return day
    | [] => return day

end LinkAtlas.Toml
