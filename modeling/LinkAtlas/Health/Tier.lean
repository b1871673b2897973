namespace LinkAtlas

/-!
# Tiers of health

* `Tier` — the three classes of an overall score;
* `Tier.ofScore` — the class of a score, `Tier.ofName?` — the class with a name.
-/

/-- The class of an overall score. -/
inductive Tier where
  | healthy
  | warning
  | critical
  deriving DecidableEq, Repr, Inhabited

namespace Tier

/-- All tiers. -/
def all : List Tier := [healthy, warning, critical]

/-- The name of a tier. -/
def name : Tier → String
  | healthy => "healthy"
  | warning => "warning"
  | critical => "critical"

/-- The tier with a name. -/
def ofName? (s : String) : Option Tier := all.find? (·.name == s)

/-- The lowest healthy score. -/
def healthyScore : Float := 80

/-- The lowest score that is not critical. -/
def warningScore : Float := 60

/-- The tier of a score. -/
def ofScore (score : Float) : Tier :=
  if healthyScore ≤ score then healthy
  else if warningScore ≤ score then warning
  else critical

/-- The name of a tier stands for no other tier. -/
theorem ofName?_name (t : Tier) : ofName? t.name = some t := by cases t <;> decide

end Tier

end LinkAtlas
