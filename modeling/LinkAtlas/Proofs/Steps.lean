import Mathlib.Order.Defs.Unbundled

namespace LinkAtlas

/-!
# Steps of a reader

A reader takes steps that change its state or fail.

* `exists_of_step` — two steps in a row succeed when one does after the other;
* `Leads` — a step leads from a state only to states in a relation with it;
* `Leads.bind` and the other lemmas on `Leads` — steps that are made of such steps.
-/

variable {σ α β : Type} {m : StateT σ Option α} {f : α → StateT σ Option β} {s s' : σ} {b : β}

/-- Two steps in a row that succeed do so one after the other. -/
theorem exists_of_step (h : (m >>= f) s = some (b, s')) :
    ∃ a s₁, m s = some (a, s₁) ∧ f a s₁ = some (b, s') := by
  obtain ⟨⟨a, s₁⟩, hm, hf⟩ := Option.bind_eq_some_iff.mp h
  exact ⟨a, s₁, hm, hf⟩

/-- Whenever a step succeeds, the state after it is related to the one before it. -/
def Leads (R : σ → σ → Prop) (m : StateT σ Option α) : Prop :=
  ∀ s a s', m s = some (a, s') → R s s'

namespace Leads

variable {R : σ → σ → Prop}

/-- A step that never succeeds leads nowhere. -/
theorem failure : Leads R (failure : StateT σ Option α) := fun _ _ _ h => nomatch h

/-- A step that does nothing leads where it starts. -/
theorem pure [Std.Refl R] (a : α) : Leads R (pure a : StateT σ Option α) := by
  intro s b s' h
  obtain ⟨-, rfl⟩ := Prod.mk.inj (Option.some.inj h)
  exact refl_of R s

/-- So does one that looks at the state. -/
theorem get [Std.Refl R] : Leads R (get : StateT σ Option σ) := by
  intro s b s' h
  obtain ⟨-, rfl⟩ := Prod.mk.inj (Option.some.inj h)
  exact refl_of R s

/-- Steps that lead somewhere do so in a row. -/
theorem bind [IsTrans σ R] (hm : Leads R m) (hf : ∀ a, Leads R (f a)) : Leads R (m >>= f) := by
  intro s b s' h
  obtain ⟨a, s₁, hs₁, hs'⟩ := exists_of_step h
  exact trans_of R (hm s a s₁ hs₁) (hf a s₁ b s' hs')

/-- Of two steps that lead somewhere, either one does. -/
theorem ite {p : Prop} [Decidable p] {m m' : StateT σ Option α} (h : Leads R m)
    (h' : Leads R m') : Leads R (if p then m else m') := by
  split
  · exact h
  · exact h'

end Leads

end LinkAtlas
