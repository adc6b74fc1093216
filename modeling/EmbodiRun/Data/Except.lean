/-
# Data.Except -- computations that may raise, taken apart
-/
namespace EmbodiRun.Data

universe u v

variable {ε : Type u} {α β : Type v}
variable {x : Except ε α} {a : α}

theorem bind_ok {f : α → Except ε β} {b : β} (ran : x >>= f = .ok b) : ∃ a, x = .ok a ∧ f a = .ok b := by
  cases x with
  | ok a => exact ⟨a, rfl, ran⟩
  | error => cases ran

/-- `if not p: raise e`. -/
def ensure (p : Prop) [Decidable p] (e : ε) : Except ε Unit := if p then .ok () else .error e
variable {p : Prop} {e : ε}

theorem ensure_ok [Decidable p] {u} (ran : ensure p e = .ok u) : p := by
  unfold ensure at ran
  split at ran
  · assumption
  · cases ran

theorem ensure_of [Decidable p] (holds : p) : ensure p e = .ok () := if_pos holds

theorem ensure_not [Decidable p] (fails : ¬p) : ensure p e = .error e :=
  if_neg fails

theorem ensure_bind_ok {β : Type} [Decidable p] {f : Unit → Except ε β} {b : β} :
    ensure p e >>= f = .ok b ↔ p ∧ f () = .ok b := by
  by_cases holds : p
  · rw [ensure_of holds]
    exact (and_iff_right holds).symm
  · rw [ensure_not holds]
    exact iff_of_false nofun fun both => holds both.1

theorem ensure_bind_error {β : Type} [Decidable p] {e e' : ε} {f : Unit → Except ε β}
    (raised : ensure p e >>= f = .error e') : e' = e ∨ p ∧ f () = .error e' := by
  by_cases holds : p
  · rw [ensure_of holds] at raised
    exact .inr ⟨holds, raised⟩
  · rw [ensure_not holds] at raised
    exact .inl (Except.error.inj raised).symm

theorem ok_of_toOption (some_ : x.toOption = some a) : x = .ok a := by
  cases x with
  | ok => exact congrArg Except.ok (Option.some.inj some_)
  | error => cases some_

theorem toOption_ok {P : α → Prop} (old : P a) (new : ∀ b, x = .ok b → P b) : P (x.toOption.getD a) := by
  cases x with
  | ok b => exact new b rfl
  | error => exact old

end EmbodiRun.Data
