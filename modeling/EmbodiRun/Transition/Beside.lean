/-
# Transition.Beside -- a run beside the part of it that some labels make

What a party sees of a run is compared with the run of its own labels alone.  That second run
is a record of the first: it takes the labels that are kept, and is lost where one of them is
not enabled in it.
-/
import EmbodiRun.Transition.History

namespace EmbodiRun.Transition

universe u v

variable {σ : Type u} {ε : Type v}

def alone (step : σ → ε → Option σ) (keep : ε → Bool) (_ : σ) (l : ε) (_ : σ) (other : Option σ) : Option σ :=
  if keep l then other.bind fun u => step u l else other

variable {step : σ → ε → Option σ} {keep : ε → Bool}

theorem record_eq {s t} {o other} {ls} (ran : run (noted step (alone step keep)) (s, o) ls = some (t, other)) :
    other = o.bind fun u => run step u (ls.filter keep) := by
  induction ls generalizing s o with
  | nil =>
    obtain ⟨_, rfl⟩ := Prod.mk.inj (Option.some.inj ran)
    cases o <;> rfl
  | cons l ls ih =>
    obtain ⟨⟨v, p⟩, first, rest⟩ := run_cons_eq_some.mp ran
    obtain ⟨_, further⟩ := noted_eq_some.mp first
    have further : p = alone step keep s l v o := further
    rw [ih rest, further, alone]
    by_cases kept : keep l
    · rw [if_pos kept, List.filter_cons_of_pos kept, Option.bind_assoc]
      rfl
    · rw [if_neg kept, List.filter_cons_of_neg kept]

theorem along_iff_alone {C D : σ → ε → Prop} {R A : σ → σ → Prop} (gives : ∀ s u, R s u → A s u)
    (skipped : ∀ s u l t, D s l → C s l → R s u → keep l = false → step s l = some t → R t u)
    (taken : ∀ s u l t, D s l → C s l → R s u → keep l = true → step s l = some t →
      ∃ v, step u l = some v ∧ R t v)
    (sharp : ∀ s u l t v, D s l → R s u → keep l = true → step s l = some t → step u l = some v → A t v → C s l)
    (free : ∀ s l, keep l = false → C s l)
    {s t : σ} {ls : List ε} (under : Along step D s ls) (related : R s s) (ran : run step s ls = some t) :
    (∀ before after u, ls = before ++ after → run step s before = some u →
      ∃ v, run step s (before.filter keep) = some v ∧ A u v) ↔ Along step C s ls := by
  have both {before : List ε} {u : σ} (reached : run step s before = some u) :
      run (noted step (alone step keep)) (s, some s) before = some (u, run step s (before.filter keep)) := by
    obtain ⟨other, beside⟩ : ∃ other, run (noted step (alone step keep)) (s, some s) before =
      some (u, other) := noted_run (some s) reached
    rw [beside, record_eq beside]
    rfl
  have lifted : Along (noted step (alone step keep)) (fun p l => D p.1 l) (s, some s) ls :=
    along_noted.mpr under
  have same : Along (noted step (alone step keep)) (fun p l => C p.1 l) (s, some s) ls ↔
    Along step C s ls := along_noted
  rw [← same, ← along_iff_prefixes_under (I := fun p => ∃ v, p.2 = some v ∧ R p.1 v)
    (P := fun p => ∃ v, p.2 = some v ∧ A p.1 v) ?_ ?_ ?_ lifted ⟨s, rfl, related⟩ (both ran)]
  · constructor
    · rintro all before after ⟨u, other⟩ split reached
      obtain ⟨v, found, agrees⟩ := all before after u split (run_noted reached)
      exact ⟨v, (record_eq reached).trans found, agrees⟩
    · intro all before after u split reached
      obtain ⟨v, found, agrees⟩ := all before after _ split (both reached)
      exact ⟨v, found, agrees⟩
  · rintro p ⟨v, found, holds⟩
    exact ⟨v, found, gives _ _ holds⟩
  · rintro ⟨s, o⟩ l ⟨t, p⟩ under met ⟨u, rfl, holds⟩ next
    obtain ⟨next, record⟩ := noted_eq_some.mp next
    have record : p = alone step keep s l t (some u) := record
    cases kept : keep l with
    | false => exact ⟨u, by simp [record, alone, kept], skipped s u l t under met holds kept next⟩
    | true =>
      obtain ⟨v, other, after⟩ := taken s u l t under met holds kept next
      exact ⟨v, by simp [record, alone, kept, other], after⟩
  · rintro ⟨s, o⟩ l ⟨t, p⟩ under ⟨u, rfl, holds⟩ next ⟨v, found, agrees⟩
    obtain ⟨next, record⟩ := noted_eq_some.mp next
    have record : p = alone step keep s l t (some u) := record
    cases kept : keep l with
    | false => exact free s l kept
    | true =>
      have other : step u l = some v := by simpa [record, alone, kept] using found
      exact sharp s u l t v under holds kept next other agrees

end EmbodiRun.Transition
