/-
# Application.Agreement -- the two ways to recognize a retry

The application recognizes a retry by `==`, the registry by canonical JSON.
-/
import EmbodiRun.Application.Identity

namespace EmbodiRun.Application

open Data Devices

/-- What the caller supplied has one canonical JSON, as `submit` would compare it. -/
def SameJson (request other : Request) : Prop :=
  ∃ identity, (identityParameters request none).normalize = some identity ∧
    (identityParameters other none).normalize = some identity

variable {request other : Request} {selected : Option Text} {stored : Identity}

theorem SameJson.eq (same : SameJson request other) :
    request = other ∧ (identityParameters other none).IsJson := by
  obtain ⟨identity, first, second⟩ := same
  obtain ⟨rfl, _⟩ := Identity.normalize_eq.mp first
  obtain ⟨equal, json⟩ := Identity.normalize_eq.mp second
  refine ⟨?_, json⟩
  cases request
  cases other
  simp only [identityParameters, Identity.mk.injEq, Request.mk.injEq] at equal ⊢
  obtain ⟨actions, source, _, controlHz, observationId, _, _, parameters⟩ := equal
  exact ⟨actions, source, controlHz, observationId, parameters⟩

theorem Submitted.isJson (kept : Submitted request stored) (admitted : request.admitted) :
    (identityParameters request none).IsJson := by
  refine ⟨fun action member => ?_, kept.json⟩
  obtain ⟨n, here, rfl⟩ := List.mem_iff_getElem.mp member
  obtain ⟨values, metadata⟩ := detached_of_admitted admitted _ member
  have rebound := (List.forall₂_iff_get.mp kept.actions).2 n here (kept.actions.length_eq ▸ here)
  have finite := (Action.isJson_iff.mp rebound.json).1
  rw [rebound.timestamp] at finite
  exact Action.isJson_iff.mpr ⟨finite, values, metadata⟩

def single (n : Number) (metadata : Fields) : Request :=
  ⟨[⟨.finite 0, .field ['x'] (.number n) .empty, metadata⟩], .agent, .finite 10, none, none⟩

end EmbodiRun.Application
