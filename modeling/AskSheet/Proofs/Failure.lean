/-
  Failures along a run. `FailsWithin kinds x` says that `x` fails with a failure of these kinds or
  not at all; a sequence of steps fails within the kinds of its steps (`FailsWithin.bind`). What is
  made of a result is there when the result is (`map_eq_ok_iff`).
-/
import AskSheet.Failure

namespace AskSheet

/-- Gives a result, or a failure of one of these kinds. -/
def FailsWithin {α : Type} (kinds : List FailureKind) (x : Except Failure α) : Prop :=
  ∀ f, x = .error f → f.kind ∈ kinds

section

variable {α β : Type} {kinds more : List FailureKind}

theorem failsWithin_ok (a : α) : FailsWithin kinds (.ok a) := by
  intro f h
  exact absurd h (by simp)

theorem failsWithin_error {f : Failure} (h : f.kind ∈ kinds) :
    FailsWithin kinds (.error f : Except Failure α) := by
  rintro g ⟨rfl⟩
  exact h

theorem FailsWithin.mono {x : Except Failure α} (h : FailsWithin kinds x) (hk : kinds ⊆ more) :
    FailsWithin more x := fun f hf => hk (h f hf)

/-- A step and what follows it fail as one of them does. -/
theorem FailsWithin.bind {x : Except Failure α} {next : α → Except Failure β}
    (hx : FailsWithin kinds x) (hnext : ∀ a, x = .ok a → FailsWithin kinds (next a)) :
    FailsWithin kinds (x >>= next) := by
  cases x with
  | error f => exact failsWithin_error (hx f rfl)
  | ok a => exact hnext a rfl

theorem map_eq_ok_iff {x : Except Failure α} {g : α → β} {b : β} :
    x.map g = .ok b ↔ ∃ a, x = .ok a ∧ g a = b := by
  cases x with
  | error f => exact iff_of_false nofun nofun
  | ok a =>
    constructor
    · intro h
      exact ⟨a, rfl, Except.ok.inj h⟩
    · rintro ⟨_, ⟨rfl⟩, rfl⟩
      rfl

theorem FailsWithin.map {x : Except Failure α} (hx : FailsWithin kinds x) (g : α → β) :
    FailsWithin kinds (x.map g) := by
  cases x with
  | error f => exact failsWithin_error (hx f rfl)
  | ok a => exact failsWithin_ok (g a)

theorem failsWithin_mapError {ε : Type} {wrap : ε → Failure} {kind : FailureKind}
    (h : kind ∈ kinds) (x : Except ε α) (hkind : ∀ e, (wrap e).kind = kind) :
    FailsWithin kinds (x.mapError wrap) := by
  cases x with
  | error e => exact failsWithin_error (hkind e ▸ h)
  | ok a => exact failsWithin_ok a

end

end AskSheet
