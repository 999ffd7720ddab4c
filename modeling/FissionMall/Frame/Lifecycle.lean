import Mathlib.Logic.Relation
import Mathlib.Logic.Function.Basic

/-
  Status lifecycles, for both order pallets. A record's status is read as an `Option S`, `none`
  while the record is not stored. `StatusStep table init` is what one call may do to it: leave it,
  move it along an edge of the transition table, create the record in status `init`, or remove
  it. `PathFrom table init st`: every stored status is reached from `init` along the table.
  `PathFrom.step` derives the second from the first, so a pallet whose calls all make status
  steps has every stored status on a path of its table from `init`.
-/

namespace FissionMall

section Lifecycle

variable {K S : Type} (table : S → S → Bool) (init : S)

/-- One call's effect on one record's status. -/
def StatusStep : Option S → Option S → Prop
  | some a, some b => a = b ∨ table a b = true
  | none, some b => b = init
  | _, none => True

/-- Every stored status is reached from `init` along edges of `table`. -/
def PathFrom (st : K → Option S) : Prop :=
  ∀ k a, st k = some a → Relation.ReflTransGen (fun a b => table a b = true) init a

variable {table init}

theorem StatusStep.refl (a : Option S) : StatusStep table init a a := by
  rcases a with _ | a
  · trivial
  · exact .inl rfl

theorem PathFrom.empty : PathFrom table init (fun _ : K => none) := fun _ _ h => by cases h

theorem PathFrom.step {st st' : K → Option S} (h : PathFrom table init st)
    (hstep : ∀ k, StatusStep table init (st k) (st' k)) : PathFrom table init st' := by
  intro k b hb
  have hk := hstep k
  rw [hb] at hk
  cases ha : st k with
  | none => rw [ha] at hk; exact hk ▸ .refl
  | some a =>
    rw [ha] at hk
    rcases hk with rfl | hab
    · exact h k a ha
    · exact (h k a ha).tail hab

/-- A status with no outgoing edge is never changed by a status step. -/
theorem StatusStep.eq_of_terminal {a : S} {b : S} (hterm : ∀ c, table a c = false)
    (h : StatusStep table init (some a) (some b)) : b = a := by
  rcases h with rfl | h
  · rfl
  · rw [hterm] at h; cases h

end Lifecycle

end FissionMall
