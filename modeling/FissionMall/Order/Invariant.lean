import FissionMall.Order.Spec
import FissionMall.Frame.Index
import FissionMall.Frame.Ownership

/-
  The index invariant of `order`: `UserOrders` and `InstitutionOrders` index `Orders` by member
  code and institution code. `create_order` pushes a fresh code onto both buckets and
  `delete_order` retains it out of both; the three calls that rewrite an order in place keep
  its two codes, so they leave both indexes as they are.
-/

set_option linter.dupNamespace false

namespace FissionMall.Order

variable {T : Config}

/-- `UserOrders` and `InstitutionOrders` index `Orders` by member and institution code. -/
structure Inv (s : State T) : Prop where
  byMember : IndexedBy s.orders (fun _ o => o.memberCode) id (BoundedVec.lists s.userOrders)
  byInstitution :
    IndexedBy s.orders (fun _ o => o.institutionCode) id (BoundedVec.lists s.institutionOrders)

theorem Inv.empty : Inv (State.empty T) := ⟨.empty, .empty⟩

theorem Inv.rewriteOrder {s : State T} {k : OrderCode T} {o o' : Order T} {evs : List (Event T)}
    (h : Inv s) (ho : s.orders k = some o) (hm : o'.memberCode = o.memberCode)
    (hi : o'.institutionCode = o.institutionCode) : Inv (s.rewriteOrder k o' evs) :=
  ⟨h.byMember.modify ho hm, h.byInstitution.modify ho hi⟩

/-- Every successful call keeps the index invariant. -/
theorem Inv.dispatch {s s' : State T} {origin : Origin T.AccountId} {now : Nat} {c : Call}
    (h : Inv s) (hs : dispatch origin now c s = .ok () s') : Inv s' := by
  rw [dispatch_ok] at hs
  cases c with
  | createOrder =>
    obtain ⟨_, _, _, _, _, _, -, -, hk, -, -, -, -, -, -, -, -, -, hbu, hbi, rfl⟩ := createOrder_ok hs
    exact ⟨h.byMember.push (keyedBy_id _) hk hbu, h.byInstitution.push (keyedBy_id _) hk hbi⟩
  | updateOrderStatus =>
    obtain ⟨_, _, _, _, -, -, ho, -, -, -, rfl⟩ := updateOrderStatus_ok hs
    exact h.rewriteOrder ho rfl rfl
  | updateExpressInfo =>
    obtain ⟨_, _, _, _, _, -, -, -, -, ho, -, rfl⟩ := updateExpressInfo_ok hs
    exact h.rewriteOrder ho rfl rfl
  | cancelOrder =>
    obtain ⟨_, _, _, -, -, ho, -, -, rfl⟩ := cancelOrder_ok hs
    exact h.rewriteOrder ho rfl rfl
  | deleteOrder =>
    obtain ⟨_, _, _, -, -, ho, -, rfl⟩ := deleteOrder_ok hs
    exact ⟨h.byMember.retain (keyedBy_id _) ho, h.byInstitution.retain (keyedBy_id _) ho⟩

theorem Inv.reachable {s : State T} (h : Reachable step (State.empty T) s) : Inv s :=
  h.inv Inv.empty fun _ _ _ hi hs => hi.dispatch hs

/-! ## Ownership -/

end FissionMall.Order
