import FissionMall.C2COrder.Spec
import FissionMall.Frame.Index
import FissionMall.Frame.Ownership

/-
  The storage invariants of `c2c-order`, kept by every successful call and so true in every
  storage reached from empty storage.

  `Inv`: `OrdersByStatus`, `UserOrders` and `InstitutionOrders` index `Orders` by the order's
  status, member code and institution code. Read through `IndexedBy`: every code in a bucket is a
  stored order of that bucket, and every stored order's code is in each of its three buckets
  exactly once. `create_order` pushes a fresh code onto its three buckets, a status change retains
  the code out of the old status bucket before pushing it onto the new one, and `delete_order`
  retains it out of all three (`Inv.dispatch`). Hence `orders_index_invariant`: every order is in
  exactly one by-status bucket, the one of its own status.

  `AmountsValid`: every stored order has `0 < transaction_amount ≤ total_amount`, the two checks
  of `create_order`; no other call writes an amount.
-/

namespace FissionMall.C2COrder

variable {T : Config}

/-- `OrdersByStatus`, `UserOrders` and `InstitutionOrders` index `Orders` by status, member code
and institution code: (a) and (c) are the `sound` fields, (b) the `once` fields. -/
structure Inv (s : State T) : Prop where
  byStatus : IndexedBy s.orders (fun _ o => o.status) id (BoundedVec.lists s.ordersByStatus)
  byMember : IndexedBy s.orders (fun _ o => o.memberCode) id (BoundedVec.lists s.userOrders)
  byInstitution :
    IndexedBy s.orders (fun _ o => o.institutionCode) id (BoundedVec.lists s.institutionOrders)

theorem Inv.empty : Inv (State.empty T) := ⟨.empty, .empty, .empty⟩

theorem Inv.moveStatus {s : State T} {k : OrderCode T} {o : Order T} {new : OrderStatus}
    {now : Nat} {bs : BoundedVec (OrderCode T) 10000} {evs : List (Event T)} (h : Inv s)
    (ho : s.orders k = some o) (hbs : (s.retainedBucket k o.status new).tryPush k = some bs) :
    Inv (s.moveStatus k o new now bs evs) :=
  ⟨h.byStatus.retainPush (keyedBy_id _) ho { o with status := new, updatedTime := now } hbs,
    h.byMember.modify ho rfl, h.byInstitution.modify ho rfl⟩

/-- Every successful call keeps the index invariant. -/
theorem Inv.dispatch {s s' : State T} {origin : Origin T.AccountId} {now : Nat} {c : Call}
    (h : Inv s) (hs : dispatch origin now c s = .ok () s') : Inv s' := by
  rw [dispatch_ok] at hs
  cases c with
  | createOrder =>
    obtain ⟨_, k, _, _, _, _, _, _, -, -, hk, -, -, -, -, -, hbu, hbi, hbs, rfl⟩ := createOrder_ok hs
    exact ⟨h.byStatus.push (keyedBy_id _) hk hbs, h.byMember.push (keyedBy_id _) hk hbu,
      h.byInstitution.push (keyedBy_id _) hk hbi⟩
  | updateOrderStatus =>
    obtain ⟨_, _, _, _, _, -, -, ho, -, -, -, hbs, rfl⟩ := updateOrderStatus_ok hs
    exact h.moveStatus ho hbs
  | cancelOrder =>
    obtain ⟨_, _, _, _, -, -, ho, -, -, hbs, rfl⟩ := cancelOrder_ok hs
    exact h.moveStatus ho hbs
  | deleteOrder =>
    obtain ⟨_, _, _, -, -, ho, -, rfl⟩ := deleteOrder_ok hs
    exact ⟨h.byStatus.retain (keyedBy_id _) ho, h.byMember.retain (keyedBy_id _) ho,
      h.byInstitution.retain (keyedBy_id _) ho⟩
  | completeOrder =>
    obtain ⟨_, _, _, _, -, -, ho, -, -, hbs, rfl⟩ := completeOrder_ok hs
    exact h.moveStatus ho hbs

theorem Inv.reachable {s : State T} (h : Reachable step (State.empty T) s) : Inv s :=
  h.inv Inv.empty fun _ _ _ hi hs => hi.dispatch hs

/-- Under `Inv` an order's code is in the bucket of its status once, and in no other. -/
theorem Inv.status_bucket {s : State T} (h : Inv s) {k : OrderCode T} {o : Order T}
    (ho : s.orders k = some o) :
    (s.ordersByStatus o.status).toList.count k = 1 ∧
      ∀ S, S ≠ o.status → k ∉ (s.ordersByStatus S).toList := by
  refine ⟨h.byStatus.once k o ho, fun S hS hm => hS ?_⟩
  obtain ⟨k', o', ho', rfl, rfl⟩ := h.byStatus.sound S k hm
  rw [id_eq, ho', Option.some_inj] at ho
  rw [ho]

theorem orders_index_invariant :
    (∀ (s s' : State T) (origin : Origin T.AccountId) (now : Nat) (c : Call),
      Inv s → dispatch origin now c s = .ok () s' → Inv s') ∧
    (∀ s : State T, Reachable step (State.empty T) s → Inv s) ∧
    (∀ s : State T, Reachable step (State.empty T) s → ∀ k o, s.orders k = some o →
      (s.ordersByStatus o.status).toList.count k = 1 ∧
        ∀ S, S ≠ o.status → k ∉ (s.ordersByStatus S).toList) :=
  ⟨fun _ _ _ _ _ h hs => h.dispatch hs, fun _ h => Inv.reachable h,
    fun _ h _ _ ho => (Inv.reachable h).status_bucket ho⟩

/-- `c2c-order` with every bound 1, and accounts numbered. -/
abbrev Demo : Config :=
  { AccountId := Nat, MaxOrderCodeLength := 1, MaxMemberCodeLength := 1,
    MaxInstitutionIdLength := 1 }

/-- The one-byte code `[0]`. -/
def code0 : BoundedVec (BitVec 8) 1 := ⟨[0], by decide⟩

/-- Account 0 creates order `[0]` at block 2 and pays it at block 4. -/
def payRun : List (Origin Nat × Nat × Call) :=
  [(.signed 0, 2, .createOrder [0] [0] [0] 0 1 1), (.signed 0, 4, .updateOrderStatus [0] 1)]

/-- The creation keeps `Inv` from empty storage; after `payRun` order `[0]` is `Paid`, and its
code is once in the bucket of `Paid` and in no other. -/
theorem paid_order_in_one_bucket :
    dispatch (T := Demo) (.signed 0) 2 (.createOrder [0] [0] [0] 0 1 1) (State.empty Demo) =
        .ok () (execute step (State.empty Demo) (payRun.take 1)) ∧
      Inv (execute step (State.empty Demo) (payRun.take 1)) ∧
      Inv (execute step (State.empty Demo) payRun) ∧
      ∃ o, (execute step (State.empty Demo) payRun).orders code0 = some o ∧ o.status = .paid ∧
        ((execute step (State.empty Demo) payRun).ordersByStatus .paid).toList.count code0 = 1 ∧
        ∀ S, S ≠ .paid →
          code0 ∉ ((execute step (State.empty Demo) payRun).ordersByStatus S).toList :=
  have hr := reachable_execute (fun _ _ _ _ h => dispatch_error h) .init payRun
  have h₁ : dispatch (T := Demo) (.signed 0) 2 (.createOrder [0] [0] [0] 0 1 1) (State.empty Demo) =
      .ok () (execute step (State.empty Demo) (payRun.take 1)) := rfl
  ⟨h₁, orders_index_invariant.1 _ _ _ _ _ Inv.empty h₁, orders_index_invariant.2.1 _ hr, _, rfl,
    rfl, (orders_index_invariant (T := Demo)).2.2 _ hr code0 _ rfl⟩

/-! ## Amounts -/

/-- Every stored order has `0 < transaction_amount ≤ total_amount`. -/
def AmountsValid (s : State T) : Prop :=
  AllStored (fun o : Order T => 0 < o.transactionAmount ∧ o.transactionAmount ≤ o.totalAmount)
    s.orders

theorem AmountsValid.dispatch {s s' : State T} {origin : Origin T.AccountId} {now : Nat} {c : Call}
    (h : AmountsValid s) (hs : dispatch origin now c s = .ok () s') : AmountsValid s' := by
  rw [dispatch_ok] at hs
  cases c with
  | createOrder =>
    obtain ⟨_, _, _, _, _, _, _, _, -, -, -, h1, h2, -, -, -, -, -, -, rfl⟩ := createOrder_ok hs
    exact h.update_some ⟨h1, h2⟩
  | updateOrderStatus =>
    obtain ⟨_, _, o, _, _, -, -, ho, -, -, -, -, rfl⟩ := updateOrderStatus_ok hs
    exact h.update_some (h _ o ho)
  | cancelOrder =>
    obtain ⟨_, _, o, _, -, -, ho, -, -, -, rfl⟩ := cancelOrder_ok hs
    exact h.update_some (h _ o ho)
  | deleteOrder =>
    obtain ⟨_, k, _, -, -, -, -, rfl⟩ := deleteOrder_ok hs
    exact h.update_none k
  | completeOrder =>
    obtain ⟨_, _, o, _, -, -, ho, -, -, -, rfl⟩ := completeOrder_ok hs
    exact h.update_some (h _ o ho)

theorem AmountsValid.reachable {s : State T} (h : Reachable step (State.empty T) s) :
    AmountsValid s :=
  h.inv AllStored.empty fun _ _ _ hi hs => AmountsValid.dispatch hi hs

/-! ## Ownership -/

end FissionMall.C2COrder
