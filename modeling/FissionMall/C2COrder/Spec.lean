import FissionMall.C2COrder.Pallet

/-
  One spec lemma per call of `c2c-order`: what a successful call checked and the storage it
  left. `update_order_status`, `cancel_order` and `complete_order` end in the same write,
  `State.moveStatus`: the order leaves the bucket of its old status, joins the bucket of the new
  one, and is rewritten with the new status and block number. The three differ only in the
  guard on the old status and in the events they deposit.
-/

namespace FissionMall.C2COrder

open Function (update)

variable {T : Config}

/-- Order `k`, stored as `o`, moved to status `new` at block `now`: `bs` is the bucket of `new`
after the push, and `evs` the events deposited. -/
def State.moveStatus (s : State T) (k : OrderCode T) (o : Order T) (new : OrderStatus) (now : Nat)
    (bs : BoundedVec (OrderCode T) 10000) (evs : List (Event T)) : State T :=
  { s with
    orders := update s.orders k (some { o with status := new, updatedTime := now })
    ordersByStatus := update
      (update s.ordersByStatus o.status ((s.ordersByStatus o.status).retain (· != k))) new bs
    events := s.events ++ evs }

/-- The bucket of `new` once `k` has been retained out of the bucket of `old`. -/
def State.retainedBucket (s : State T) (k : OrderCode T) (old new : OrderStatus) :
    BoundedVec (OrderCode T) 10000 :=
  update s.ordersByStatus old ((s.ordersByStatus old).retain (· != k)) new

theorem dispatch_ok {origin : Origin T.AccountId} {now : Nat} {c : Call} {s s' : State T} :
    dispatch origin now c s = .ok () s' ↔ c.body origin now s = .ok () s' :=
  withStorageLayer_ok

/-- A failing call leaves the storage as it was. -/
theorem dispatch_error {origin : Origin T.AccountId} {now : Nat} {c : Call} {s s' : State T}
    {e : DispatchError Error} (h : dispatch origin now c s = .error e s') : s' = s :=
  withStorageLayer_error h

section Calls

variable {origin : Origin T.AccountId} {now : Nat} {oc : Bytes} {s s' : State T}

theorem createOrder_ok {mc ic : Bytes} {d : BitVec 8} {ta total : BitVec 128}
    (h : createOrder origin now oc mc ic d ta total s = .ok () s') :
    ∃ who k m i dir bu bi bs, origin = .signed who ∧ BoundedVec.tryFrom oc = some k ∧
      s.orders k = none ∧ 0 < ta ∧ ta ≤ total ∧ decodeDirection d = some dir ∧
      BoundedVec.tryFrom mc = some m ∧ BoundedVec.tryFrom ic = some i ∧
      (s.userOrders m).tryPush k = some bu ∧ (s.institutionOrders i).tryPush k = some bi ∧
      (s.ordersByStatus .pending).tryPush k = some bs ∧
      s' = { orders := update s.orders k (some ⟨k, m, i, .pending, dir, now, now, ta, total, who⟩),
             userOrders := update s.userOrders m bu,
             institutionOrders := update s.institutionOrders i bi,
             ordersByStatus := update s.ordersByStatus .pending bs,
             events := s.events ++ [.orderCreated k who] } := by
  simp only [createOrder, pushToStatus, depositEvent, bind_assoc, ensureSigned_bind_eq_ok,
    okOr_bind_eq_ok, get_bind, ensure_bind_eq_ok, modify_bind, modify_apply, result_ok_inj,
    Option.isNone_iff_eq_none] at h
  obtain ⟨who, rfl, k, hk, h1, h2, h3, dir, hd, m, hm, i, hi, bu, hbu, bi, hbi, bs, hbs, -, rfl⟩ := h
  exact ⟨who, k, m, i, dir, bu, bi, bs, rfl, hk, h1, h2, h3, hd, hm, hi, hbu, hbi, hbs, rfl⟩

theorem updateOrderStatus_ok {st : BitVec 8} (h : updateOrderStatus origin now oc st s = .ok () s') :
    ∃ who k o new bs, origin = .signed who ∧ BoundedVec.tryFrom oc = some k ∧
      s.orders k = some o ∧ o.creator = who ∧ decodeStatus st = some new ∧
      validTransition o.status new = true ∧ (s.retainedBucket k o.status new).tryPush k = some bs ∧
      s' = s.moveStatus k o new now bs (statusEvents k st new) := by
  simp only [updateOrderStatus, validateStatusTransition, retainFromStatus, pushToStatus,
    bind_assoc, ensureSigned_bind_eq_ok, okOr_bind_eq_ok, get_bind, ensure_bind_eq_ok, modify_bind,
    modify_apply, result_ok_inj] at h
  obtain ⟨who, rfl, k, hk, o, ho, h1, new, hn, h2, bs, hbs, -, rfl⟩ := h
  exact ⟨who, k, o, new, bs, rfl, hk, ho, h1, hn, h2, hbs, rfl⟩

theorem cancelOrder_ok (h : cancelOrder origin now oc s = .ok () s') :
    ∃ who k o bs, origin = .signed who ∧ BoundedVec.tryFrom oc = some k ∧
      s.orders k = some o ∧ o.creator = who ∧ (o.status = .pending ∨ o.status = .paid) ∧
      (s.retainedBucket k o.status .cancelled).tryPush k = some bs ∧
      s' = s.moveStatus k o .cancelled now bs [.orderCancelled k] := by
  simp only [cancelOrder, retainFromStatus, pushToStatus, depositEvent, bind_assoc,
    ensureSigned_bind_eq_ok, okOr_bind_eq_ok, get_bind, ensure_bind_eq_ok, modify_bind,
    modify_apply, result_ok_inj] at h
  obtain ⟨who, rfl, k, hk, o, ho, h1, h2, bs, hbs, -, rfl⟩ := h
  exact ⟨who, k, o, bs, rfl, hk, ho, h1, h2, hbs, rfl⟩

theorem completeOrder_ok (h : completeOrder origin now oc s = .ok () s') :
    ∃ who k o bs, origin = .signed who ∧ BoundedVec.tryFrom oc = some k ∧
      s.orders k = some o ∧ o.creator = who ∧ (o.status = .delivered ∨ o.status = .notarizing) ∧
      (s.retainedBucket k o.status .completed).tryPush k = some bs ∧
      s' = s.moveStatus k o .completed now bs [.orderCompleted k] := by
  simp only [completeOrder, retainFromStatus, pushToStatus, depositEvent, bind_assoc,
    ensureSigned_bind_eq_ok, okOr_bind_eq_ok, get_bind, ensure_bind_eq_ok, modify_bind,
    modify_apply, result_ok_inj] at h
  obtain ⟨who, rfl, k, hk, o, ho, h1, h2, bs, hbs, -, rfl⟩ := h
  exact ⟨who, k, o, bs, rfl, hk, ho, h1, h2, hbs, rfl⟩

theorem deleteOrder_ok (h : deleteOrder origin oc s = .ok () s') :
    ∃ who k o, origin = .signed who ∧ BoundedVec.tryFrom oc = some k ∧
      s.orders k = some o ∧ o.creator = who ∧
      s' = { orders := update s.orders k none,
             userOrders := update s.userOrders o.memberCode
               ((s.userOrders o.memberCode).retain (· != k)),
             institutionOrders := update s.institutionOrders o.institutionCode
               ((s.institutionOrders o.institutionCode).retain (· != k)),
             ordersByStatus := update s.ordersByStatus o.status
               ((s.ordersByStatus o.status).retain (· != k)),
             events := s.events ++ [.orderDeleted k] } := by
  simp only [deleteOrder, retainFromStatus, depositEvent, bind_assoc, ensureSigned_bind_eq_ok,
    okOr_bind_eq_ok, get_bind, ensure_bind_eq_ok, modify_bind, modify_apply, result_ok_inj] at h
  obtain ⟨who, rfl, k, hk, o, ho, h1, -, rfl⟩ := h
  exact ⟨who, k, o, rfl, hk, ho, h1, rfl⟩

end Calls

end FissionMall.C2COrder
