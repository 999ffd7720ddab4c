import FissionMall.Order.Pallet

/-
  One spec lemma per call of `order`. `update_order_status`, `update_express_info` and
  `cancel_order` each rewrite one stored order in place and deposit one event
  (`State.rewriteOrder`); they touch neither index.
-/

set_option linter.dupNamespace false

namespace FissionMall.Order

open Function (update)

variable {T : Config}

/-- Order `k` rewritten as `o`, and the events `evs` deposited. -/
def State.rewriteOrder (s : State T) (k : OrderCode T) (o : Order T) (evs : List (Event T)) :
    State T :=
  { s with orders := update s.orders k (some o), events := s.events ++ evs }

theorem dispatch_ok {origin : Origin T.AccountId} {now : Nat} {c : Call} {s s' : State T} :
    dispatch origin now c s = .ok () s' ↔ c.body origin now s = .ok () s' :=
  withStorageLayer_ok

/-- A failing call leaves the storage as it was. -/
theorem dispatch_error {origin : Origin T.AccountId} {now : Nat} {c : Call} {s s' : State T}
    {e : DispatchError Error} (h : dispatch origin now c s = .error e s') : s' = s :=
  withStorageLayer_error h

section Calls

variable {origin : Origin T.AccountId} {now : Nat} {oc : Bytes} {s s' : State T}

/-- What a successful `create_order` checked and wrote, with the code and the block number the
new order records. -/
theorem createOrder_spec {mc ic : Bytes} {fr : BitVec 32} {ph em ad : Option Bytes}
    {items : List (Bytes × BitVec 32 × BitVec 32 × BitVec 32)}
    (h : createOrder origin now oc mc ic fr ph em ad items s = .ok () s') :
    ∃ who k o bu bi acc, (origin = .signed who ∧ BoundedVec.tryFrom oc = some k ∧
      s.orders k = none ∧ items ≠ [] ∧ BoundedVec.tryFrom mc = some o.memberCode ∧
      BoundedVec.tryFrom ic = some o.institutionCode ∧ o.status = .pending ∧ o.creator = who ∧
      collectItems items [] 0 0 = some acc ∧ o.totalAmount = saturatingAdd acc.2.1 fr ∧
      o.totalWeight = acc.2.2 ∧ o.freight = fr ∧
      (s.userOrders o.memberCode).tryPush k = some bu ∧
      (s.institutionOrders o.institutionCode).tryPush k = some bi ∧
      s' = { orders := update s.orders k (some o),
             userOrders := update s.userOrders o.memberCode bu,
             institutionOrders := update s.institutionOrders o.institutionCode bi,
             events := s.events ++ [.orderCreated k who] }) ∧
      o.orderCode = k ∧ o.createdTime = now ∧ o.updatedTime = now := by
  simp only [createOrder, depositEvent, bind_assoc, ensureSigned_bind_eq_ok, okOr_bind_eq_ok,
    get_bind, ensure_bind_eq_ok, modify_bind, modify_apply, result_ok_inj,
    Option.isNone_iff_eq_none] at h
  obtain ⟨who, rfl, k, hk, h1, h2, m, hm, i, hi, _, -, _, -, _, -, acc, hacc, _, -, bu, hbu, bi, hbi,
    -, rfl⟩ := h
  exact ⟨who, k, _, bu, bi, acc, ⟨rfl, hk, h1, by simpa using h2, hm, hi, rfl, rfl, hacc, rfl, rfl,
    rfl, hbu, hbi, rfl⟩, rfl, rfl, rfl⟩

theorem createOrder_ok {mc ic : Bytes} {fr : BitVec 32} {ph em ad : Option Bytes}
    {items : List (Bytes × BitVec 32 × BitVec 32 × BitVec 32)}
    (h : createOrder origin now oc mc ic fr ph em ad items s = .ok () s') :
    ∃ who k o bu bi acc, origin = .signed who ∧ BoundedVec.tryFrom oc = some k ∧
      s.orders k = none ∧ items ≠ [] ∧ BoundedVec.tryFrom mc = some o.memberCode ∧
      BoundedVec.tryFrom ic = some o.institutionCode ∧ o.status = .pending ∧ o.creator = who ∧
      collectItems items [] 0 0 = some acc ∧ o.totalAmount = saturatingAdd acc.2.1 fr ∧
      o.totalWeight = acc.2.2 ∧ o.freight = fr ∧
      (s.userOrders o.memberCode).tryPush k = some bu ∧
      (s.institutionOrders o.institutionCode).tryPush k = some bi ∧
      s' = { orders := update s.orders k (some o),
             userOrders := update s.userOrders o.memberCode bu,
             institutionOrders := update s.institutionOrders o.institutionCode bi,
             events := s.events ++ [.orderCreated k who] } :=
  let ⟨who, k, o, bu, bi, acc, h, _⟩ := createOrder_spec h
  ⟨who, k, o, bu, bi, acc, h⟩

theorem updateOrderStatus_ok {st : BitVec 8} (h : updateOrderStatus origin now oc st s = .ok () s') :
    ∃ who k o new, origin = .signed who ∧ BoundedVec.tryFrom oc = some k ∧
      s.orders k = some o ∧ o.creator = who ∧ decodeStatus st = some new ∧
      validTransition o.status new = true ∧
      s' = s.rewriteOrder k { o with status := new, updatedTime := now }
        [.orderStatusUpdated k st] := by
  simp only [updateOrderStatus, validateStatusTransition, depositEvent, bind_assoc,
    ensureSigned_bind_eq_ok, okOr_bind_eq_ok, get_bind, ensure_bind_eq_ok, modify_bind,
    modify_apply, result_ok_inj] at h
  obtain ⟨who, rfl, k, hk, o, ho, h1, new, hn, h2, -, rfl⟩ := h
  exact ⟨who, k, o, new, rfl, hk, ho, h1, hn, h2, rfl⟩

theorem updateExpressInfo_ok {ec en : Bytes} (h : updateExpressInfo origin now oc ec en s = .ok () s') :
    ∃ who k o bec ben, origin = .signed who ∧ BoundedVec.tryFrom oc = some k ∧
      BoundedVec.tryFrom ec = some bec ∧ BoundedVec.tryFrom en = some ben ∧
      s.orders k = some o ∧ o.creator = who ∧
      s' = s.rewriteOrder k { o with expressCompany := bec, expressNumber := ben, updatedTime := now }
        [.orderExpressInfoUpdated k] := by
  simp only [updateExpressInfo, depositEvent, bind_assoc, ensureSigned_bind_eq_ok,
    okOr_bind_eq_ok, get_bind, ensure_bind_eq_ok, modify_bind, modify_apply, result_ok_inj] at h
  obtain ⟨who, rfl, k, hk, bec, hec, ben, hen, o, ho, h1, -, rfl⟩ := h
  exact ⟨who, k, o, bec, ben, rfl, hk, hec, hen, ho, h1, rfl⟩

theorem cancelOrder_ok (h : cancelOrder origin now oc s = .ok () s') :
    ∃ who k o, origin = .signed who ∧ BoundedVec.tryFrom oc = some k ∧
      s.orders k = some o ∧ o.creator = who ∧ (o.status = .pending ∨ o.status = .paid) ∧
      s' = s.rewriteOrder k { o with status := .cancelled, updatedTime := now }
        [.orderCancelled k] := by
  simp only [cancelOrder, depositEvent, bind_assoc, ensureSigned_bind_eq_ok, okOr_bind_eq_ok,
    get_bind, ensure_bind_eq_ok, modify_bind, modify_apply, result_ok_inj] at h
  obtain ⟨who, rfl, k, hk, o, ho, h1, h2, -, rfl⟩ := h
  exact ⟨who, k, o, rfl, hk, ho, h1, h2, rfl⟩

theorem deleteOrder_ok (h : deleteOrder origin oc s = .ok () s') :
    ∃ who k o, origin = .signed who ∧ BoundedVec.tryFrom oc = some k ∧
      s.orders k = some o ∧ o.creator = who ∧
      s' = { orders := update s.orders k none,
             userOrders := update s.userOrders o.memberCode
               ((s.userOrders o.memberCode).retain (· != k)),
             institutionOrders := update s.institutionOrders o.institutionCode
               ((s.institutionOrders o.institutionCode).retain (· != k)),
             events := s.events ++ [.orderDeleted k] } := by
  simp only [deleteOrder, depositEvent, bind_assoc, ensureSigned_bind_eq_ok, okOr_bind_eq_ok,
    get_bind, ensure_bind_eq_ok, modify_bind, modify_apply, result_ok_inj] at h
  obtain ⟨who, rfl, k, hk, o, ho, h1, -, rfl⟩ := h
  exact ⟨who, k, o, rfl, hk, ho, h1, rfl⟩

end Calls

end FissionMall.Order
