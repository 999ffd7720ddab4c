import FissionMall.Order.Spec

/-
  What a failing call of `order` reports about the storage it ran on. Every call names one order
  code; `Reports origin c s e` (`KeyErrors`) says what the error `e` tells a client about the order
  stored under that code in `s`: `BadOrigin` that the call was not signed, `OrderNotFound` that no
  order is stored there, `OrderCodeAlreadyExists` that one is, and `NotAuthorized` that one is and
  another account created it. The other errors report on the call's arguments (conversions, the
  item list, the status byte and its transition) or on a full bucket, and are not read here.

  One lemma per call (`createOrder_reports`, …): the body, read on its failing paths, raises each
  of the four errors only from the guard that checks it. `dispatch_reports` collects them.
-/

namespace FissionMall.Order

variable {T : Config}

/-- The order code a call names. -/
def Call.orderCode : Call → Bytes
  | .createOrder oc .. | .updateOrderStatus oc _ | .updateExpressInfo oc .. | .cancelOrder oc
  | .deleteOrder oc => oc

/-- What an error of the call `c`, signed by `origin`, reports about the order stored in `s`
under the code `c` names. -/
abbrev Reports (origin : Origin T.AccountId) (c : Call) (s : State T) : DispatchError Error → Prop :=
  KeyErrors .orderNotFound .orderCodeAlreadyExists .notAuthorized s.orders Order.creator
    (fun _ => False) origin (BoundedVec.tryFrom c.orderCode)

section Calls

variable {origin : Origin T.AccountId} {now : Nat} {oc : Bytes} {s s' : State T}
  {e : DispatchError Error}

theorem createOrder_reports {mc ic : Bytes} {fr : BitVec 32} {ph em ad : Option Bytes}
    {items : List (Bytes × BitVec 32 × BitVec 32 × BitVec 32)}
    (h : createOrder origin now oc mc ic fr ph em ad items s = .error e s') :
    Reports origin (.createOrder oc mc ic fr ph em ad items) s e := by
  simp only [createOrder, depositEvent, bind_assoc, ensureSigned_bind_eq_error,
    okOr_bind_eq_error, get_bind, ensure_bind_eq_error, ensure_apply_eq_error, modify_bind,
    modify_apply, ok_ne_error, and_false, false_or, or_false] at h
  refine ⟨?badOrigin, ?notFound, ?found, ?notAuthorized⟩ <;> rintro rfl <;>
    simp only [reduceCtorEq, DispatchError.module.injEq, false_and, and_false, exists_false,
      or_false, false_or, and_true] at h
  case badOrigin => exact h.1
  case found =>
    obtain ⟨-, -, k, hk, hn, -⟩ := h
    exact ⟨k, hk, by simpa using hn⟩

theorem updateOrderStatus_reports {st : BitVec 8}
    (h : updateOrderStatus origin now oc st s = .error e s') :
    Reports origin (.updateOrderStatus oc st) s e := by
  simp only [updateOrderStatus, validateStatusTransition, depositEvent, bind_assoc,
    ensureSigned_bind_eq_error, okOr_bind_eq_error, get_bind, ensure_bind_eq_error,
    ensure_apply_eq_error, modify_bind, modify_apply, ok_ne_error, and_false, false_or,
    or_false] at h
  refine ⟨?badOrigin, ?notFound, ?found, ?notAuthorized⟩ <;> rintro rfl <;>
    simp only [reduceCtorEq, DispatchError.module.injEq, false_and, and_false, exists_false,
      or_false, false_or, and_true] at h
  case badOrigin => exact h.1
  case notFound =>
    obtain ⟨-, -, k, hk, ho, -⟩ := h
    exact ⟨k, hk, .inl ho⟩
  case notAuthorized =>
    obtain ⟨who, rfl, k, hk, o, ho, hc, -⟩ := h
    exact ⟨who, k, o, rfl, hk, ho, hc⟩

theorem updateExpressInfo_reports {ec en : Bytes}
    (h : updateExpressInfo origin now oc ec en s = .error e s') :
    Reports origin (.updateExpressInfo oc ec en) s e := by
  simp only [updateExpressInfo, depositEvent, bind_assoc, ensureSigned_bind_eq_error,
    okOr_bind_eq_error, get_bind, ensure_bind_eq_error, ensure_apply_eq_error, modify_bind,
    modify_apply, ok_ne_error, and_false, false_or, or_false] at h
  refine ⟨?badOrigin, ?notFound, ?found, ?notAuthorized⟩ <;> rintro rfl <;>
    simp only [reduceCtorEq, DispatchError.module.injEq, false_and, and_false, exists_false,
      or_false, false_or, and_true] at h
  case badOrigin => exact h.1
  case notFound =>
    obtain ⟨-, -, k, hk, -, -, -, -, ho, -⟩ := h
    exact ⟨k, hk, .inl ho⟩
  case notAuthorized =>
    obtain ⟨who, rfl, k, hk, -, -, -, -, o, ho, hc, -⟩ := h
    exact ⟨who, k, o, rfl, hk, ho, hc⟩

theorem cancelOrder_reports (h : cancelOrder origin now oc s = .error e s') :
    Reports origin (.cancelOrder oc) s e := by
  simp only [cancelOrder, depositEvent, bind_assoc, ensureSigned_bind_eq_error,
    okOr_bind_eq_error, get_bind, ensure_bind_eq_error, ensure_apply_eq_error, modify_bind,
    modify_apply, ok_ne_error, and_false, false_or, or_false] at h
  refine ⟨?badOrigin, ?notFound, ?found, ?notAuthorized⟩ <;> rintro rfl <;>
    simp only [reduceCtorEq, DispatchError.module.injEq, false_and, and_false, exists_false,
      or_false, false_or, and_true] at h
  case badOrigin => exact h.1
  case notFound =>
    obtain ⟨-, -, k, hk, ho, -⟩ := h
    exact ⟨k, hk, .inl ho⟩
  case notAuthorized =>
    obtain ⟨who, rfl, k, hk, o, ho, hc, -⟩ := h
    exact ⟨who, k, o, rfl, hk, ho, hc⟩

theorem deleteOrder_reports (h : deleteOrder origin oc s = .error e s') :
    Reports origin (.deleteOrder oc) s e := by
  simp only [deleteOrder, depositEvent, bind_assoc, ensureSigned_bind_eq_error,
    okOr_bind_eq_error, get_bind, ensure_bind_eq_error, ensure_apply_eq_error, modify_bind,
    modify_apply, ok_ne_error, and_false, false_or, or_false] at h
  refine ⟨?badOrigin, ?notFound, ?found, ?notAuthorized⟩ <;> rintro rfl <;>
    simp only [reduceCtorEq, DispatchError.module.injEq, false_and, and_false, exists_false,
      or_false, false_or, and_true] at h
  case badOrigin => exact h.1
  case notFound =>
    obtain ⟨-, -, k, hk, ho, -⟩ := h
    exact ⟨k, hk, .inl ho⟩
  case notAuthorized =>
    obtain ⟨who, rfl, k, hk, o, ho, hc, -⟩ := h
    exact ⟨who, k, o, rfl, hk, ho, hc⟩

end Calls

/-- Every failing call reports the truth about the order stored under the code it names. -/
theorem dispatch_reports {origin : Origin T.AccountId} {now : Nat} {c : Call} {s s' : State T}
    {e : DispatchError Error} (h : dispatch origin now c s = .error e s') : Reports origin c s e := by
  obtain ⟨_, h⟩ := withStorageLayer_error_body h
  cases c with
  | createOrder => exact createOrder_reports h
  | updateOrderStatus => exact updateOrderStatus_reports h
  | updateExpressInfo => exact updateExpressInfo_reports h
  | cancelOrder => exact cancelOrder_reports h
  | deleteOrder => exact deleteOrder_reports h

end FissionMall.Order
