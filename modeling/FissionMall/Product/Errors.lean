import FissionMall.Product.Stock

/-
  What a failing call of `product` reports about the storage it ran on (`KeyErrors`). Every call
  names one pair (product code, institution code): `BadOrigin` reports that the call was not
  signed, `ProductNotFound` that no product is stored under the pair, `ProductAlreadyExists` that
  one is, and `NotAuthorized` that one is and another account created it. `purchase_product`
  raises `ProductNotFound` for a stored product that is not `Available` too, so from it the error
  reports only that the pair holds no product the call could buy. `InvalidProfitRatio` is declared
  and never raised: a `Perbill` cannot exceed one.

  One lemma per call (`createProduct_reports`, …); `dispatch_reports` collects them.
-/

namespace FissionMall.Product

variable {T : Config}

/-- Whether a call reads an unavailable product as absent: `purchase_product` does. -/
def Call.isPurchase : Call → Bool
  | .purchaseProduct .. => true
  | _ => false

/-- What an error of the call `c`, signed by `origin`, reports about the product stored in `s`
under the pair `c` names. -/
abbrev Reports (origin : Origin T.AccountId) (c : Call) (s : State T) (e : DispatchError Error) :
    Prop :=
  KeyErrors .productNotFound .productAlreadyExists .notAuthorized s.products ProductInfo.creator
      (fun p => c.isPurchase ∧ p.status ≠ .available) origin (keyOf c.codes.1 c.codes.2) e ∧
    e ≠ .module .invalidProfitRatio

section Calls

variable {origin : Origin T.AccountId} {now : Nat} {pc ic : Bytes} {s s' : State T}
  {e : DispatchError Error}

theorem createProduct_reports {n c b : Bytes} {g : List Bytes} {op cp : BitVec 64}
    {d mi : Bytes} {di : List Bytes} {st w : BitVec 32} {pr : Perbill}
    (h : createProduct origin now pc ic n c b g op cp d mi di st w pr s = .error e s') :
    Reports origin (.createProduct pc ic n c b g op cp d mi di st w pr) s e := by
  simp only [createProduct, writeProduct, depositEvent, bind_assoc, ensureSigned_bind_eq_error,
    okOr_bind_eq_error, get_bind, ensure_bind_eq_error, ensure_apply_eq_error, modify_bind,
    modify_apply, ok_ne_error, and_false, false_or, or_false] at h
  refine ⟨⟨?badOrigin, ?notFound, ?found, ?notAuthorized⟩, ?ratio⟩ <;> rintro rfl <;>
    simp only [reduceCtorEq, DispatchError.module.injEq, false_and, and_false, exists_false,
      or_false, false_or, and_true] at h
  case badOrigin => exact h.1
  case found =>
    obtain ⟨-, -, a, ha, b, hb, hn, -⟩ := h
    exact ⟨_, keyOf_eq ha hb, by simpa using hn⟩

theorem updateProductInfo_reports {n c b : Option Bytes} {op cp : Option (BitVec 64)}
    {d mi : Option Bytes} {w : Option (BitVec 32)} {pr : Option Perbill}
    (h : updateProductInfo origin pc ic n c b op cp d mi w pr s = .error e s') :
    Reports origin (.updateProductInfo pc ic n c b op cp d mi w pr) s e := by
  simp only [updateProductInfo, writeProduct, depositEvent, bind_assoc, ensureSigned_bind_eq_error,
    okOr_bind_eq_error, get_bind, ensure_bind_eq_error, ensure_apply_eq_error, modify_bind,
    modify_apply, ok_ne_error, and_false, false_or, or_false] at h
  refine ⟨⟨?badOrigin, ?notFound, ?found, ?notAuthorized⟩, ?ratio⟩ <;> rintro rfl <;>
    simp only [reduceCtorEq, DispatchError.module.injEq, false_and, and_false, exists_false,
      or_false, false_or, and_true] at h
  case badOrigin => exact h.1
  case notFound =>
    obtain ⟨-, -, a, ha, b, hb, hp, -⟩ := h
    exact ⟨_, keyOf_eq ha hb, .inl hp⟩
  case notAuthorized =>
    obtain ⟨who, rfl, a, ha, b, hb, p, hp, hc, -⟩ := h
    exact ⟨who, _, p, rfl, keyOf_eq ha hb, hp, hc⟩

theorem updateProductStatus_reports {st : BitVec 8}
    (h : updateProductStatus origin pc ic st s = .error e s') :
    Reports origin (.updateProductStatus pc ic st) s e := by
  simp only [updateProductStatus, writeProduct, depositEvent, bind_assoc,
    ensureSigned_bind_eq_error, okOr_bind_eq_error, get_bind, ensure_bind_eq_error,
    ensure_apply_eq_error, modify_bind, modify_apply, ok_ne_error, and_false, false_or,
    or_false] at h
  refine ⟨⟨?badOrigin, ?notFound, ?found, ?notAuthorized⟩, ?ratio⟩ <;> rintro rfl <;>
    simp only [reduceCtorEq, DispatchError.module.injEq, false_and, and_false, exists_false,
      or_false, false_or, and_true] at h
  case badOrigin => exact h.1
  case notFound =>
    obtain ⟨-, -, a, ha, b, hb, hp, -⟩ := h
    exact ⟨_, keyOf_eq ha hb, .inl hp⟩
  case notAuthorized =>
    obtain ⟨who, rfl, a, ha, b, hb, p, hp, hc, -⟩ := h
    exact ⟨who, _, p, rfl, keyOf_eq ha hb, hp, hc⟩

theorem updateStock_reports {st : BitVec 32} (h : updateStock origin pc ic st s = .error e s') :
    Reports origin (.updateStock pc ic st) s e := by
  simp only [updateStock, writeProduct, depositEvent, bind_assoc, ensureSigned_bind_eq_error,
    okOr_bind_eq_error, get_bind, ensure_bind_eq_error, ensure_apply_eq_error, modify_bind,
    modify_apply, ok_ne_error, and_false, false_or, or_false] at h
  refine ⟨⟨?badOrigin, ?notFound, ?found, ?notAuthorized⟩, ?ratio⟩ <;> rintro rfl <;>
    simp only [reduceCtorEq, DispatchError.module.injEq, false_and, and_false, exists_false,
      or_false, false_or, and_true] at h
  case badOrigin => exact h.1
  case notFound =>
    obtain ⟨-, -, a, ha, b, hb, hp, -⟩ := h
    exact ⟨_, keyOf_eq ha hb, .inl hp⟩
  case notAuthorized =>
    obtain ⟨who, rfl, a, ha, b, hb, p, hp, hc, -⟩ := h
    exact ⟨who, _, p, rfl, keyOf_eq ha hb, hp, hc⟩

theorem deleteProduct_reports (h : deleteProduct origin pc ic s = .error e s') :
    Reports origin (.deleteProduct pc ic) s e := by
  simp only [deleteProduct, depositEvent, bind_assoc, ensureSigned_bind_eq_error,
    okOr_bind_eq_error, get_bind, ensure_bind_eq_error, ensure_apply_eq_error, modify_bind,
    modify_apply, ok_ne_error, and_false, false_or, or_false] at h
  refine ⟨⟨?badOrigin, ?notFound, ?found, ?notAuthorized⟩, ?ratio⟩ <;> rintro rfl <;>
    simp only [reduceCtorEq, DispatchError.module.injEq, false_and, and_false, exists_false,
      or_false, false_or, and_true] at h
  case badOrigin => exact h.1
  case notFound =>
    obtain ⟨-, -, a, ha, b, hb, hp, -⟩ := h
    exact ⟨_, keyOf_eq ha hb, .inl hp⟩
  case notAuthorized =>
    obtain ⟨who, rfl, a, ha, b, hb, p, hp, hc, -⟩ := h
    exact ⟨who, _, p, rfl, keyOf_eq ha hb, hp, hc⟩

/-- `purchase_product` raises `ProductNotFound` for a missing product and for an unavailable
one. -/
theorem purchaseProduct_reports {q : BitVec 32} (h : purchaseProduct origin pc ic q s = .error e s') :
    Reports origin (.purchaseProduct pc ic q) s e := by
  simp only [purchaseProduct, writeProduct, bind_assoc, ensureSigned_bind_eq_error,
    okOr_bind_eq_error, get_bind, ensure_bind_eq_error, ensure_apply_eq_error, modify_bind,
    modify_apply, ok_ne_error, and_false, false_or, or_false] at h
  refine ⟨⟨?badOrigin, ?notFound, ?found, ?notAuthorized⟩, ?ratio⟩ <;> rintro rfl <;>
    simp only [reduceCtorEq, DispatchError.module.injEq, false_and, and_false, exists_false,
      or_false, false_or, and_true] at h
  case badOrigin => exact h.1
  case notFound =>
    obtain ⟨-, -, a, ha, b, hb, ⟨hp, -⟩ | ⟨p, hp, hst, -⟩⟩ := h
    · exact ⟨_, keyOf_eq ha hb, .inl hp⟩
    · exact ⟨_, keyOf_eq ha hb, .inr ⟨p, hp, rfl, hst⟩⟩

end Calls

/-- Every failing call reports the truth about the product stored under the pair it names. -/
theorem dispatch_reports {origin : Origin T.AccountId} {now : Nat} {c : Call} {s s' : State T}
    {e : DispatchError Error} (h : dispatch origin now c s = .error e s') : Reports origin c s e := by
  obtain ⟨_, h⟩ := withStorageLayer_error_body h
  cases c with
  | createProduct => exact createProduct_reports h
  | updateProductInfo => exact updateProductInfo_reports h
  | updateProductStatus => exact updateProductStatus_reports h
  | updateStock => exact updateStock_reports h
  | deleteProduct => exact deleteProduct_reports h
  | purchaseProduct => exact purchaseProduct_reports h

end FissionMall.Product
