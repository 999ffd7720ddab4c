import FissionMall.Institution.Institution
import FissionMall.Institution.FreightTemplate
import FissionMall.Institution.PaymentMethod

/-
  What a failing call of the three institution pallets reports about the storage it ran on.

  `institution` and `institution-freight-template` read one record, under an institution id or an
  area, as the order pallets do (`KeyErrors`): `BadOrigin` reports that the call was not signed,
  `InstitutionNotFound` / `FreightTemplateNotFound` that no record is stored under the key,
  `InstitutionIdAlreadyExists` / `AreaAlreadyExists` that one is, and `NotAuthorized` that one is
  and another account created it.

  `institution-payment-method` checks no creator: its records have none, and any signed account
  may set, remove or update the payment method of any id. Of the errors it declares it raises
  `PaymentMethodNotFound`, which reports that no record is stored under the id, and never
  `InstitutionNotFound`, `PaymentMethodAlreadyExists` or `NotAuthorized`
  (`PaymentMethod.Reports`).

  One lemma per call; `dispatch_reports` in each namespace collects them.
-/

namespace FissionMall

/-! ## `institution` -/

namespace Institution

variable {T : Config}

/-- The institution id a call names. -/
def Call.institutionId : Call → Bytes
  | .createInstitution id .. | .updateInstitutionStatus id _ | .updateInstitutionInfo id ..
  | .deleteInstitution id => id

/-- What an error of the call `c`, signed by `origin`, reports about the institution stored in
`s` under the id `c` names. -/
abbrev Reports (origin : Origin T.AccountId) (c : Call) (s : State T) : DispatchError Error → Prop :=
  KeyErrors .institutionNotFound .institutionIdAlreadyExists .notAuthorized s.institutions
    InstitutionInfo.creator (fun _ => False) origin (BoundedVec.tryFrom c.institutionId)

section Calls

variable {origin : Origin T.AccountId} {id : Bytes} {s s' : State T} {e : DispatchError Error}

theorem createInstitution_reports {now : Nat} {n fn l r b : Bytes} {pc : Option Bytes}
    (h : createInstitution origin now id n fn l r b pc s = .error e s') :
    Reports origin (.createInstitution id n fn l r b pc) s e := by
  simp only [createInstitution, writeInstitution, depositEvent, bind_assoc,
    ensureSigned_bind_eq_error, okOr_bind_eq_error, get_bind, ensure_bind_eq_error,
    ensure_apply_eq_error, modify_bind, modify_apply, ok_ne_error, and_false, false_or,
    or_false] at h
  refine ⟨?badOrigin, ?notFound, ?found, ?notAuthorized⟩ <;> rintro rfl <;>
    simp only [reduceCtorEq, DispatchError.module.injEq, false_and, and_false, exists_false,
      or_false, false_or, and_true] at h
  case badOrigin => exact h.1
  case found =>
    obtain ⟨-, -, k, hk, hn, -⟩ := h
    exact ⟨k, hk, by simpa using hn⟩

theorem updateInstitutionStatus_reports {st : BitVec 8}
    (h : updateInstitutionStatus origin id st s = .error e s') :
    Reports origin (.updateInstitutionStatus id st) s e := by
  simp only [updateInstitutionStatus, writeInstitution, depositEvent, bind_assoc,
    ensureSigned_bind_eq_error, okOr_bind_eq_error, get_bind, ensure_bind_eq_error,
    ensure_apply_eq_error, modify_bind, modify_apply, ok_ne_error, and_false, false_or,
    or_false] at h
  refine ⟨?badOrigin, ?notFound, ?found, ?notAuthorized⟩ <;> rintro rfl <;>
    simp only [reduceCtorEq, DispatchError.module.injEq, false_and, and_false, exists_false,
      or_false, false_or, and_true] at h
  case badOrigin => exact h.1
  case notFound =>
    obtain ⟨-, -, k, hk, hi, -⟩ := h
    exact ⟨k, hk, .inl hi⟩
  case notAuthorized =>
    obtain ⟨who, rfl, k, hk, i, hi, hc, -⟩ := h
    exact ⟨who, k, i, rfl, hk, hi, hc⟩

theorem updateInstitutionInfo_reports {n fn l r b pc : Option Bytes}
    (h : updateInstitutionInfo origin id n fn l r b pc s = .error e s') :
    Reports origin (.updateInstitutionInfo id n fn l r b pc) s e := by
  simp only [updateInstitutionInfo, writeInstitution, depositEvent, bind_assoc,
    ensureSigned_bind_eq_error, okOr_bind_eq_error, get_bind, ensure_bind_eq_error,
    ensure_apply_eq_error, modify_bind, modify_apply, ok_ne_error, and_false, false_or,
    or_false] at h
  refine ⟨?badOrigin, ?notFound, ?found, ?notAuthorized⟩ <;> rintro rfl <;>
    simp only [reduceCtorEq, DispatchError.module.injEq, false_and, and_false, exists_false,
      or_false, false_or, and_true] at h
  case badOrigin => exact h.1
  case notFound =>
    obtain ⟨-, -, k, hk, hi, -⟩ := h
    exact ⟨k, hk, .inl hi⟩
  case notAuthorized =>
    obtain ⟨who, rfl, k, hk, i, hi, hc, -⟩ := h
    exact ⟨who, k, i, rfl, hk, hi, hc⟩

theorem deleteInstitution_reports (h : deleteInstitution origin id s = .error e s') :
    Reports origin (.deleteInstitution id) s e := by
  simp only [deleteInstitution, depositEvent, bind_assoc, ensureSigned_bind_eq_error,
    okOr_bind_eq_error, get_bind, ensure_bind_eq_error, ensure_apply_eq_error, modify_bind,
    modify_apply, ok_ne_error, and_false, false_or, or_false] at h
  refine ⟨?badOrigin, ?notFound, ?found, ?notAuthorized⟩ <;> rintro rfl <;>
    simp only [reduceCtorEq, DispatchError.module.injEq, false_and, and_false, exists_false,
      or_false, false_or, and_true] at h
  case badOrigin => exact h.1
  case notFound =>
    obtain ⟨-, -, k, hk, hi, -⟩ := h
    exact ⟨k, hk, .inl hi⟩
  case notAuthorized =>
    obtain ⟨who, rfl, k, hk, i, hi, hc, -⟩ := h
    exact ⟨who, k, i, rfl, hk, hi, hc⟩

end Calls

/-- Every failing call reports the truth about the institution stored under the id it names. -/
theorem dispatch_reports {origin : Origin T.AccountId} {now : Nat} {c : Call} {s s' : State T}
    {e : DispatchError Error} (h : dispatch origin now c s = .error e s') : Reports origin c s e := by
  obtain ⟨_, h⟩ := withStorageLayer_error_body h
  cases c with
  | createInstitution => exact createInstitution_reports h
  | updateInstitutionStatus => exact updateInstitutionStatus_reports h
  | updateInstitutionInfo => exact updateInstitutionInfo_reports h
  | deleteInstitution => exact deleteInstitution_reports h

end Institution

/-! ## `institution-freight-template` -/

namespace FreightTemplate

variable {T : Config}

/-- The area a call names. -/
def Call.area : Call → Bytes
  | .createFreightTemplate a .. | .updateFreightTemplate a .. | .deleteFreightTemplate a => a

/-- What an error of the call `c`, signed by `origin`, reports about the template stored in `s`
under the area `c` names. -/
abbrev Reports (origin : Origin T.AccountId) (c : Call) (s : State T) : DispatchError Error → Prop :=
  KeyErrors .freightTemplateNotFound .areaAlreadyExists .notAuthorized s.freightTemplates
    FreightTemplate.creator (fun _ => False) origin (BoundedVec.tryFrom c.area)

section Calls

variable {origin : Origin T.AccountId} {a : Bytes} {s s' : State T} {e : DispatchError Error}

theorem createFreightTemplate_reports {w f af : BitVec 64}
    (h : createFreightTemplate origin a w f af s = .error e s') :
    Reports origin (.createFreightTemplate a w f af) s e := by
  simp only [createFreightTemplate, writeTemplate, depositEvent, bind_assoc,
    ensureSigned_bind_eq_error, okOr_bind_eq_error, get_bind, ensure_bind_eq_error,
    ensure_apply_eq_error, modify_bind, modify_apply, ok_ne_error, and_false, false_or,
    or_false] at h
  refine ⟨?badOrigin, ?notFound, ?found, ?notAuthorized⟩ <;> rintro rfl <;>
    simp only [reduceCtorEq, DispatchError.module.injEq, false_and, and_false, exists_false,
      or_false, false_or, and_true] at h
  case badOrigin => exact h.1
  case found =>
    obtain ⟨-, -, k, hk, hn, -⟩ := h
    exact ⟨k, hk, by simpa using hn⟩

theorem updateFreightTemplate_reports {w f af : Option (BitVec 64)}
    (h : updateFreightTemplate origin a w f af s = .error e s') :
    Reports origin (.updateFreightTemplate a w f af) s e := by
  simp only [updateFreightTemplate, writeTemplate, depositEvent, bind_assoc,
    ensureSigned_bind_eq_error, okOr_bind_eq_error, get_bind, ensure_bind_eq_error,
    ensure_apply_eq_error, modify_bind, modify_apply, ok_ne_error, and_false, false_or,
    or_false] at h
  refine ⟨?badOrigin, ?notFound, ?found, ?notAuthorized⟩ <;> rintro rfl <;>
    simp only [reduceCtorEq, DispatchError.module.injEq, false_and, and_false, exists_false,
      or_false, false_or, and_true] at h
  case badOrigin => exact h.1
  case notFound =>
    obtain ⟨-, -, k, hk, ht, -⟩ := h
    exact ⟨k, hk, .inl ht⟩
  case notAuthorized =>
    obtain ⟨who, rfl, k, hk, t, ht, hc, -⟩ := h
    exact ⟨who, k, t, rfl, hk, ht, hc⟩

theorem deleteFreightTemplate_reports (h : deleteFreightTemplate origin a s = .error e s') :
    Reports origin (.deleteFreightTemplate a) s e := by
  simp only [deleteFreightTemplate, depositEvent, bind_assoc, ensureSigned_bind_eq_error,
    okOr_bind_eq_error, get_bind, ensure_bind_eq_error, ensure_apply_eq_error, modify_bind,
    modify_apply, ok_ne_error, and_false, false_or, or_false] at h
  refine ⟨?badOrigin, ?notFound, ?found, ?notAuthorized⟩ <;> rintro rfl <;>
    simp only [reduceCtorEq, DispatchError.module.injEq, false_and, and_false, exists_false,
      or_false, false_or, and_true] at h
  case badOrigin => exact h.1
  case notFound =>
    obtain ⟨-, -, k, hk, ht, -⟩ := h
    exact ⟨k, hk, .inl ht⟩
  case notAuthorized =>
    obtain ⟨who, rfl, k, hk, t, ht, hc, -⟩ := h
    exact ⟨who, k, t, rfl, hk, ht, hc⟩

end Calls

/-- Every failing call reports the truth about the template stored under the area it names. -/
theorem dispatch_reports {origin : Origin T.AccountId} {c : Call} {s s' : State T}
    {e : DispatchError Error} (h : dispatch origin c s = .error e s') : Reports origin c s e := by
  obtain ⟨_, h⟩ := withStorageLayer_error_body h
  cases c with
  | createFreightTemplate => exact createFreightTemplate_reports h
  | updateFreightTemplate => exact updateFreightTemplate_reports h
  | deleteFreightTemplate => exact deleteFreightTemplate_reports h

end FreightTemplate

/-! ## `institution-payment-method` -/

namespace PaymentMethod

variable {T : Config}

/-- The institution id a call names. -/
def Call.institutionId : Call → Bytes
  | .setPaymentMethod id .. | .removePaymentMethod id | .updatePaymentField id .. => id

/-- What an error of the call `c`, signed by `origin`, reports about the payment method stored in
`s` under the id `c` names; the three errors the pallet declares for an institution, an existing
record and an authorization are never raised. -/
structure Reports (origin : Origin T.AccountId) (c : Call) (s : State T) (e : DispatchError Error) :
    Prop where
  badOrigin : e = .badOrigin → ∀ who, origin ≠ .signed who
  notFound : e = .module .paymentMethodNotFound →
    ∃ k, BoundedVec.tryFrom c.institutionId = some k ∧ s.paymentMethods k = none
  institutionNotFound : e ≠ .module .institutionNotFound
  alreadyExists : e ≠ .module .paymentMethodAlreadyExists
  notAuthorized : e ≠ .module .notAuthorized

section Calls

variable {origin : Origin T.AccountId} {id : Bytes} {s s' : State T} {e : DispatchError Error}

theorem setPaymentMethod_reports {w a t o : Option Bytes}
    (h : setPaymentMethod origin id w a t o s = .error e s') :
    Reports origin (.setPaymentMethod id w a t o) s e := by
  simp only [setPaymentMethod, depositEvent, bind_assoc, ensureSigned_bind_eq_error,
    okOr_bind_eq_error, get_bind, ensure_bind_eq_error, ensure_apply_eq_error, modify_bind,
    modify_apply, ok_ne_error, and_false, false_or, or_false] at h
  refine ⟨?badOrigin, ?notFound, ?institutionNotFound, ?alreadyExists, ?notAuthorized⟩ <;>
    rintro rfl <;>
    simp only [reduceCtorEq, DispatchError.module.injEq, false_and, and_false, exists_false,
      or_false, false_or, and_true] at h
  case badOrigin => exact h.1

theorem removePaymentMethod_reports (h : removePaymentMethod origin id s = .error e s') :
    Reports origin (.removePaymentMethod id) s e := by
  simp only [removePaymentMethod, depositEvent, bind_assoc, ensureSigned_bind_eq_error,
    okOr_bind_eq_error, get_bind, ensure_bind_eq_error, ensure_apply_eq_error, modify_bind,
    modify_apply, ok_ne_error, and_false, false_or, or_false] at h
  refine ⟨?badOrigin, ?notFound, ?institutionNotFound, ?alreadyExists, ?notAuthorized⟩ <;>
    rintro rfl <;>
    simp only [reduceCtorEq, DispatchError.module.injEq, false_and, and_false, exists_false,
      or_false, false_or, and_true] at h
  case badOrigin => exact h.1
  case notFound =>
    obtain ⟨-, -, k, hk, hn, -⟩ := h
    exact ⟨k, hk, by simpa using hn⟩

theorem updatePaymentField_reports {f : BitVec 8} {v : Option Bytes}
    (h : updatePaymentField origin id f v s = .error e s') :
    Reports origin (.updatePaymentField id f v) s e := by
  simp only [updatePaymentField, depositEvent, bind_assoc, ensureSigned_bind_eq_error,
    okOr_bind_eq_error, get_bind, ensure_bind_eq_error, ensure_apply_eq_error, modify_bind,
    modify_apply, ok_ne_error, and_false, false_or, or_false] at h
  refine ⟨?badOrigin, ?notFound, ?institutionNotFound, ?alreadyExists, ?notAuthorized⟩ <;>
    rintro rfl <;>
    simp only [reduceCtorEq, DispatchError.module.injEq, false_and, and_false, exists_false,
      or_false, false_or, and_true] at h
  case badOrigin => exact h.1
  case notFound =>
    obtain ⟨-, -, k, hk, -, -, hn, -⟩ := h
    exact ⟨k, hk, hn⟩

end Calls

/-- Every failing call reports the truth about the payment method stored under the id it names,
and none raises the three errors the pallet declares and never uses. -/
theorem dispatch_reports {origin : Origin T.AccountId} {c : Call} {s s' : State T}
    {e : DispatchError Error} (h : dispatch origin c s = .error e s') : Reports origin c s e := by
  obtain ⟨_, h⟩ := withStorageLayer_error_body h
  cases c with
  | setPaymentMethod => exact setPaymentMethod_reports h
  | removePaymentMethod => exact removePaymentMethod_reports h
  | updatePaymentField => exact updatePaymentField_reports h

end PaymentMethod

end FissionMall
