import FissionMall.Order.Spec
import FissionMall.C2COrder.Spec
import FissionMall.Product.Spec
import FissionMall.Institution.Institution
import FissionMall.Institution.FreightTemplate
import FissionMall.Institution.PaymentMethod
import FissionMall.Order.Errors
import FissionMall.C2COrder.Errors
import FissionMall.C2CToken.Errors
import FissionMall.Product.Errors
import FissionMall.Institution.Errors
import FissionMall.Order.Totals
import FissionMall.C2COrder.Invariant
import FissionMall.C2CToken.Stock
import FissionMall.Product.Stock

/-
  Failed calls. Several bodies write storage before their last fallible step: `create_token`
  inserts the token before pushing onto two buckets that may be full, and `create_order`,
  `create_product`, the status moves of `c2c-order` and `trade_token` do the same. The runtime
  runs every dispatchable inside the storage layer of `#[pallet::call]`, so a call that returns
  `Err` leaves every storage map of its pallet as it was: `failed_calls_leave_storage`, for all
  seven pallets.

  What the error says. A failed call returns the storage it ran on, and its error is true of that
  storage (`errors_report_storage`): `BadOrigin` only for an unsigned call, a `NotFound` error only
  when the key the call names holds no record it may act on, an `AlreadyExists` error only when
  it holds one, `NotAuthorized` only when another account created that record. `InvalidProfitRatio`
  of `product` and three errors of `institution-payment-method` are declared and never raised.
-/

namespace FissionMall

theorem failed_calls_leave_storage {T₁ : Order.Config} {T₂ : C2COrder.Config}
    {T₃ : C2CToken.Config} {T₄ : Product.Config} {T₅ : Institution.Config}
    {T₆ : FreightTemplate.Config} {T₇ : PaymentMethod.Config} :
    (∀ (origin : Origin T₁.AccountId) (now : Nat) (c : Order.Call) (s s' : Order.State T₁) e,
      Order.dispatch origin now c s = .error e s' → s' = s) ∧
    (∀ (origin : Origin T₂.AccountId) (now : Nat) (c : C2COrder.Call) (s s' : C2COrder.State T₂) e,
      C2COrder.dispatch origin now c s = .error e s' → s' = s) ∧
    (∀ (origin : Origin T₃.AccountId) (c : C2CToken.Call) (s s' : C2CToken.State T₃) e,
      C2CToken.dispatch origin c s = .error e s' → s' = s) ∧
    (∀ (origin : Origin T₄.AccountId) (now : Nat) (c : Product.Call) (s s' : Product.State T₄) e,
      Product.dispatch origin now c s = .error e s' → s' = s) ∧
    (∀ (origin : Origin T₅.AccountId) (now : Nat) (c : Institution.Call)
      (s s' : Institution.State T₅) e, Institution.dispatch origin now c s = .error e s' → s' = s) ∧
    (∀ (origin : Origin T₆.AccountId) (c : FreightTemplate.Call) (s s' : FreightTemplate.State T₆) e,
      FreightTemplate.dispatch origin c s = .error e s' → s' = s) ∧
    (∀ (origin : Origin T₇.AccountId) (c : PaymentMethod.Call) (s s' : PaymentMethod.State T₇) e,
      PaymentMethod.dispatch origin c s = .error e s' → s' = s) :=
  ⟨fun _ _ _ _ _ _ h => Order.dispatch_error h, fun _ _ _ _ _ _ h => C2COrder.dispatch_error h,
    fun _ _ _ _ _ h => C2CToken.dispatch_error h, fun _ _ _ _ _ _ h => Product.dispatch_error h,
    fun _ _ _ _ _ _ h => Institution.dispatch_error h,
    fun _ _ _ _ _ h => FreightTemplate.dispatch_error h,
    fun _ _ _ _ _ h => PaymentMethod.dispatch_error h⟩

/-- A failed call of any of the seven pallets leaves the storage it ran on, and its error reports
the truth about the record stored there under the key the call names. -/
theorem errors_report_storage {T₁ : Order.Config} {T₂ : C2COrder.Config}
    {T₃ : C2CToken.Config} {T₄ : Product.Config} {T₅ : Institution.Config}
    {T₆ : FreightTemplate.Config} {T₇ : PaymentMethod.Config} :
    (∀ (origin : Origin T₁.AccountId) (now : Nat) (c : Order.Call) (s s' : Order.State T₁) e,
      Order.dispatch origin now c s = .error e s' → s' = s ∧ Order.Reports origin c s e) ∧
    (∀ (origin : Origin T₂.AccountId) (now : Nat) (c : C2COrder.Call) (s s' : C2COrder.State T₂) e,
      C2COrder.dispatch origin now c s = .error e s' → s' = s ∧ C2COrder.Reports origin c s e) ∧
    (∀ (origin : Origin T₃.AccountId) (c : C2CToken.Call) (s s' : C2CToken.State T₃) e,
      C2CToken.dispatch origin c s = .error e s' → s' = s ∧ C2CToken.Reports origin c s e) ∧
    (∀ (origin : Origin T₄.AccountId) (now : Nat) (c : Product.Call) (s s' : Product.State T₄) e,
      Product.dispatch origin now c s = .error e s' → s' = s ∧ Product.Reports origin c s e) ∧
    (∀ (origin : Origin T₅.AccountId) (now : Nat) (c : Institution.Call)
      (s s' : Institution.State T₅) e, Institution.dispatch origin now c s = .error e s' →
        s' = s ∧ Institution.Reports origin c s e) ∧
    (∀ (origin : Origin T₆.AccountId) (c : FreightTemplate.Call) (s s' : FreightTemplate.State T₆) e,
      FreightTemplate.dispatch origin c s = .error e s' →
        s' = s ∧ FreightTemplate.Reports origin c s e) ∧
    (∀ (origin : Origin T₇.AccountId) (c : PaymentMethod.Call) (s s' : PaymentMethod.State T₇) e,
      PaymentMethod.dispatch origin c s = .error e s' →
        s' = s ∧ PaymentMethod.Reports origin c s e) :=
  ⟨fun _ _ _ _ _ _ h => ⟨Order.dispatch_error h, Order.dispatch_reports h⟩,
    fun _ _ _ _ _ _ h => ⟨C2COrder.dispatch_error h, C2COrder.dispatch_reports h⟩,
    fun _ _ _ _ _ h => ⟨C2CToken.dispatch_error h, C2CToken.dispatch_reports h⟩,
    fun _ _ _ _ _ _ h => ⟨Product.dispatch_error h, Product.dispatch_reports h⟩,
    fun _ _ _ _ _ _ h => ⟨Institution.dispatch_error h, Institution.dispatch_reports h⟩,
    fun _ _ _ _ _ h => ⟨FreightTemplate.dispatch_error h, FreightTemplate.dispatch_reports h⟩,
    fun _ _ _ _ _ h => ⟨PaymentMethod.dispatch_error h, PaymentMethod.dispatch_reports h⟩⟩

/-- At the end of each demonstration run, account 1 tries to delete the record account 0 created,
and fails with `NotAuthorized`, which the storage bears out; in `institution-payment-method`,
whose records keep no creator, it removes an id with no record and fails with
`PaymentMethodNotFound`. -/
theorem demo_failures_report_storage :
    Order.Reports (T := Order.Demo) (.signed 1) (.deleteOrder [0])
      (execute Order.step (Order.State.empty Order.Demo) Order.payRun) (.module .notAuthorized) ∧
    C2COrder.Reports (T := C2COrder.Demo) (.signed 1) (.deleteOrder [0])
      (execute C2COrder.step (C2COrder.State.empty C2COrder.Demo) C2COrder.payRun)
      (.module .notAuthorized) ∧
    C2CToken.Reports (T := C2CToken.Demo) (.signed 1) (.deleteToken [0] [0])
      (execute C2CToken.step (C2CToken.State.empty C2CToken.Demo) C2CToken.tradeRun)
      (.module .notAuthorized) ∧
    Product.Reports (T := Product.Demo) (.signed 1) (.deleteProduct [0] [0])
      (execute Product.step (Product.State.empty Product.Demo) Product.purchaseRun)
      (.module .notAuthorized) ∧
    Institution.Reports (T := Institution.Demo) (.signed 1) (.deleteInstitution [0])
      (execute Institution.step (Institution.State.empty Institution.Demo) Institution.certifyRun)
      (.module .notAuthorized) ∧
    FreightTemplate.Reports (T := FreightTemplate.Demo) (.signed 1) (.deleteFreightTemplate [0])
      (execute FreightTemplate.step (FreightTemplate.State.empty FreightTemplate.Demo)
        FreightTemplate.updateRun) (.module .notAuthorized) ∧
    PaymentMethod.Reports (T := PaymentMethod.Demo) (.signed 1) (.removePaymentMethod [1])
      (execute PaymentMethod.step (PaymentMethod.State.empty PaymentMethod.Demo)
        PaymentMethod.setByZero) (.module .paymentMethodNotFound) :=
  have h := @errors_report_storage Order.Demo C2COrder.Demo C2CToken.Demo Product.Demo
    Institution.Demo FreightTemplate.Demo PaymentMethod.Demo
  ⟨And.right (h.1 _ 6 _ _ _ _ rfl), And.right (h.2.1 _ 5 _ _ _ _ rfl),
    And.right (h.2.2.1 _ _ _ _ _ rfl), And.right (h.2.2.2.1 _ 2 _ _ _ _ rfl),
    And.right (h.2.2.2.2.1 _ 3 _ _ _ _ rfl), And.right (h.2.2.2.2.2.1 _ _ _ _ _ rfl),
    And.right (h.2.2.2.2.2.2 _ _ _ _ _ rfl)⟩

end FissionMall
