import FissionMall.Frame.Dispatch

/-
  pallet `order` (`pallets/order/src/lib.rs`): orders of items from an institution, with the two
  code indexes `UserOrders` and `InstitutionOrders`, express information, and the status machine
  of `validate_status_transition` (with `Refunded`, without `Notarizing`). There is no by-status
  index in this pallet.

  `create_order` folds its items in a `for` loop that converts each product code and keeps two
  running totals with saturating arithmetic; `collectItems` is that loop, its accumulators
  explicit. The freight is added to the amount after the loop.

  Not modelled: weights, and `#[pallet::storage_prefix]` names.
-/

set_option linter.dupNamespace false

namespace FissionMall.Order

/-- `Config`. -/
structure Config extends SystemConfig where
  MaxOrderCodeLength : Nat
  MaxMemberCodeLength : Nat
  MaxInstitutionIdLength : Nat
  MaxOrderItems : Nat
  MaxExpressCompanyLength : Nat
  MaxExpressNumberLength : Nat

/-- `OrderStatus`. -/
inductive OrderStatus
  | pending | paid | delivered | cancelled | completed | refunded
deriving DecidableEq, Repr

/-- The `#[repr(u8)]` discriminant of an `OrderStatus`. -/
def OrderStatus.code : OrderStatus → Nat
  | .pending => 0 | .paid => 1 | .delivered => 2 | .cancelled => 3 | .completed => 4
  | .refunded => 5

/-- `Error<T>`. -/
inductive Error
  | orderCodeAlreadyExists | orderNotFound | notAuthorized | stringConversionError
  | invalidStatus | emptyOrderItems | tooManyOrderItems | invalidStatusTransition
  | userOrderListFull | institutionOrderListFull
deriving DecidableEq, Repr

/-- `ContactInformation`. -/
structure ContactInformation where
  phone : Option (BoundedVec (BitVec 8) 32)
  email : Option (BoundedVec (BitVec 8) 128)
  address : Option (BoundedVec (BitVec 8) 512)

/-- `OrderItem`. -/
structure OrderItem where
  productCode : BoundedVec (BitVec 8) 64
  quantity : BitVec 32
  pricePerUnit : BitVec 32
  weight : BitVec 32

section Types

variable (T : Config)

abbrev OrderCode := BoundedVec (BitVec 8) T.MaxOrderCodeLength
abbrev MemberCode := BoundedVec (BitVec 8) T.MaxMemberCodeLength
abbrev InstitutionCode := BoundedVec (BitVec 8) T.MaxInstitutionIdLength

/-- `Order<T>`. Block numbers are `Nat`. -/
structure Order where
  orderCode : OrderCode T
  memberCode : MemberCode T
  institutionCode : InstitutionCode T
  status : OrderStatus
  createdTime : Nat
  updatedTime : Nat
  totalAmount : BitVec 32
  totalWeight : BitVec 32
  freight : BitVec 32
  contactInformation : ContactInformation
  items : BoundedVec OrderItem T.MaxOrderItems
  expressCompany : BoundedVec (BitVec 8) T.MaxExpressCompanyLength
  expressNumber : BoundedVec (BitVec 8) T.MaxExpressNumberLength
  creator : T.AccountId

/-- `Event<T>`. -/
inductive Event
  | orderCreated (code : OrderCode T) (who : T.AccountId)
  | orderStatusUpdated (code : OrderCode T) (status : BitVec 8)
  | orderExpressInfoUpdated (code : OrderCode T)
  | orderCancelled (code : OrderCode T)
  | orderDeleted (code : OrderCode T)

/-- The pallet's storage, and its log of events. -/
structure State where
  orders : OrderCode T → Option (Order T)
  userOrders : MemberCode T → BoundedVec (OrderCode T) 1000
  institutionOrders : InstitutionCode T → BoundedVec (OrderCode T) 10000
  /-- The list of the pallet's `deposit_event` calls, in order. `frame_system` stores no event
  deposited at block 0, so read at genesis the list holds more than the chain keeps. -/
  events : List (Event T)

/-- Empty storage. -/
def State.empty : State T := ⟨fun _ => none, fun _ => .empty, fun _ => .empty, []⟩

abbrev Body := Dispatch Error (State T) Unit

end Types

variable {T : Config}

/-- The `match status` of `update_order_status`. -/
def decodeStatus (status : BitVec 8) : Option OrderStatus :=
  match status.toNat with
  | 0 => some .pending
  | 1 => some .paid
  | 2 => some .delivered
  | 3 => some .cancelled
  | 4 => some .completed
  | 5 => some .refunded
  | _ => none

/-- The table of `validate_status_transition`. -/
def validTransition : OrderStatus → OrderStatus → Bool
  | .pending, .paid | .pending, .cancelled => true
  | .paid, .delivered | .paid, .refunded | .paid, .cancelled => true
  | .delivered, .completed => true
  | .completed, .refunded => true
  | _, _ => false

/-- `validate_status_transition`. -/
def validateStatusTransition (fromStatus toStatus : OrderStatus) : Body T :=
  ensure (validTransition fromStatus toStatus = true) .invalidStatusTransition

/-- `Self::deposit_event`: the event is appended to the log `State.events`. -/
def depositEvent (e : Event T) : Body T :=
  modify fun s => { s with events := s.events ++ [e] }

/-- The `for` loop of `create_order` from the accumulators `(orderItems, totalAmount,
totalWeight)`: each product code is bounded (`none` is the `StringConversionError`), and each
item adds `price_per_unit.saturating_mul(quantity)` to the amount and
`weight.saturating_mul(quantity)` to the weight, both with `saturating_add`. -/
def collectItems : List (Bytes × BitVec 32 × BitVec 32 × BitVec 32) → List OrderItem →
    BitVec 32 → BitVec 32 → Option (List OrderItem × BitVec 32 × BitVec 32)
  | [], orderItems, totalAmount, totalWeight => some (orderItems, totalAmount, totalWeight)
  | (productCode, quantity, pricePerUnit, weight) :: items, orderItems, totalAmount, totalWeight =>
    match BoundedVec.tryFrom productCode with
    | none => none
    | some code =>
      collectItems items (orderItems ++ [⟨code, quantity, pricePerUnit, weight⟩])
        (saturatingAdd totalAmount (saturatingMul pricePerUnit quantity))
        (saturatingAdd totalWeight (saturatingMul weight quantity))

/-- `create_order`. -/
def createOrder (origin : Origin T.AccountId) (now : Nat)
    (orderCode memberCode institutionCode : Bytes) (freight : BitVec 32)
    (phone email address : Option Bytes) (items : List (Bytes × BitVec 32 × BitVec 32 × BitVec 32)) :
    Body T := do
  let who ← ensureSigned origin
  let boundedOrderCode ← okOr (BoundedVec.tryFrom orderCode) .stringConversionError
  ensure ((← get).orders boundedOrderCode).isNone .orderCodeAlreadyExists
  ensure (!items.isEmpty) .emptyOrderItems
  let boundedMemberCode ← okOr (BoundedVec.tryFrom memberCode) .stringConversionError
  let boundedInstitutionCode ← okOr (BoundedVec.tryFrom institutionCode) .stringConversionError
  let phone ← okOr (BoundedVec.tryFromOpt phone) .stringConversionError
  let email ← okOr (BoundedVec.tryFromOpt email) .stringConversionError
  let address ← okOr (BoundedVec.tryFromOpt address) .stringConversionError
  let (orderItems, totalAmount, totalWeight) ← okOr (collectItems items [] 0 0)
    .stringConversionError
  let boundedItems ← okOr (BoundedVec.tryFrom orderItems) .tooManyOrderItems
  let order : Order T :=
    { orderCode := boundedOrderCode, memberCode := boundedMemberCode,
      institutionCode := boundedInstitutionCode, status := .pending, createdTime := now,
      updatedTime := now, totalAmount := saturatingAdd totalAmount freight,
      totalWeight := totalWeight, freight := freight,
      contactInformation := ⟨phone, email, address⟩, items := boundedItems,
      expressCompany := .empty, expressNumber := .empty, creator := who }
  modify fun s => { s with orders := Function.update s.orders boundedOrderCode (some order) }
  let userOrders ← okOr (((← get).userOrders boundedMemberCode).tryPush boundedOrderCode)
    .userOrderListFull
  modify fun s => { s with
    userOrders := Function.update s.userOrders boundedMemberCode userOrders }
  let institutionOrders ← okOr
    (((← get).institutionOrders boundedInstitutionCode).tryPush boundedOrderCode)
    .institutionOrderListFull
  modify fun s => { s with
    institutionOrders := Function.update s.institutionOrders boundedInstitutionCode
      institutionOrders }
  depositEvent (.orderCreated boundedOrderCode who)

/-- `update_order_status`. -/
def updateOrderStatus (origin : Origin T.AccountId) (now : Nat) (orderCode : Bytes)
    (status : BitVec 8) : Body T := do
  let who ← ensureSigned origin
  let boundedOrderCode ← okOr (BoundedVec.tryFrom orderCode) .stringConversionError
  let order ← okOr ((← get).orders boundedOrderCode) .orderNotFound
  ensure (order.creator = who) .notAuthorized
  let newStatus ← okOr (decodeStatus status) .invalidStatus
  validateStatusTransition order.status newStatus
  depositEvent (.orderStatusUpdated boundedOrderCode status)
  modify fun s => { s with
    orders := Function.update s.orders boundedOrderCode
      (some { order with status := newStatus, updatedTime := now }) }

/-- `update_express_info`. -/
def updateExpressInfo (origin : Origin T.AccountId) (now : Nat)
    (orderCode expressCompany expressNumber : Bytes) : Body T := do
  let who ← ensureSigned origin
  let boundedOrderCode ← okOr (BoundedVec.tryFrom orderCode) .stringConversionError
  let boundedExpressCompany ← okOr (BoundedVec.tryFrom expressCompany) .stringConversionError
  let boundedExpressNumber ← okOr (BoundedVec.tryFrom expressNumber) .stringConversionError
  let order ← okOr ((← get).orders boundedOrderCode) .orderNotFound
  ensure (order.creator = who) .notAuthorized
  depositEvent (.orderExpressInfoUpdated boundedOrderCode)
  let order := { order with
    expressCompany := boundedExpressCompany, expressNumber := boundedExpressNumber,
    updatedTime := now }
  modify fun s => { s with orders := Function.update s.orders boundedOrderCode (some order) }

/-- `cancel_order`. -/
def cancelOrder (origin : Origin T.AccountId) (now : Nat) (orderCode : Bytes) : Body T := do
  let who ← ensureSigned origin
  let boundedOrderCode ← okOr (BoundedVec.tryFrom orderCode) .stringConversionError
  let order ← okOr ((← get).orders boundedOrderCode) .orderNotFound
  ensure (order.creator = who) .notAuthorized
  ensure (order.status = .pending ∨ order.status = .paid) .invalidStatusTransition
  depositEvent (.orderCancelled boundedOrderCode)
  modify fun s => { s with
    orders := Function.update s.orders boundedOrderCode
      (some { order with status := .cancelled, updatedTime := now }) }

/-- `delete_order`. -/
def deleteOrder (origin : Origin T.AccountId) (orderCode : Bytes) : Body T := do
  let who ← ensureSigned origin
  let boundedOrderCode ← okOr (BoundedVec.tryFrom orderCode) .stringConversionError
  let order ← okOr ((← get).orders boundedOrderCode) .orderNotFound
  ensure (order.creator = who) .notAuthorized
  modify fun s => { s with
    userOrders := Function.update s.userOrders order.memberCode
      ((s.userOrders order.memberCode).retain (· != boundedOrderCode)) }
  modify fun s => { s with
    institutionOrders := Function.update s.institutionOrders order.institutionCode
      ((s.institutionOrders order.institutionCode).retain (· != boundedOrderCode)) }
  modify fun s => { s with orders := Function.update s.orders boundedOrderCode none }
  depositEvent (.orderDeleted boundedOrderCode)

/-- The pallet's calls with their arguments (`call_index` 0 to 4). -/
inductive Call
  | createOrder (orderCode memberCode institutionCode : Bytes) (freight : BitVec 32)
      (phone email address : Option Bytes) (items : List (Bytes × BitVec 32 × BitVec 32 × BitVec 32))
  | updateOrderStatus (orderCode : Bytes) (status : BitVec 8)
  | updateExpressInfo (orderCode expressCompany expressNumber : Bytes)
  | cancelOrder (orderCode : Bytes)
  | deleteOrder (orderCode : Bytes)

/-- The body of a call, from `origin` at block `now`. -/
def Call.body (origin : Origin T.AccountId) (now : Nat) : Call → Body T
  | .createOrder oc mc ic fr ph em ad items => Order.createOrder origin now oc mc ic fr ph em ad items
  | .updateOrderStatus oc st => Order.updateOrderStatus origin now oc st
  | .updateExpressInfo oc ec en => Order.updateExpressInfo origin now oc ec en
  | .cancelOrder oc => Order.cancelOrder origin now oc
  | .deleteOrder oc => Order.deleteOrder origin oc

/-- A call as the runtime dispatches it, inside the storage layer of `#[pallet::call]`. -/
def dispatch (origin : Origin T.AccountId) (now : Nat) (call : Call) : Body T :=
  withStorageLayer (call.body origin now)

/-- One extrinsic: origin, block number and call. -/
def step (x : Origin T.AccountId × Nat × Call) : Body T := dispatch x.1 x.2.1 x.2.2

end FissionMall.Order
