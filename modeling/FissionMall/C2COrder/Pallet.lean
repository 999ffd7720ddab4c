import FissionMall.Frame.Dispatch

/-
  pallet `c2c-order` (`pallets/c2c-order/src/lib.rs`): orders between a member and an
  institution, the three code indexes `UserOrders`, `InstitutionOrders` and `OrdersByStatus`,
  and the status machine of `validate_status_transition`.

  Each dispatchable is translated statement by statement. `Orders::try_mutate(&code, |o| …)` is
  written out: the closure reads the stored order, makes its own writes to `OrdersByStatus` and
  deposits its events, and the changed order is written back last, only when the closure
  returned `Ok`. The storage layer of `#[pallet::call]` is added in `dispatch`.

  Not modelled: weights, `impl Default` of the enums and of `Order` (no call reads them), and the
  `#[pallet::getter]`s (plain reads of the maps).
-/

namespace FissionMall.C2COrder

/-- `Config`: the bounds of the three kinds of code. -/
structure Config extends SystemConfig where
  MaxOrderCodeLength : Nat
  MaxMemberCodeLength : Nat
  MaxInstitutionIdLength : Nat

/-- `OrderStatus`. -/
inductive OrderStatus
  | pending | paid | delivered | notarizing | cancelled | completed
deriving DecidableEq, Repr

/-- The `#[repr(u8)]` discriminant of an `OrderStatus`. -/
def OrderStatus.code : OrderStatus → Nat
  | .pending => 0 | .paid => 1 | .delivered => 2 | .notarizing => 3 | .cancelled => 4
  | .completed => 5

/-- `OrderDirection`. -/
inductive OrderDirection
  | userSell | userBuy
deriving DecidableEq, Repr

/-- `Error<T>`. -/
inductive Error
  | orderCodeAlreadyExists | orderNotFound | notAuthorized | stringConversionError
  | invalidStatus | invalidStatusTransition | userOrderListFull | institutionOrderListFull
  | statusOrderListFull | invalidDirection | invalidAmount
deriving DecidableEq, Repr

section Types

variable (T : Config)

abbrev OrderCode := BoundedVec (BitVec 8) T.MaxOrderCodeLength
abbrev MemberCode := BoundedVec (BitVec 8) T.MaxMemberCodeLength
abbrev InstitutionCode := BoundedVec (BitVec 8) T.MaxInstitutionIdLength

/-- `Order<T>`. Block numbers are `Nat`. -/
structure Order where
  orderCode : OrderCode T
  memberCode : MemberCode T
  institutionCode : InstitutionCode T
  status : OrderStatus
  direction : OrderDirection
  createdTime : Nat
  updatedTime : Nat
  transactionAmount : BitVec 128
  totalAmount : BitVec 128
  creator : T.AccountId

/-- `Event<T>`. -/
inductive Event
  | orderCreated (code : OrderCode T) (who : T.AccountId)
  | orderStatusUpdated (code : OrderCode T) (status : BitVec 8)
  | orderCancelled (code : OrderCode T)
  | orderDeleted (code : OrderCode T)
  | orderCompleted (code : OrderCode T)
  | orderNotarizing (code : OrderCode T)

/-- The pallet's storage, and its log of events. -/
structure State where
  orders : OrderCode T → Option (Order T)
  userOrders : MemberCode T → BoundedVec (OrderCode T) 1000
  institutionOrders : InstitutionCode T → BoundedVec (OrderCode T) 10000
  ordersByStatus : OrderStatus → BoundedVec (OrderCode T) 10000
  /-- The list of the pallet's `deposit_event` calls, in order. `frame_system` stores no event
  deposited at block 0, so read at genesis the list holds more than the chain keeps. -/
  events : List (Event T)

/-- Empty storage: no order, every `ValueQuery` bucket empty, no event. -/
def State.empty : State T :=
  ⟨fun _ => none, fun _ => .empty, fun _ => .empty, fun _ => .empty, []⟩

/-- A dispatchable of this pallet. -/
abbrev Body := Dispatch Error (State T) Unit

end Types

variable {T : Config}

/-- The `match direction` of `create_order`. -/
def decodeDirection (direction : BitVec 8) : Option OrderDirection :=
  match direction.toNat with
  | 0 => some .userSell
  | 1 => some .userBuy
  | _ => none

/-- The `match status` of `update_order_status`. -/
def decodeStatus (status : BitVec 8) : Option OrderStatus :=
  match status.toNat with
  | 0 => some .pending
  | 1 => some .paid
  | 2 => some .delivered
  | 3 => some .notarizing
  | 4 => some .cancelled
  | 5 => some .completed
  | _ => none

/-- The table of `validate_status_transition`. -/
def validTransition : OrderStatus → OrderStatus → Bool
  | .pending, .paid | .pending, .cancelled | .pending, .notarizing => true
  | .paid, .delivered | .paid, .cancelled | .paid, .notarizing => true
  | .delivered, .completed | .delivered, .notarizing => true
  | .notarizing, .completed | .notarizing, .cancelled => true
  | _, _ => false

/-- `validate_status_transition`. -/
def validateStatusTransition (fromStatus toStatus : OrderStatus) : Body T :=
  ensure (validTransition fromStatus toStatus = true) .invalidStatusTransition

/-- `Self::deposit_event`: the event is appended to the log `State.events`. -/
def depositEvent (e : Event T) : Body T :=
  modify fun s => { s with events := s.events ++ [e] }

/-- The events `update_order_status` deposits: `OrderStatusUpdated` with the code it was given,
then `OrderCompleted` or `OrderNotarizing` when the new status is one of those two. -/
def statusEvents (code : OrderCode T) (status : BitVec 8) (newStatus : OrderStatus) :
    List (Event T) :=
  .orderStatusUpdated code status ::
    match newStatus with
    | .completed => [.orderCompleted code]
    | .notarizing => [.orderNotarizing code]
    | _ => []

/-- `OrdersByStatus::mutate(&status, |orders| orders.retain(|c| c != &code))`. -/
def retainFromStatus (status : OrderStatus) (code : OrderCode T) : Body T :=
  modify fun s => { s with
    ordersByStatus := Function.update s.ordersByStatus status
      ((s.ordersByStatus status).retain (· != code)) }

/-- `OrdersByStatus::try_mutate(&status, |orders| orders.try_push(code))`, failing with
`StatusOrderListFull`. -/
def pushToStatus (status : OrderStatus) (code : OrderCode T) : Body T := do
  let orders ← okOr (((← get).ordersByStatus status).tryPush code) .statusOrderListFull
  modify fun s => { s with ordersByStatus := Function.update s.ordersByStatus status orders }

/-- `create_order`. -/
def createOrder (origin : Origin T.AccountId) (now : Nat)
    (orderCode memberCode institutionCode : Bytes) (direction : BitVec 8)
    (transactionAmount totalAmount : BitVec 128) : Body T := do
  let who ← ensureSigned origin
  let boundedOrderCode ← okOr (BoundedVec.tryFrom orderCode) .stringConversionError
  ensure ((← get).orders boundedOrderCode).isNone .orderCodeAlreadyExists
  ensure (transactionAmount > 0) .invalidAmount
  ensure (totalAmount ≥ transactionAmount) .invalidAmount
  let orderDirection ← okOr (decodeDirection direction) .invalidDirection
  let boundedMemberCode ← okOr (BoundedVec.tryFrom memberCode) .stringConversionError
  let boundedInstitutionCode ← okOr (BoundedVec.tryFrom institutionCode) .stringConversionError
  let order : Order T :=
    { orderCode := boundedOrderCode, memberCode := boundedMemberCode,
      institutionCode := boundedInstitutionCode, status := .pending, direction := orderDirection,
      createdTime := now, updatedTime := now, transactionAmount := transactionAmount,
      totalAmount := totalAmount, creator := who }
  modify fun s => { s with orders := Function.update s.orders boundedOrderCode (some order) }
  let userOrders ← okOr (((← get).userOrders boundedMemberCode).tryPush boundedOrderCode)
    .userOrderListFull
  modify fun s => { s with
    userOrders := Function.update s.userOrders boundedMemberCode userOrders }
  let institutionOrders ← okOr
    (((← get).institutionOrders boundedInstitutionCode).tryPush boundedOrderCode)
    .institutionOrderListFull
  modify fun s => { s with
    institutionOrders := Function.update s.institutionOrders boundedInstitutionCode
      institutionOrders }
  pushToStatus .pending boundedOrderCode
  depositEvent (.orderCreated boundedOrderCode who)

/-- `update_order_status`. -/
def updateOrderStatus (origin : Origin T.AccountId) (now : Nat) (orderCode : Bytes)
    (status : BitVec 8) : Body T := do
  let who ← ensureSigned origin
  let boundedOrderCode ← okOr (BoundedVec.tryFrom orderCode) .stringConversionError
  let order ← okOr ((← get).orders boundedOrderCode) .orderNotFound
  ensure (order.creator = who) .notAuthorized
  let oldStatus := order.status
  let newStatus ← okOr (decodeStatus status) .invalidStatus
  validateStatusTransition order.status newStatus
  retainFromStatus oldStatus boundedOrderCode
  pushToStatus newStatus boundedOrderCode
  modify fun s => { s with events := s.events ++ statusEvents boundedOrderCode status newStatus }
  modify fun s => { s with
    orders := Function.update s.orders boundedOrderCode
      (some { order with status := newStatus, updatedTime := now }) }

/-- `cancel_order`. -/
def cancelOrder (origin : Origin T.AccountId) (now : Nat) (orderCode : Bytes) : Body T := do
  let who ← ensureSigned origin
  let boundedOrderCode ← okOr (BoundedVec.tryFrom orderCode) .stringConversionError
  let order ← okOr ((← get).orders boundedOrderCode) .orderNotFound
  ensure (order.creator = who) .notAuthorized
  ensure (order.status = .pending ∨ order.status = .paid) .invalidStatusTransition
  let oldStatus := order.status
  retainFromStatus oldStatus boundedOrderCode
  pushToStatus .cancelled boundedOrderCode
  depositEvent (.orderCancelled boundedOrderCode)
  modify fun s => { s with
    orders := Function.update s.orders boundedOrderCode
      (some { order with status := .cancelled, updatedTime := now }) }

/-- `delete_order`. -/
def deleteOrder (origin : Origin T.AccountId) (orderCode : Bytes) : Body T := do
  let who ← ensureSigned origin
  let boundedOrderCode ← okOr (BoundedVec.tryFrom orderCode) .stringConversionError
  let order ← okOr ((← get).orders boundedOrderCode) .orderNotFound
  ensure (order.creator = who) .notAuthorized
  modify fun s => { s with
    userOrders := Function.update s.userOrders order.memberCode
      ((s.userOrders order.memberCode).retain (· != boundedOrderCode)) }
  modify fun s => { s with
    institutionOrders := Function.update s.institutionOrders order.institutionCode
      ((s.institutionOrders order.institutionCode).retain (· != boundedOrderCode)) }
  retainFromStatus order.status boundedOrderCode
  modify fun s => { s with orders := Function.update s.orders boundedOrderCode none }
  depositEvent (.orderDeleted boundedOrderCode)

/-- `complete_order`. -/
def completeOrder (origin : Origin T.AccountId) (now : Nat) (orderCode : Bytes) : Body T := do
  let who ← ensureSigned origin
  let boundedOrderCode ← okOr (BoundedVec.tryFrom orderCode) .stringConversionError
  let order ← okOr ((← get).orders boundedOrderCode) .orderNotFound
  ensure (order.creator = who) .notAuthorized
  ensure (order.status = .delivered ∨ order.status = .notarizing) .invalidStatusTransition
  let oldStatus := order.status
  retainFromStatus oldStatus boundedOrderCode
  pushToStatus .completed boundedOrderCode
  depositEvent (.orderCompleted boundedOrderCode)
  modify fun s => { s with
    orders := Function.update s.orders boundedOrderCode
      (some { order with status := .completed, updatedTime := now }) }

/-- The pallet's calls with their arguments (`call_index` 0 to 4). -/
inductive Call
  | createOrder (orderCode memberCode institutionCode : Bytes) (direction : BitVec 8)
      (transactionAmount totalAmount : BitVec 128)
  | updateOrderStatus (orderCode : Bytes) (status : BitVec 8)
  | cancelOrder (orderCode : Bytes)
  | deleteOrder (orderCode : Bytes)
  | completeOrder (orderCode : Bytes)

/-- The body of a call, from `origin` at block `now`. -/
def Call.body (origin : Origin T.AccountId) (now : Nat) : Call → Body T
  | .createOrder oc mc ic d ta total => C2COrder.createOrder origin now oc mc ic d ta total
  | .updateOrderStatus oc st => C2COrder.updateOrderStatus origin now oc st
  | .cancelOrder oc => C2COrder.cancelOrder origin now oc
  | .deleteOrder oc => C2COrder.deleteOrder origin oc
  | .completeOrder oc => C2COrder.completeOrder origin now oc

/-- A call as the runtime dispatches it, inside the storage layer of `#[pallet::call]`. -/
def dispatch (origin : Origin T.AccountId) (now : Nat) (call : Call) : Body T :=
  withStorageLayer (call.body origin now)

/-- One extrinsic: origin, block number and call. -/
def step (x : Origin T.AccountId × Nat × Call) : Body T := dispatch x.1 x.2.1 x.2.2

end FissionMall.C2COrder
