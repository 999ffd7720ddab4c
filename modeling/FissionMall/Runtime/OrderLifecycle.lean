import FissionMall.C2COrder.Lifecycle
import FissionMall.C2COrder.Invariant
import FissionMall.Order.Lifecycle
import FissionMall.Order.Totals

/-
  The status lifecycle of both order pallets, and the agreement of their event logs with their
  stored statuses.

  `order_status_lifecycle`, for `c2c-order` and for `order`: every successful call makes a status
  step on every order (unchanged, an edge of the pallet's `validate_status_transition` table,
  created in `Pending`, or removed); along every run from empty storage, failing calls included,
  two consecutive storages differ by a status step, so between its creation and its deletion an
  order's statuses form a path of the table from `Pending`; every stored status is reachable from
  `Pending`; and the statuses without outgoing edges (`Cancelled`, `Completed` in `c2c-order`;
  `Cancelled`, `Refunded` in `order`) never change.

  `order_events_replay`: for every run from empty storage, replaying the deposited events gives
  the map from each stored code to its stored status.

  `creators_drive_order_lifecycle`, the other way round: nothing but the status buckets stops an
  order's creator. In `order`, from every storage, the creator reaches every status on a path of
  the table from the order's own; in `c2c-order`, the creator's move along an edge succeeds exactly
  when the bucket of the new status has room.
-/

namespace FissionMall

theorem order_status_lifecycle {T : C2COrder.Config} {U : Order.Config} :
    ((∀ (s s' : C2COrder.State T) (origin : Origin T.AccountId) (now : Nat) (c : C2COrder.Call),
        C2COrder.dispatch origin now c s = .ok () s' → ∀ k,
          StatusStep C2COrder.validTransition .pending (C2COrder.statuses s.orders k)
            (C2COrder.statuses s'.orders k)) ∧
      (∀ (calls : List (Origin T.AccountId × Nat × C2COrder.Call)) (i : Nat) (k : C2COrder.OrderCode T),
        StatusStep C2COrder.validTransition .pending
          (C2COrder.statuses (execute C2COrder.step (C2COrder.State.empty T) (calls.take i)).orders k)
          (C2COrder.statuses
            (execute C2COrder.step (C2COrder.State.empty T) (calls.take (i + 1))).orders k)) ∧
      (∀ s : C2COrder.State T, Reachable C2COrder.step (C2COrder.State.empty T) s →
        PathFrom C2COrder.validTransition .pending (C2COrder.statuses s.orders)) ∧
      (∀ (s s' : C2COrder.State T) (origin : Origin T.AccountId) (now : Nat) (c : C2COrder.Call)
        (k : C2COrder.OrderCode T) (o o' : C2COrder.Order T),
        C2COrder.dispatch origin now c s = .ok () s' → s.orders k = some o →
          (o.status = .cancelled ∨ o.status = .completed) → s'.orders k = some o' →
            o'.status = o.status)) ∧
    ((∀ (s s' : Order.State U) (origin : Origin U.AccountId) (now : Nat) (c : Order.Call),
        Order.dispatch origin now c s = .ok () s' → ∀ k,
          StatusStep Order.validTransition .pending (Order.statuses s.orders k)
            (Order.statuses s'.orders k)) ∧
      (∀ (calls : List (Origin U.AccountId × Nat × Order.Call)) (i : Nat) (k : Order.OrderCode U),
        StatusStep Order.validTransition .pending
          (Order.statuses (execute Order.step (Order.State.empty U) (calls.take i)).orders k)
          (Order.statuses (execute Order.step (Order.State.empty U) (calls.take (i + 1))).orders k)) ∧
      (∀ s : Order.State U, Reachable Order.step (Order.State.empty U) s →
        PathFrom Order.validTransition .pending (Order.statuses s.orders)) ∧
      (∀ (s s' : Order.State U) (origin : Origin U.AccountId) (now : Nat) (c : Order.Call)
        (k : Order.OrderCode U) (o o' : Order.Order U),
        Order.dispatch origin now c s = .ok () s' → s.orders k = some o →
          (o.status = .cancelled ∨ o.status = .refunded) → s'.orders k = some o' →
            o'.status = o.status)) :=
  ⟨⟨fun _ _ _ _ _ hs => C2COrder.dispatch_statusStep hs,
    fun calls i => execute_take_succ (R := fun s s' => ∀ k, StatusStep C2COrder.validTransition
        .pending (C2COrder.statuses s.orders k) (C2COrder.statuses s'.orders k))
      (fun _ _ => .refl _) (fun _ _ _ _ h => C2COrder.dispatch_error h)
      (fun _ _ _ h => C2COrder.dispatch_statusStep h) _ calls i,
    fun _ h => C2COrder.pathFrom_reachable h,
    fun _ _ _ _ _ _ _ _ hs ho ht ho' => C2COrder.dispatch_terminal hs ho ht ho'⟩,
   ⟨fun _ _ _ _ _ hs => Order.dispatch_statusStep hs,
    fun calls i => execute_take_succ (R := fun s s' => ∀ k, StatusStep Order.validTransition
        .pending (Order.statuses s.orders k) (Order.statuses s'.orders k))
      (fun _ _ => .refl _) (fun _ _ _ _ h => Order.dispatch_error h)
      (fun _ _ _ h => Order.dispatch_statusStep h) _ calls i,
    fun _ h => Order.pathFrom_reachable h,
    fun _ _ _ _ _ _ _ _ hs ho ht ho' => Order.dispatch_terminal hs ho ht ho'⟩⟩

/-- Account 0 creates order `[0]` at block 2, cancels it at block 3, and creates order `[1]` at
block 4. -/
def C2COrder.cancelRun : List (Origin Nat × Nat × C2COrder.Call) :=
  [(.signed 0, 2, .createOrder [0] [0] [0] 0 1 1), (.signed 0, 3, .cancelOrder [0]),
   (.signed 0, 4, .createOrder [1] [0] [0] 0 1 1)]

/-- Account 0 creates order `[0]` at block 3, cancels it at block 4, and sets its express
information at block 5. -/
def Order.cancelRun : List (Origin Nat × Nat × Order.Call) :=
  [(.signed 0, 3, .createOrder [0] [0] [0] 5 none none none [([1], 3, 7, 2)]),
   (.signed 0, 4, .cancelOrder [0]), (.signed 0, 5, .updateExpressInfo [0] [1] [1])]

/-- In both pallets the payment of `payRun` is a step of the table, its storage holds a path
from `Pending`, and in `cancelRun` the cancelled order keeps its status through the last call. -/
theorem demo_runs_follow_lifecycle :
    StatusStep C2COrder.validTransition .pending
        (C2COrder.statuses (execute C2COrder.step (C2COrder.State.empty C2COrder.Demo)
          (C2COrder.payRun.take 1)).orders C2COrder.code0)
        (C2COrder.statuses (execute C2COrder.step (C2COrder.State.empty C2COrder.Demo)
          C2COrder.payRun).orders C2COrder.code0) ∧
      PathFrom C2COrder.validTransition .pending (C2COrder.statuses
        (execute C2COrder.step (C2COrder.State.empty C2COrder.Demo) C2COrder.payRun).orders) ∧
      (∃ o o', (execute C2COrder.step (C2COrder.State.empty C2COrder.Demo)
          (C2COrder.cancelRun.take 2)).orders C2COrder.code0 = some o ∧ o.status = .cancelled ∧
        (execute C2COrder.step (C2COrder.State.empty C2COrder.Demo) C2COrder.cancelRun).orders
          C2COrder.code0 = some o' ∧ o'.status = o.status) ∧
      StatusStep Order.validTransition .pending
        (Order.statuses (execute Order.step (Order.State.empty Order.Demo)
          (Order.payRun.take 1)).orders Order.code0)
        (Order.statuses (execute Order.step (Order.State.empty Order.Demo)
          Order.payRun).orders Order.code0) ∧
      PathFrom Order.validTransition .pending (Order.statuses
        (execute Order.step (Order.State.empty Order.Demo) Order.payRun).orders) ∧
      ∃ o o', (execute Order.step (Order.State.empty Order.Demo)
          (Order.cancelRun.take 2)).orders Order.code0 = some o ∧ o.status = .cancelled ∧
        (execute Order.step (Order.State.empty Order.Demo) Order.cancelRun).orders
          Order.code0 = some o' ∧ o'.status = o.status :=
  have h := order_status_lifecycle (T := C2COrder.Demo) (U := Order.Demo)
  have hc : Reachable C2COrder.step (C2COrder.State.empty C2COrder.Demo)
      (execute C2COrder.step (C2COrder.State.empty C2COrder.Demo) C2COrder.payRun) :=
    reachable_execute (fun _ _ _ _ he => C2COrder.dispatch_error he) .init _
  have ho : Reachable Order.step (Order.State.empty Order.Demo)
      (execute Order.step (Order.State.empty Order.Demo) Order.payRun) :=
    reachable_execute (fun _ _ _ _ he => Order.dispatch_error he) .init _
  ⟨h.1.1 (execute C2COrder.step (C2COrder.State.empty C2COrder.Demo) (C2COrder.payRun.take 1))
      _ (.signed 0) 4 (.updateOrderStatus [0] 1) rfl C2COrder.code0,
    h.1.2.2.1 _ hc,
    ⟨_, _, rfl, rfl, rfl, h.1.2.2.2
      (execute C2COrder.step (C2COrder.State.empty C2COrder.Demo) (C2COrder.cancelRun.take 2))
      _ (.signed 0) 4 (.createOrder [1] [0] [0] 0 1 1) C2COrder.code0 _ _ rfl rfl (.inl rfl) rfl⟩,
    h.2.1 (execute Order.step (Order.State.empty Order.Demo) (Order.payRun.take 1))
      _ (.signed 0) 5 (.updateOrderStatus [0] 1) rfl Order.code0,
    h.2.2.2.1 _ ho,
    ⟨_, _, rfl, rfl, rfl, h.2.2.2.2
      (execute Order.step (Order.State.empty Order.Demo) (Order.cancelRun.take 2))
      _ (.signed 0) 5 (.updateExpressInfo [0] [1] [1]) Order.code0 _ _ rfl rfl (.inl rfl) rfl⟩⟩

theorem order_events_replay {T : C2COrder.Config} {U : Order.Config} :
    (∀ calls : List (Origin T.AccountId × Nat × C2COrder.Call),
      C2COrder.replay (execute C2COrder.step (C2COrder.State.empty T) calls).events =
        C2COrder.statuses (execute C2COrder.step (C2COrder.State.empty T) calls).orders) ∧
    (∀ calls : List (Origin U.AccountId × Nat × Order.Call),
      Order.replay (execute Order.step (Order.State.empty U) calls).events =
        Order.statuses (execute Order.step (Order.State.empty U) calls).orders) :=
  ⟨fun calls => C2COrder.replay_events_reachable
      (reachable_execute (fun _ _ _ _ h => C2COrder.dispatch_error h) .init calls),
    fun calls => Order.replay_events_reachable
      (reachable_execute (fun _ _ _ _ h => Order.dispatch_error h) .init calls)⟩

theorem creators_drive_order_lifecycle {T : C2COrder.Config} {U : Order.Config} :
    (∀ (s : Order.State U) (now : Nat) (k : Order.OrderCode U) (o : Order.Order U)
      (st : Order.OrderStatus), s.orders k = some o →
      Relation.ReflTransGen (fun a b => Order.validTransition a b = true) o.status st →
      ∃ s', Reachable (fun new : Order.OrderStatus => Order.dispatch (.signed o.creator) now
          (.updateOrderStatus k.toList (BitVec.ofNat 8 new.code))) s s' ∧
        (∃ t, s'.orders k = some { o with status := st, updatedTime := t }) ∧
        ∀ k', k' ≠ k → s'.orders k' = s.orders k') ∧
    (∀ (s : C2COrder.State T) (now : Nat) (k : C2COrder.OrderCode T) (o : C2COrder.Order T)
      (new : C2COrder.OrderStatus), s.orders k = some o →
      C2COrder.validTransition o.status new = true →
      ((∃ s', C2COrder.dispatch (.signed o.creator) now
          (.updateOrderStatus k.toList (BitVec.ofNat 8 new.code)) s = .ok () s') ↔
        (s.retainedBucket k o.status new).toList.length < 10000)) :=
  ⟨fun s now _ _ _ ho hp => Order.creator_follows_path s now ho hp,
    fun s now _ _ _ ho hv => C2COrder.updateOrderStatus_enabled_iff s now ho hv⟩

/-- After the creation of `payRun`, the creator of order `[0]` of `order` takes it from `Pending`
to `Completed` by three calls, and the creator of order `[0]` of `c2c-order` pays it, its bucket
of `Paid` having room. -/
theorem demo_creators_move_orders :
    (∃ o, (execute Order.step (Order.State.empty Order.Demo) (Order.payRun.take 1)).orders
        Order.code0 = some o ∧ o.status = .pending ∧
      ∃ s', Reachable (fun new : Order.OrderStatus => Order.dispatch (.signed o.creator) 6
          (.updateOrderStatus Order.code0.toList (BitVec.ofNat 8 new.code)))
          (execute Order.step (Order.State.empty Order.Demo) (Order.payRun.take 1)) s' ∧
        ∃ t, s'.orders Order.code0 = some { o with status := .completed, updatedTime := t }) ∧
    ∃ o, (execute C2COrder.step (C2COrder.State.empty C2COrder.Demo) (C2COrder.payRun.take 1)).orders
        C2COrder.code0 = some o ∧
      ((execute C2COrder.step (C2COrder.State.empty C2COrder.Demo)
          (C2COrder.payRun.take 1)).retainedBucket C2COrder.code0 o.status .paid).toList.length <
        10000 ∧
      ∃ s', C2COrder.dispatch (.signed o.creator) 4 (.updateOrderStatus C2COrder.code0.toList
        (BitVec.ofNat 8 C2COrder.OrderStatus.paid.code))
        (execute C2COrder.step (C2COrder.State.empty C2COrder.Demo) (C2COrder.payRun.take 1)) =
          .ok () s' :=
  have h := creators_drive_order_lifecycle (T := C2COrder.Demo) (U := Order.Demo)
  let ⟨s', hr, ht, _⟩ := h.1 (execute Order.step (Order.State.empty Order.Demo)
    (Order.payRun.take 1)) 6 Order.code0 _ .completed rfl
    (.head (b := Order.OrderStatus.paid) rfl (.head (b := Order.OrderStatus.delivered) rfl
      (.single rfl)))
  ⟨⟨_, rfl, rfl, s', hr, ht⟩, ⟨_, rfl, by decide, (h.2 (execute C2COrder.step
    (C2COrder.State.empty C2COrder.Demo) (C2COrder.payRun.take 1)) 4 C2COrder.code0 _ .paid rfl
    rfl).mpr (by decide)⟩⟩

end FissionMall
