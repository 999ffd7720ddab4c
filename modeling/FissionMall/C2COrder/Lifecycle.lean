import FissionMall.C2COrder.Spec
import FissionMall.Frame.Lifecycle

/-
  The life of a `c2c-order` order, seen through its status.

  `dispatch_statusStep`: a successful call creates an order in `Pending`, moves one along an
  edge of `validate_status_transition`'s table, removes one, or leaves statuses alone. The two
  calls that do not consult the table, `cancel_order` and `complete_order`, only make moves the
  table has (`validTransition_of_cancelable`, `validTransition_of_completable`). So every stored
  status lies on a path of the table from `Pending`, and `Cancelled` and `Completed`, which have
  no outgoing edge, are never left.

  `replay` reads the event log the calls deposit back into a map of statuses, as the log's
  consumer would: `OrderCreated` is `Pending`, `OrderStatusUpdated(k, n)` the status whose
  `#[repr(u8)]` code is `n`, and so on. `replay_events_reachable`: in every reachable storage it
  is the map of stored statuses; with `reachable_execute` that covers every run, failing calls
  included.

  Progress. For the creator, `update_order_status` with the code of a status the table allows
  succeeds exactly when the bucket of that status, once the order's code has left its old one,
  has room (`updateOrderStatus_enabled_iff`): the buckets are the only thing in the storage that
  can stop an order's life.
-/

namespace FissionMall.C2COrder

open Function (update)

variable {T : Config}

/-- The status of each stored order. -/
def statuses (orders : OrderCode T → Option (Order T)) (k : OrderCode T) : Option OrderStatus :=
  (orders k).map Order.status

theorem statuses_update (orders : OrderCode T → Option (Order T)) (k : OrderCode T)
    (o : Option (Order T)) : statuses (update orders k o) = update (statuses orders) k (o.map Order.status) :=
  Function.comp_update (Option.map Order.status) orders k o

/-! ## Status steps -/

theorem statusStep_update {orders : OrderCode T → Option (Order T)} {k₀ : OrderCode T}
    {o : Option (Order T)}
    (h : StatusStep validTransition .pending (statuses orders k₀) (o.map Order.status))
    (k : OrderCode T) :
    StatusStep validTransition .pending (statuses orders k) (statuses (update orders k₀ o) k) := by
  rw [statuses_update]
  by_cases hk : k = k₀
  · subst hk; rwa [Function.update_same]
  · rw [Function.update_noteq hk]; exact .refl _

theorem validTransition_of_cancelable {a : OrderStatus} (h : a = .pending ∨ a = .paid) :
    validTransition a .cancelled = true := by
  rcases h with rfl | rfl <;> rfl

theorem validTransition_of_completable {a : OrderStatus} (h : a = .delivered ∨ a = .notarizing) :
    validTransition a .completed = true := by
  rcases h with rfl | rfl <;> rfl

theorem statusStep_moveStatus {s : State T} {k₀ : OrderCode T} {o : Order T} {new : OrderStatus}
    {now : Nat} {bs : BoundedVec (OrderCode T) 10000} {evs : List (Event T)}
    (ho : s.orders k₀ = some o) (hv : validTransition o.status new = true) (k : OrderCode T) :
    StatusStep validTransition .pending (statuses s.orders k)
      (statuses (s.moveStatus k₀ o new now bs evs).orders k) :=
  statusStep_update (by simp only [statuses, ho, Option.map_some']; exact .inr hv) k

/-- Every successful call makes a status step on every order. -/
theorem dispatch_statusStep {s s' : State T} {origin : Origin T.AccountId} {now : Nat} {c : Call}
    (hs : dispatch origin now c s = .ok () s') (k : OrderCode T) :
    StatusStep validTransition .pending (statuses s.orders k) (statuses s'.orders k) := by
  rw [dispatch_ok] at hs
  cases c with
  | createOrder =>
    obtain ⟨_, _, _, _, _, _, _, _, -, -, hk, -, -, -, -, -, -, -, -, rfl⟩ := createOrder_ok hs
    exact statusStep_update (by simp only [statuses, hk, Option.map_some', Option.map_none']; rfl) k
  | updateOrderStatus =>
    obtain ⟨_, _, _, _, _, -, -, ho, -, -, hv, -, rfl⟩ := updateOrderStatus_ok hs
    exact statusStep_moveStatus ho hv k
  | cancelOrder =>
    obtain ⟨_, _, _, _, -, -, ho, -, h1, -, rfl⟩ := cancelOrder_ok hs
    exact statusStep_moveStatus ho (validTransition_of_cancelable h1) k
  | deleteOrder =>
    obtain ⟨_, _, _, -, -, -, -, rfl⟩ := deleteOrder_ok hs
    exact statusStep_update (by simp only [Option.map_none']; cases statuses s.orders _ <;> trivial) k
  | completeOrder =>
    obtain ⟨_, _, _, _, -, -, ho, -, h1, -, rfl⟩ := completeOrder_ok hs
    exact statusStep_moveStatus ho (validTransition_of_completable h1) k

theorem pathFrom_reachable {s : State T} (h : Reachable step (State.empty T) s) :
    PathFrom validTransition .pending (statuses s.orders) :=
  h.inv (P := fun s => PathFrom validTransition .pending (statuses s.orders)) PathFrom.empty
    fun _ _ _ hp hs => hp.step (dispatch_statusStep hs)

theorem terminal_cancelled (c : OrderStatus) : validTransition .cancelled c = false := by
  cases c <;> rfl

theorem terminal_completed (c : OrderStatus) : validTransition .completed c = false := by
  cases c <;> rfl

/-- A successful call leaves a `Cancelled` or `Completed` order's status as it is. -/
theorem dispatch_terminal {s s' : State T} {origin : Origin T.AccountId} {now : Nat} {c : Call}
    (hs : dispatch origin now c s = .ok () s') {k : OrderCode T} {o o' : Order T}
    (ho : s.orders k = some o) (hterm : o.status = .cancelled ∨ o.status = .completed)
    (ho' : s'.orders k = some o') : o'.status = o.status := by
  have h := dispatch_statusStep hs k
  simp only [statuses, ho, ho', Option.map_some'] at h
  rcases hterm with ht | ht <;> rw [ht] at h ⊢
  · exact h.eq_of_terminal terminal_cancelled
  · exact h.eq_of_terminal terminal_completed

/-! ## Replay of the event log -/

/-- The status whose `#[repr(u8)]` code is `n`. -/
def OrderStatus.ofCode (n : Nat) : Option OrderStatus :=
  [OrderStatus.pending, .paid, .delivered, .notarizing, .cancelled, .completed].find? (·.code == n)

/-- One event read as a change of the status map. -/
def applyEvent (m : OrderCode T → Option OrderStatus) : Event T → OrderCode T → Option OrderStatus
  | .orderCreated k _ => update m k (some .pending)
  | .orderStatusUpdated k n =>
    match OrderStatus.ofCode n.toNat with
    | some S => update m k (some S)
    | none => m
  | .orderCancelled k => update m k (some .cancelled)
  | .orderDeleted k => update m k none
  | .orderCompleted k => update m k (some .completed)
  | .orderNotarizing k => update m k (some .notarizing)

/-- The status map an event log describes, from the empty map. -/
def replay (evs : List (Event T)) : OrderCode T → Option OrderStatus :=
  evs.foldl applyEvent fun _ => none

/-- `update_order_status` decodes its `u8` exactly as the enum's discriminants do. -/
theorem ofCode_of_decodeStatus {st : BitVec 8} {new : OrderStatus} (h : decodeStatus st = some new) :
    OrderStatus.ofCode st.toNat = some new := by
  unfold decodeStatus at h
  split at h <;> cases h <;> simp only [*] <;> rfl

theorem replay_statusEvents (m : OrderCode T → Option OrderStatus) (k : OrderCode T)
    {st : BitVec 8} {new : OrderStatus} (h : decodeStatus st = some new) :
    (statusEvents k st new).foldl applyEvent m = update m k (some new) := by
  have hc := ofCode_of_decodeStatus h
  cases new <;> simp [statusEvents, applyEvent, hc, Function.update_idem]

theorem replay_moveStatus {s : State T} {k : OrderCode T} {o : Order T} {new : OrderStatus}
    {now : Nat} {bs : BoundedVec (OrderCode T) 10000} {evs : List (Event T)}
    (hevs : evs.foldl applyEvent (statuses s.orders) = update (statuses s.orders) k (some new))
    (h : replay s.events = statuses s.orders) :
    replay (s.moveStatus k o new now bs evs).events = statuses (s.moveStatus k o new now bs evs).orders := by
  simp only [State.moveStatus, replay, List.foldl_append] at h ⊢
  rw [h, hevs, statuses_update]
  rfl

/-- Every successful call keeps the log and the stored statuses in agreement. -/
theorem replay_dispatch {s s' : State T} {origin : Origin T.AccountId} {now : Nat} {c : Call}
    (h : replay s.events = statuses s.orders) (hs : dispatch origin now c s = .ok () s') :
    replay s'.events = statuses s'.orders := by
  rw [dispatch_ok] at hs
  cases c with
  | createOrder =>
    obtain ⟨_, _, _, _, _, _, _, _, -, -, -, -, -, -, -, -, -, -, -, rfl⟩ := createOrder_ok hs
    simp only [replay, List.foldl_append] at h ⊢
    rw [h, statuses_update]
    rfl
  | updateOrderStatus =>
    obtain ⟨_, k, _, _, _, -, -, -, -, hn, -, -, rfl⟩ := updateOrderStatus_ok hs
    exact replay_moveStatus (replay_statusEvents _ k hn) h
  | cancelOrder =>
    obtain ⟨_, _, _, _, -, -, -, -, -, -, rfl⟩ := cancelOrder_ok hs
    exact replay_moveStatus rfl h
  | deleteOrder =>
    obtain ⟨_, _, _, -, -, -, -, rfl⟩ := deleteOrder_ok hs
    simp only [replay, List.foldl_append] at h ⊢
    rw [h, statuses_update]
    rfl
  | completeOrder =>
    obtain ⟨_, _, _, _, -, -, -, -, -, -, rfl⟩ := completeOrder_ok hs
    exact replay_moveStatus rfl h

theorem replay_events_reachable {s : State T} (h : Reachable step (State.empty T) s) :
    replay s.events = statuses s.orders :=
  h.inv (P := fun s => replay s.events = statuses s.orders) rfl fun _ _ _ hr hs =>
    replay_dispatch hr hs

/-! ## Progress -/

theorem decodeStatus_code (st : OrderStatus) : decodeStatus (BitVec.ofNat 8 st.code) = some st := by
  cases st <;> rfl

/-- The creator of an order moves it along an edge of the table when the bucket of the new status
has room. -/
theorem updateOrderStatus_enabled {s : State T} (now : Nat) {k : OrderCode T} {o : Order T}
    (ho : s.orders k = some o) {new : OrderStatus} (hv : validTransition o.status new = true)
    {bs : BoundedVec (OrderCode T) 10000}
    (hbs : (s.retainedBucket k o.status new).tryPush k = some bs) :
    dispatch (.signed o.creator) now (.updateOrderStatus k.toList (BitVec.ofNat 8 new.code)) s =
      .ok () (s.moveStatus k o new now bs (statusEvents k (BitVec.ofNat 8 new.code) new)) := by
  simp only [State.retainedBucket] at hbs
  exact dispatch_ok.mpr (by
    simp only [Call.body, updateOrderStatus, validateStatusTransition, retainFromStatus,
      pushToStatus, bind_assoc, ensureSigned_bind, okOr_bind, BoundedVec.tryFrom_toList_self,
      get_bind, ho, ensure_bind, if_true, decodeStatus_code, hv, modify_bind, modify_apply,
      Function.update_same, hbs]
    rfl)

/-- In every storage, the creator moves an order along an edge of the table exactly when the
bucket of the new status, once the order's code has left its old one, has room. -/
theorem updateOrderStatus_enabled_iff (s : State T) (now : Nat) {k : OrderCode T} {o : Order T}
    (ho : s.orders k = some o) {new : OrderStatus} (hv : validTransition o.status new = true) :
    (∃ s', dispatch (.signed o.creator) now
        (.updateOrderStatus k.toList (BitVec.ofNat 8 new.code)) s = .ok () s') ↔
      (s.retainedBucket k o.status new).toList.length < 10000 := by
  constructor
  · rintro ⟨s', hs⟩
    obtain ⟨_, k', o', new', bs, -, hk, ho', -, hd, -, hbs, -⟩ :=
      updateOrderStatus_ok (dispatch_ok.mp hs)
    cases BoundedVec.tryFrom_toList_self k ▸ hk
    rw [ho, Option.some.injEq] at ho'
    subst ho'
    rw [decodeStatus_code, Option.some.injEq] at hd
    subst hd
    exact Nat.lt_of_not_le fun hle => by rw [BoundedVec.tryPush_eq_none.mpr hle] at hbs; cases hbs
  · intro hlt
    exact ⟨_, updateOrderStatus_enabled now ho hv (BoundedVec.tryPush_of_lt _ _ hlt)⟩

end FissionMall.C2COrder
