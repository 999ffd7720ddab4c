import FissionMall.Order.Spec
import FissionMall.Frame.Lifecycle

/-
  The life of an `order` order, seen through its status: every successful call makes a status
  step of `validate_status_transition`'s table (`dispatch_statusStep`; `cancel_order` checks its
  own source set, which the table contains), so every stored status is on a path of the table
  from `Pending`, and `Cancelled` and `Refunded` are never left. `replay` reads the event log
  back into the map of stored statuses (`replay_events_reachable`); `OrderExpressInfoUpdated`
  changes nothing in it.

  The other way round, nothing in the storage stops an order's creator: `update_order_status`
  with the code of a status the table allows succeeds in every storage
  (`updateOrderStatus_enabled`), so the creator moves the order to every status on a path of the
  table from its own, one call per edge, and leaves the other orders as they are
  (`creator_follows_path`).
-/

set_option linter.dupNamespace false

namespace FissionMall.Order

open Function (update)

variable {T : Config}

/-- The status of each stored order. -/
def statuses (orders : OrderCode T → Option (Order T)) (k : OrderCode T) : Option OrderStatus :=
  (orders k).map Order.status

theorem statuses_update (orders : OrderCode T → Option (Order T)) (k : OrderCode T)
    (o : Option (Order T)) :
    statuses (update orders k o) = update (statuses orders) k (o.map Order.status) :=
  Function.comp_update (Option.map Order.status) orders k o

/-! ## Status steps -/

theorem statusStep_update {orders : OrderCode T → Option (Order T)} {k₀ : OrderCode T}
    {o : Option (Order T)}
    (h : StatusStep validTransition .pending (statuses orders k₀) (o.map Order.status))
    (k : OrderCode T) :
    StatusStep validTransition .pending (statuses orders k) (statuses (update orders k₀ o) k) := by
  rw [statuses_update]
  by_cases hk : k = k₀
  · subst hk; rwa [Function.update_same]
  · rw [Function.update_noteq hk]; exact .refl _

theorem validTransition_of_cancelable {a : OrderStatus} (h : a = .pending ∨ a = .paid) :
    validTransition a .cancelled = true := by
  rcases h with rfl | rfl <;> rfl

theorem statusStep_rewriteOrder {s : State T} {k₀ : OrderCode T} {o o' : Order T}
    {evs : List (Event T)} (ho : s.orders k₀ = some o)
    (hv : o'.status = o.status ∨ validTransition o.status o'.status = true) (k : OrderCode T) :
    StatusStep validTransition .pending (statuses s.orders k)
      (statuses (s.rewriteOrder k₀ o' evs).orders k) :=
  statusStep_update (by simp only [statuses, ho, Option.map_some']; exact hv.imp_left Eq.symm) k

/-- Every successful call makes a status step on every order. -/
theorem dispatch_statusStep {s s' : State T} {origin : Origin T.AccountId} {now : Nat} {c : Call}
    (hs : dispatch origin now c s = .ok () s') (k : OrderCode T) :
    StatusStep validTransition .pending (statuses s.orders k) (statuses s'.orders k) := by
  rw [dispatch_ok] at hs
  cases c with
  | createOrder =>
    obtain ⟨_, _, _, _, _, _, -, -, hk, -, -, -, hp, -, -, -, -, -, -, -, rfl⟩ := createOrder_ok hs
    exact statusStep_update (by simp only [statuses, hk, Option.map_some', Option.map_none']; exact hp) k
  | updateOrderStatus =>
    obtain ⟨_, _, _, _, -, -, ho, -, -, hv, rfl⟩ := updateOrderStatus_ok hs
    exact statusStep_rewriteOrder ho (.inr hv) k
  | updateExpressInfo =>
    obtain ⟨_, _, _, _, _, -, -, -, -, ho, -, rfl⟩ := updateExpressInfo_ok hs
    exact statusStep_rewriteOrder ho (.inl (by rfl)) k
  | cancelOrder =>
    obtain ⟨_, _, _, -, -, ho, -, h1, rfl⟩ := cancelOrder_ok hs
    exact statusStep_rewriteOrder ho (.inr (validTransition_of_cancelable h1)) k
  | deleteOrder =>
    obtain ⟨_, _, _, -, -, -, -, rfl⟩ := deleteOrder_ok hs
    exact statusStep_update (by simp only [Option.map_none']; cases statuses s.orders _ <;> trivial) k

theorem pathFrom_reachable {s : State T} (h : Reachable step (State.empty T) s) :
    PathFrom validTransition .pending (statuses s.orders) :=
  h.inv (P := fun s => PathFrom validTransition .pending (statuses s.orders)) PathFrom.empty
    fun _ _ _ hp hs => hp.step (dispatch_statusStep hs)

theorem terminal_cancelled (c : OrderStatus) : validTransition .cancelled c = false := by
  cases c <;> rfl

theorem terminal_refunded (c : OrderStatus) : validTransition .refunded c = false := by
  cases c <;> rfl

/-- A successful call leaves a `Cancelled` or `Refunded` order's status as it is. -/
theorem dispatch_terminal {s s' : State T} {origin : Origin T.AccountId} {now : Nat} {c : Call}
    (hs : dispatch origin now c s = .ok () s') {k : OrderCode T} {o o' : Order T}
    (ho : s.orders k = some o) (hterm : o.status = .cancelled ∨ o.status = .refunded)
    (ho' : s'.orders k = some o') : o'.status = o.status := by
  have h := dispatch_statusStep hs k
  simp only [statuses, ho, ho', Option.map_some'] at h
  rcases hterm with ht | ht <;> rw [ht] at h ⊢
  · exact h.eq_of_terminal terminal_cancelled
  · exact h.eq_of_terminal terminal_refunded

/-! ## Replay of the event log -/

/-- The status whose `#[repr(u8)]` code is `n`. -/
def OrderStatus.ofCode (n : Nat) : Option OrderStatus :=
  [OrderStatus.pending, .paid, .delivered, .cancelled, .completed, .refunded].find? (·.code == n)

/-- One event read as a change of the status map. -/
def applyEvent (m : OrderCode T → Option OrderStatus) : Event T → OrderCode T → Option OrderStatus
  | .orderCreated k _ => update m k (some .pending)
  | .orderStatusUpdated k n =>
    match OrderStatus.ofCode n.toNat with
    | some S => update m k (some S)
    | none => m
  | .orderExpressInfoUpdated _ => m
  | .orderCancelled k => update m k (some .cancelled)
  | .orderDeleted k => update m k none

/-- The status map an event log describes, from the empty map. -/
def replay (evs : List (Event T)) : OrderCode T → Option OrderStatus :=
  evs.foldl applyEvent fun _ => none

/-- `update_order_status` decodes its `u8` exactly as the enum's discriminants do. -/
theorem ofCode_of_decodeStatus {st : BitVec 8} {new : OrderStatus} (h : decodeStatus st = some new) :
    OrderStatus.ofCode st.toNat = some new := by
  unfold decodeStatus at h
  split at h <;> cases h <;> simp only [*] <;> rfl

theorem replay_rewriteOrder {s : State T} {k : OrderCode T} {o' : Order T} {evs : List (Event T)}
    (hevs : evs.foldl applyEvent (statuses s.orders) = update (statuses s.orders) k (some o'.status))
    (h : replay s.events = statuses s.orders) :
    replay (s.rewriteOrder k o' evs).events = statuses (s.rewriteOrder k o' evs).orders := by
  simp only [State.rewriteOrder, replay, List.foldl_append] at h ⊢
  rw [h, hevs, statuses_update]
  rfl

/-- Every successful call keeps the log and the stored statuses in agreement. -/
theorem replay_dispatch {s s' : State T} {origin : Origin T.AccountId} {now : Nat} {c : Call}
    (h : replay s.events = statuses s.orders) (hs : dispatch origin now c s = .ok () s') :
    replay s'.events = statuses s'.orders := by
  rw [dispatch_ok] at hs
  cases c with
  | createOrder =>
    obtain ⟨_, _, o, _, _, _, -, -, -, -, -, -, hp, -, -, -, -, -, -, -, rfl⟩ := createOrder_ok hs
    simp only [replay, List.foldl_append] at h ⊢
    rw [h, statuses_update, Option.map_some', hp]
    rfl
  | updateOrderStatus =>
    obtain ⟨_, _, _, _, -, -, -, -, hn, -, rfl⟩ := updateOrderStatus_ok hs
    exact replay_rewriteOrder (by simp [applyEvent, ofCode_of_decodeStatus hn]) h
  | updateExpressInfo =>
    obtain ⟨_, k, o, _, _, -, -, -, -, ho, -, rfl⟩ := updateExpressInfo_ok hs
    refine replay_rewriteOrder ?_ h
    simp only [List.foldl_cons, List.foldl_nil, applyEvent]
    conv_lhs => rw [← Function.update_eq_self k (statuses s.orders)]
    simp only [statuses, ho, Option.map_some']
  | cancelOrder =>
    obtain ⟨_, _, _, -, -, -, -, -, rfl⟩ := cancelOrder_ok hs
    exact replay_rewriteOrder rfl h
  | deleteOrder =>
    obtain ⟨_, _, _, -, -, -, -, rfl⟩ := deleteOrder_ok hs
    simp only [replay, List.foldl_append] at h ⊢
    rw [h, statuses_update]
    rfl

theorem replay_events_reachable {s : State T} (h : Reachable step (State.empty T) s) :
    replay s.events = statuses s.orders :=
  h.inv (P := fun s => replay s.events = statuses s.orders) rfl fun _ _ _ hr hs =>
    replay_dispatch hr hs

/-! ## Progress -/

theorem decodeStatus_code (st : OrderStatus) : decodeStatus (BitVec.ofNat 8 st.code) = some st := by
  cases st <;> rfl

/-- In every storage, the creator of an order moves it along every edge of the table. -/
theorem updateOrderStatus_enabled (s : State T) (now : Nat) {k : OrderCode T} {o : Order T}
    (ho : s.orders k = some o) {new : OrderStatus} (hv : validTransition o.status new = true) :
    dispatch (.signed o.creator) now (.updateOrderStatus k.toList (BitVec.ofNat 8 new.code)) s =
      .ok () (s.rewriteOrder k { o with status := new, updatedTime := now }
        [.orderStatusUpdated k (BitVec.ofNat 8 new.code)]) :=
  dispatch_ok.mpr (by
    simp only [Call.body, updateOrderStatus, validateStatusTransition, depositEvent, bind_assoc,
      ensureSigned_bind, okOr_bind, BoundedVec.tryFrom_toList_self, get_bind, ho, ensure_bind,
      if_true, decodeStatus_code, hv, modify_bind, modify_apply]
    rfl)

/-- From every storage, the creator of an order reaches, by successful `update_order_status`
calls of its own, a storage in which the order has any status on a path of the table from its
own, with its other fields as they were but the update time, and every other order as it was. -/
theorem creator_follows_path (s : State T) (now : Nat) {k : OrderCode T} {o : Order T}
    (ho : s.orders k = some o) {st : OrderStatus}
    (hp : Relation.ReflTransGen (fun a b => validTransition a b = true) o.status st) :
    ∃ s', Reachable (fun new : OrderStatus => dispatch (.signed o.creator) now
        (.updateOrderStatus k.toList (BitVec.ofNat 8 new.code))) s s' ∧
      (∃ t, s'.orders k = some { o with status := st, updatedTime := t }) ∧
      ∀ k', k' ≠ k → s'.orders k' = s.orders k' := by
  induction hp with
  | refl => exact ⟨s, .init, ⟨o.updatedTime, ho⟩, fun _ _ => rfl⟩
  | @tail b c _ hbc ih =>
    obtain ⟨s', hr, ⟨t, ho'⟩, hframe⟩ := ih
    exact ⟨_, .step c hr (updateOrderStatus_enabled s' now ho' hbc),
      ⟨now, Function.update_same _ _ _⟩, fun k' hk' => (Function.update_noteq hk' _ _).trans
        (hframe k' hk')⟩

end FissionMall.Order
