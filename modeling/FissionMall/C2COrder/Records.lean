import FissionMall.C2COrder.Invariant
import FissionMall.Frame.Listing
import FissionMall.Frame.History

/-
  What the calls of `c2c-order` do to stored orders, over every run.

  `dispatch_amends`: a successful call changes an order it keeps only in its status and its
  `updated_time`; the codes, the direction, the two amounts, the creator and `created_time` stay
  as `create_order` wrote them. `create_order` writes the code it stores the order under into
  `order_code`, so every stored order carries its own key (`OrderCodes.reachable`).

  `TimesBefore t s`: every stored order has `created_time ≤ updated_time ≤ t`. A successful call
  at a block `now ≥ t` leaves `TimesBefore now` (`TimesBefore.dispatch`), so along every run whose
  block numbers never decrease the two times of every order are ordered, and neither is past the
  run's last block (`TimesBefore.run`).

  The log: `OrderCreated(k, who)` is the creation of `k` by `who` and `OrderDeleted(k)` its
  deletion (`Event.change`); every successful call appends the events that turn the creators
  of the orders before it into those after it (`dispatch_log`), so replaying a log gives each
  stored code with its creator (`creators_replay`), and every successful call deposits an event
  naming the order it writes (`dispatch_audited`). `UserOrders` and `InstitutionOrders` list the
  stored orders of a member and of an institution in the order of their `OrderCreated` events
  (`ListedIn.reachable`). A status change retains the code out of its old status bucket and
  pushes it onto the new one, so `OrdersByStatus` lists the orders of each status in the order
  they entered it: `statusEntryOrder` reads that order off the log, each creation and status event
  moving its code to the end (`StatusListed.reachable`).

  `Inv.capacity`: the bounded buckets of `Inv` bound how many orders are stored at once: 1000
  of a member, 10000 of an institution, 10000 in each status, and so 60000 in all.

  `deleteOrder_enabled`: in every storage, the creator of an order can delete it, whatever its
  status; the code then leaves `Orders` and its three buckets.
-/

namespace FissionMall.C2COrder

open Function (update)

variable {T : Config}

/-! ## Fields fixed at creation -/

/-- `o'` is `o` with at most its status and `updated_time` changed. -/
def Order.Amends (o o' : Order T) : Prop :=
  o' = { o with status := o'.status, updatedTime := o'.updatedTime }

theorem Order.Amends.refl (o : Order T) : o.Amends o := rfl

theorem moveStatus_amends {s : State T} {k : OrderCode T} {o : Order T} {new : OrderStatus}
    {now : Nat} {bs : BoundedVec (OrderCode T) 10000} {evs : List (Event T)}
    (ho : s.orders k = some o) : KeptBy Order.Amends s.orders (s.moveStatus k o new now bs evs).orders :=
  KeptBy.rewrite Order.Amends.refl ho rfl

/-- A successful call changes an order it keeps in its status and `updated_time` only. -/
theorem dispatch_amends {s s' : State T} {origin : Origin T.AccountId} {now : Nat} {c : Call}
    (hs : dispatch origin now c s = .ok () s') : KeptBy Order.Amends s.orders s'.orders := by
  rw [dispatch_ok] at hs
  cases c with
  | createOrder =>
    obtain ⟨_, _, _, _, _, _, _, _, -, -, hk, -, -, -, -, -, -, -, -, rfl⟩ := createOrder_ok hs
    exact KeptBy.create Order.Amends.refl hk _
  | updateOrderStatus =>
    obtain ⟨_, _, _, _, _, -, -, ho, -, -, -, -, rfl⟩ := updateOrderStatus_ok hs
    exact moveStatus_amends ho
  | cancelOrder =>
    obtain ⟨_, _, _, _, -, -, ho, -, -, -, rfl⟩ := cancelOrder_ok hs
    exact moveStatus_amends ho
  | deleteOrder =>
    obtain ⟨_, _, _, -, -, -, -, rfl⟩ := deleteOrder_ok hs
    exact KeptBy.erase Order.Amends.refl
  | completeOrder =>
    obtain ⟨_, _, _, _, -, -, ho, -, -, -, rfl⟩ := completeOrder_ok hs
    exact moveStatus_amends ho

/-- Every stored order carries the code it is stored under. -/
def OrderCodes (s : State T) : Prop := StoredAt (fun k o => o.orderCode = k) s.orders

theorem OrderCodes.dispatch {s s' : State T} {origin : Origin T.AccountId} {now : Nat} {c : Call}
    (h : OrderCodes s) (hs : dispatch origin now c s = .ok () s') : OrderCodes s' := by
  rw [dispatch_ok] at hs
  cases c with
  | createOrder =>
    obtain ⟨_, _, _, _, _, _, _, _, -, -, -, -, -, -, -, -, -, -, -, rfl⟩ := createOrder_ok hs
    exact h.update fun _ hv => by cases hv; rfl
  | updateOrderStatus =>
    obtain ⟨_, k, o, _, _, -, -, ho, -, -, -, -, rfl⟩ := updateOrderStatus_ok hs
    exact h.update fun _ hv => by cases hv; exact h k o ho
  | cancelOrder =>
    obtain ⟨_, k, o, _, -, -, ho, -, -, -, rfl⟩ := cancelOrder_ok hs
    exact h.update fun _ hv => by cases hv; exact h k o ho
  | deleteOrder =>
    obtain ⟨_, _, _, -, -, -, -, rfl⟩ := deleteOrder_ok hs
    exact h.update fun _ hv => by cases hv
  | completeOrder =>
    obtain ⟨_, k, o, _, -, -, ho, -, -, -, rfl⟩ := completeOrder_ok hs
    exact h.update fun _ hv => by cases hv; exact h k o ho

theorem OrderCodes.reachable {s : State T} (h : Reachable step (State.empty T) s) : OrderCodes s :=
  h.inv (fun _ _ h => by cases h) fun _ _ _ hc hs => hc.dispatch hs

/-! ## Creation and update times -/

/-- Every stored order was created no later than it was last updated, and last updated no later
than block `t`. -/
def TimesBefore (t : Nat) (s : State T) : Prop :=
  AllStored (fun o : Order T => o.createdTime ≤ o.updatedTime ∧ o.updatedTime ≤ t) s.orders

theorem TimesBefore.later {t t' : Nat} {s : State T} (h : TimesBefore t s) (ht : t ≤ t') :
    TimesBefore t' s :=
  fun k o ho => ⟨(h k o ho).1, (h k o ho).2.trans ht⟩

theorem TimesBefore.moveStatus {t now : Nat} {s : State T} {k : OrderCode T} {o : Order T}
    {new : OrderStatus} {bs : BoundedVec (OrderCode T) 10000} {evs : List (Event T)}
    (h : TimesBefore t s) (ht : t ≤ now) (ho : s.orders k = some o) :
    TimesBefore now (s.moveStatus k o new now bs evs) :=
  (h.later ht).update_some ⟨(h k o ho).1.trans ((h k o ho).2.trans ht), Nat.le_refl now⟩

/-- A successful call at block `now`, from a storage whose times are at most `t ≤ now`, leaves
every order's times ordered and at most `now`. -/
theorem TimesBefore.dispatch {t now : Nat} {s s' : State T} {origin : Origin T.AccountId}
    {c : Call} (h : TimesBefore t s) (ht : t ≤ now) (hs : dispatch origin now c s = .ok () s') :
    TimesBefore now s' := by
  rw [dispatch_ok] at hs
  cases c with
  | createOrder =>
    obtain ⟨_, _, _, _, _, _, _, _, -, -, -, -, -, -, -, -, -, -, -, rfl⟩ := createOrder_ok hs
    exact (h.later ht).update_some ⟨Nat.le_refl now, Nat.le_refl now⟩
  | updateOrderStatus =>
    obtain ⟨_, _, _, _, _, -, -, ho, -, -, -, -, rfl⟩ := updateOrderStatus_ok hs
    exact h.moveStatus ht ho
  | cancelOrder =>
    obtain ⟨_, _, _, _, -, -, ho, -, -, -, rfl⟩ := cancelOrder_ok hs
    exact h.moveStatus ht ho
  | deleteOrder =>
    obtain ⟨_, _, _, -, -, -, -, rfl⟩ := deleteOrder_ok hs
    exact (h.later ht).update_none _
  | completeOrder =>
    obtain ⟨_, _, _, _, -, -, ho, -, -, -, rfl⟩ := completeOrder_ok hs
    exact h.moveStatus ht ho

/-- Along a run from empty storage whose block numbers never decrease, every stored order was
created no later than it was last updated, and neither time is past any block `t` at or after
the run's blocks. -/
theorem TimesBefore.run (calls : List (Origin T.AccountId × Nat × Call))
    (hmono : (calls.map fun x => x.2.1).Chain' (· ≤ ·)) {t : Nat} (ht : ∀ x ∈ calls, x.2.1 ≤ t) :
    TimesBefore t (execute step (State.empty T) calls) :=
  execute_timed (fun x => x.2.1) (fun _ _ _ _ h => dispatch_error h)
    (fun _ _ _ ht h => h.later ht) (fun _ _ _ _ h ht hs => h.dispatch ht hs)
    (t := 0) (fun _ _ h => by cases h) (List.Chain'.cons' hmono fun _ _ => Nat.zero_le _)
    (Nat.zero_le t) ht

/-! ## The log of creations and deletions -/

/-- What an event of `c2c-order` says of the order it names. -/
def Event.change : Event T → Change (OrderCode T) T.AccountId
  | .orderCreated k who => .created k who
  | .orderDeleted k => .deleted k
  | _ => .other

theorem applyChanges_statusEvents (m : OrderCode T → Option T.AccountId) (k : OrderCode T)
    (st : BitVec 8) (new : OrderStatus) : applyChanges Event.change m (statusEvents k st new) = m := by
  cases new <;> rfl

theorem creators_moveStatus {s : State T} {k : OrderCode T} {o : Order T} {new : OrderStatus}
    {now : Nat} {bs : BoundedVec (OrderCode T) 10000} {evs : List (Event T)}
    (ho : s.orders k = some o) :
    creators Order.creator (s.moveStatus k o new now bs evs).orders = creators Order.creator s.orders :=
  creators_rewrite _ ho rfl

/-- Every successful call appends the events that turn the creators of the stored orders before
it into those after it. -/
theorem dispatch_log {s s' : State T} {origin : Origin T.AccountId} {now : Nat} {c : Call}
    (hs : dispatch origin now c s = .ok () s') :
    ∃ evs, s'.events = s.events ++ evs ∧
      applyChanges Event.change (creators Order.creator s.orders) evs =
        creators Order.creator s'.orders := by
  rw [dispatch_ok] at hs
  cases c with
  | createOrder =>
    obtain ⟨_, _, _, _, _, _, _, _, -, -, -, -, -, -, -, -, -, -, -, rfl⟩ := createOrder_ok hs
    exact ⟨_, rfl, by rw [creators_update]; rfl⟩
  | updateOrderStatus =>
    obtain ⟨_, _, _, _, _, -, -, ho, -, -, -, -, rfl⟩ := updateOrderStatus_ok hs
    exact ⟨_, rfl, (applyChanges_statusEvents _ _ _ _).trans (creators_moveStatus ho).symm⟩
  | cancelOrder =>
    obtain ⟨_, _, _, _, -, -, ho, -, -, -, rfl⟩ := cancelOrder_ok hs
    exact ⟨_, rfl, (creators_moveStatus ho).symm⟩
  | deleteOrder =>
    obtain ⟨_, k, _, -, -, -, -, rfl⟩ := deleteOrder_ok hs
    exact ⟨_, rfl, (creators_update Order.creator s.orders k none).symm⟩
  | completeOrder =>
    obtain ⟨_, _, _, _, -, -, ho, -, -, -, rfl⟩ := completeOrder_ok hs
    exact ⟨_, rfl, (creators_moveStatus ho).symm⟩

/-- The log of every reachable storage replays to each stored code with its order's creator. -/
theorem creators_replay {s : State T} (h : Reachable step (State.empty T) s) :
    replayChanges Event.change s.events = creators Order.creator s.orders :=
  h.replay rfl fun _ _ _ hs => dispatch_log hs

/-- The order an event names. -/
def Event.key : Event T → OrderCode T
  | .orderCreated k _ | .orderStatusUpdated k _ | .orderCancelled k | .orderDeleted k
  | .orderCompleted k | .orderNotarizing k => k

/-- Every successful call writes one order and deposits an event naming it. -/
theorem dispatch_audited {s s' : State T} {origin : Origin T.AccountId} {now : Nat} {c : Call}
    (hs : dispatch origin now c s = .ok () s') : Audited State.orders State.events Event.key s s' := by
  rw [dispatch_ok] at hs
  cases c with
  | createOrder =>
    obtain ⟨_, _, _, _, _, _, _, _, -, -, -, -, -, -, -, -, -, -, -, rfl⟩ := createOrder_ok hs
    exact audited_update rfl rfl ⟨_, List.mem_cons_self _ _, rfl⟩
  | updateOrderStatus =>
    obtain ⟨_, _, _, _, _, -, -, -, -, -, -, -, rfl⟩ := updateOrderStatus_ok hs
    exact audited_update rfl rfl ⟨_, List.mem_cons_self _ _, rfl⟩
  | cancelOrder =>
    obtain ⟨_, _, _, _, -, -, -, -, -, -, rfl⟩ := cancelOrder_ok hs
    exact audited_update rfl rfl ⟨_, List.mem_cons_self _ _, rfl⟩
  | deleteOrder =>
    obtain ⟨_, _, _, -, -, -, -, rfl⟩ := deleteOrder_ok hs
    exact audited_update rfl rfl ⟨_, List.mem_cons_self _ _, rfl⟩
  | completeOrder =>
    obtain ⟨_, _, _, _, -, -, -, -, -, -, rfl⟩ := completeOrder_ok hs
    exact audited_update rfl rfl ⟨_, List.mem_cons_self _ _, rfl⟩

/-! ## Buckets in creation order -/

/-- `UserOrders` and `InstitutionOrders` list the stored orders of each member and institution in
the order of `live`. -/
structure ListedIn (live : List (OrderCode T)) (s : State T) : Prop where
  byMember : ListedBy s.orders (fun _ o => o.memberCode) id (BoundedVec.lists s.userOrders) live
  byInstitution :
    ListedBy s.orders (fun _ o => o.institutionCode) id (BoundedVec.lists s.institutionOrders) live

theorem liveKeysFrom_statusEvents (live : List (OrderCode T)) (k : OrderCode T) (st : BitVec 8)
    (new : OrderStatus) : liveKeysFrom Event.change live (statusEvents k st new) = live := by
  cases new <;> rfl

theorem ListedIn.moveStatus {live : List (OrderCode T)} {s : State T} {k : OrderCode T}
    {o : Order T} {new : OrderStatus} {now : Nat} {bs : BoundedVec (OrderCode T) 10000}
    {evs : List (Event T)} (h : ListedIn live s) (ho : s.orders k = some o) :
    ListedIn live (s.moveStatus k o new now bs evs) :=
  ⟨h.byMember.modify ho rfl, h.byInstitution.modify ho rfl⟩

/-- Every successful call appends the events that move the keys the buckets follow. -/
theorem ListedIn.dispatch {live : List (OrderCode T)} {s s' : State T}
    {origin : Origin T.AccountId} {now : Nat} {c : Call} (h : ListedIn live s)
    (hs : dispatch origin now c s = .ok () s') :
    ∃ evs, s'.events = s.events ++ evs ∧ ListedIn (liveKeysFrom Event.change live evs) s' := by
  rw [dispatch_ok] at hs
  cases c with
  | createOrder =>
    obtain ⟨_, _, _, _, _, _, _, _, -, -, hk, -, -, -, -, -, hbu, hbi, -, rfl⟩ := createOrder_ok hs
    exact ⟨_, rfl, h.byMember.push hk hbu, h.byInstitution.push hk hbi⟩
  | updateOrderStatus =>
    obtain ⟨_, _, _, _, _, -, -, ho, -, -, -, -, rfl⟩ := updateOrderStatus_ok hs
    exact ⟨_, rfl, (liveKeysFrom_statusEvents _ _ _ _).symm ▸ h.moveStatus ho⟩
  | cancelOrder =>
    obtain ⟨_, _, _, _, -, -, ho, -, -, -, rfl⟩ := cancelOrder_ok hs
    exact ⟨_, rfl, h.moveStatus ho⟩
  | deleteOrder =>
    obtain ⟨_, _, _, -, -, ho, -, rfl⟩ := deleteOrder_ok hs
    exact ⟨_, rfl, h.byMember.retain (keyedBy_id _) ho, h.byInstitution.retain (keyedBy_id _) ho⟩
  | completeOrder =>
    obtain ⟨_, _, _, _, -, -, ho, -, -, -, rfl⟩ := completeOrder_ok hs
    exact ⟨_, rfl, h.moveStatus ho⟩

/-- In every reachable storage, the member and institution buckets list the stored orders in the
order of their creation events, and the log's live codes are the stored codes, once each. -/
theorem ListedIn.reachable {s : State T} (h : Reachable step (State.empty T) s) :
    ListedIn (liveKeys Event.change s.events) s :=
  h.live (P := ListedIn) ⟨.empty, .empty⟩ fun _ _ _ _ hl hs => hl.dispatch hs

/-! ## Status buckets in the order orders entered their status -/

/-- What an event of `c2c-order` does to the order in which the stored orders entered their
current status: a creation enters `Pending`, a status change takes the order out and enters it
again at the end, and a deletion takes it out. -/
def Event.statusChanges : Event T → List (Change (OrderCode T) Unit)
  | .orderCreated k _ => [.created k ()]
  | .orderStatusUpdated k _ | .orderCancelled k | .orderCompleted k | .orderNotarizing k =>
    [.deleted k, .created k ()]
  | .orderDeleted k => [.deleted k]

/-- The stored codes in the order they entered their current status, as the log records it. -/
def statusEntryOrder (evs : List (Event T)) : List (OrderCode T) :=
  liveKeys id (evs.flatMap Event.statusChanges)

/-- `OrdersByStatus` lists the stored orders of each status in the order of `live`. -/
def StatusListed (live : List (OrderCode T)) (s : State T) : Prop :=
  ListedBy s.orders (fun _ o => o.status) id (BoundedVec.lists s.ordersByStatus) live

/-- The events of `update_order_status` move its code to the end once, or twice in a row when
they name `Completed` or `Notarizing`, which is the same. -/
theorem liveKeysFrom_statusEvents_moves (live : List (OrderCode T)) (k : OrderCode T)
    (st : BitVec 8) (new : OrderStatus) :
    liveKeysFrom id live ((statusEvents k st new).flatMap Event.statusChanges) =
      live.filter (· != k) ++ [k] := by
  cases new <;> simp [statusEvents, Event.statusChanges, liveKeysFrom, Change.applyKeys,
    List.filter_append, List.filter_filter]

/-- Every successful call appends the events that move the codes the status buckets follow. -/
theorem StatusListed.dispatch {live : List (OrderCode T)} {s s' : State T}
    {origin : Origin T.AccountId} {now : Nat} {c : Call} (h : StatusListed live s)
    (hs : dispatch origin now c s = .ok () s') :
    ∃ chs, s'.events.flatMap Event.statusChanges = s.events.flatMap Event.statusChanges ++ chs ∧
      StatusListed (liveKeysFrom id live chs) s' := by
  rw [dispatch_ok] at hs
  cases c with
  | createOrder =>
    obtain ⟨_, _, _, _, _, _, _, _, -, -, hk, -, -, -, -, -, -, -, hbs, rfl⟩ := createOrder_ok hs
    exact ⟨_, List.flatMap_append _ _ _, ListedBy.push h hk hbs⟩
  | updateOrderStatus =>
    obtain ⟨_, _, _, _, _, -, -, ho, -, -, -, hbs, rfl⟩ := updateOrderStatus_ok hs
    refine ⟨_, List.flatMap_append _ _ _, ?_⟩
    rw [liveKeysFrom_statusEvents_moves]
    exact ListedBy.retainPush h (keyedBy_id _) ho _ hbs
  | cancelOrder =>
    obtain ⟨_, _, _, _, -, -, ho, -, -, hbs, rfl⟩ := cancelOrder_ok hs
    exact ⟨_, List.flatMap_append _ _ _, ListedBy.retainPush h (keyedBy_id _) ho _ hbs⟩
  | deleteOrder =>
    obtain ⟨_, _, _, -, -, ho, -, rfl⟩ := deleteOrder_ok hs
    exact ⟨_, List.flatMap_append _ _ _, ListedBy.retain h (keyedBy_id _) ho⟩
  | completeOrder =>
    obtain ⟨_, _, _, _, -, -, ho, -, -, hbs, rfl⟩ := completeOrder_ok hs
    exact ⟨_, List.flatMap_append _ _ _, ListedBy.retainPush h (keyedBy_id _) ho _ hbs⟩

/-- In every reachable storage, each status bucket lists the stored orders of that status in the
order they entered it. -/
theorem StatusListed.reachable {s : State T} (h : Reachable step (State.empty T) s) :
    StatusListed (statusEntryOrder s.events) s :=
  h.live (P := StatusListed) (by exact ListedBy.empty) fun _ _ _ _ hl hs => hl.dispatch hs

/-! ## Capacity -/

theorem OrderStatus.mem_all (S : OrderStatus) :
    S ∈ [OrderStatus.pending, .paid, .delivered, .notarizing, .cancelled, .completed] := by
  cases S <;> simp

/-- The bounded buckets bound the orders stored at once: 1000 of one member, 10000 of one
institution, 10000 in one status, and 60000 in all. -/
theorem Inv.capacity {s : State T} (h : Inv s) :
    (∀ m (ks : List (OrderCode T)), ks.Nodup →
      (∀ k ∈ ks, ∃ o, s.orders k = some o ∧ o.memberCode = m) → ks.length ≤ 1000) ∧
    (∀ i (ks : List (OrderCode T)), ks.Nodup →
      (∀ k ∈ ks, ∃ o, s.orders k = some o ∧ o.institutionCode = i) → ks.length ≤ 10000) ∧
    (∀ S (ks : List (OrderCode T)), ks.Nodup →
      (∀ k ∈ ks, ∃ o, s.orders k = some o ∧ o.status = S) → ks.length ≤ 10000) ∧
    (∀ ks : List (OrderCode T), ks.Nodup → (∀ k ∈ ks, (s.orders k).isSome) → ks.length ≤ 60000) := by
  refine ⟨fun m ks hnd hks => ?_, fun i ks hnd hks => ?_, fun S ks hnd hks => ?_,
    fun ks hnd hks => ?_⟩
  · refine (h.byMember.length_le hnd fun k hk => ?_).trans (s.userOrders m).length_le
    obtain ⟨o, ho, rfl⟩ := hks k hk
    exact ⟨k, o, ho, rfl, rfl⟩
  · refine (h.byInstitution.length_le hnd fun k hk => ?_).trans (s.institutionOrders i).length_le
    obtain ⟨o, ho, rfl⟩ := hks k hk
    exact ⟨k, o, ho, rfl, rfl⟩
  · refine (h.byStatus.length_le hnd fun k hk => ?_).trans (s.ordersByStatus S).length_le
    obtain ⟨o, ho, rfl⟩ := hks k hk
    exact ⟨k, o, ho, rfl, rfl⟩
  · refine (h.byStatus.length_le_mul (fun S => (s.ordersByStatus S).length_le) hnd
      [.pending, .paid, .delivered, .notarizing, .cancelled, .completed] fun k hk => ?_).trans
      (Nat.le_refl _)
    obtain ⟨o, ho⟩ := Option.isSome_iff_exists.mp (hks k hk)
    exact ⟨k, o, ho, OrderStatus.mem_all _, rfl⟩

/-! ## Deletion is always open to the creator -/

/-- In every storage, the creator of an order can delete it, whatever its status: the code then
leaves `Orders` and its three buckets. -/
theorem deleteOrder_enabled (s : State T) (now : Nat) {k : OrderCode T} {o : Order T}
    (ho : s.orders k = some o) :
    ∃ s', dispatch (.signed o.creator) now (.deleteOrder k.toList) s = .ok () s' ∧
      s'.orders k = none ∧ k ∉ (s'.userOrders o.memberCode).toList ∧
      k ∉ (s'.institutionOrders o.institutionCode).toList ∧
      k ∉ (s'.ordersByStatus o.status).toList := by
  exact ⟨_, dispatch_ok.mpr (by
    simp only [Call.body, deleteOrder, retainFromStatus, depositEvent, bind_assoc,
      ensureSigned_bind, okOr_bind, BoundedVec.tryFrom_toList_self, get_bind, ho, ensure_bind,
      if_true, modify_bind, modify_apply]
    rfl), by simp [Function.update_same]⟩

end FissionMall.C2COrder
