import FissionMall.Order.Invariant
import FissionMall.Frame.Listing
import FissionMall.Frame.History

/-
  What the calls of `order` do to stored orders, over every run.

  `dispatch_amends`: a successful call changes an order it keeps only in its status, its express
  company and number, and its `updated_time`. The items, the three totals, the codes, the contact
  information, the creator and `created_time` stay as `create_order` wrote them: no call of the
  pallet reprices an order. Every stored order carries the code it is stored under
  (`OrderCodes.reachable`).

  `TimesBefore t s`: every stored order has `created_time ≤ updated_time ≤ t`; along every run
  whose block numbers never decrease, this holds at the run's last block (`TimesBefore.run`).

  The log: `OrderCreated(k, who)` creates `k` for `who`, `OrderDeleted(k)` deletes it, and
  replaying a log gives each stored code with its creator (`creators_replay`). The buckets follow
  the log's order too: `UserOrders` and `InstitutionOrders` list the stored orders of a member and
  of an institution in the order of their `OrderCreated` events (`ListedIn.reachable`). Every event
  names an order, and every successful call deposits one naming the order it writes
  (`dispatch_audited`).

  `Inv.capacity`: 1000 stored orders of a member and 10000 of an institution at most.
  `deleteOrder_enabled`: in every storage, the creator of an order can delete it, whatever its
  status, and the code then leaves `Orders` and both its buckets.
-/

set_option linter.dupNamespace false

namespace FissionMall.Order

open Function (update)

variable {T : Config}

/-! ## Fields fixed at creation -/

/-- `o'` is `o` with at most its status, express information and `updated_time` changed. -/
def Order.Amends (o o' : Order T) : Prop :=
  o' = { o with status := o'.status, updatedTime := o'.updatedTime,
                expressCompany := o'.expressCompany, expressNumber := o'.expressNumber }

theorem Order.Amends.refl (o : Order T) : o.Amends o := rfl

/-- A successful call changes an order it keeps in its status, express information and
`updated_time` only. -/
theorem dispatch_amends {s s' : State T} {origin : Origin T.AccountId} {now : Nat} {c : Call}
    (hs : dispatch origin now c s = .ok () s') : KeptBy Order.Amends s.orders s'.orders := by
  rw [dispatch_ok] at hs
  cases c with
  | createOrder =>
    obtain ⟨_, _, _, _, _, _, -, -, hk, -, -, -, -, -, -, -, -, -, -, -, rfl⟩ := createOrder_ok hs
    exact KeptBy.create Order.Amends.refl hk _
  | updateOrderStatus =>
    obtain ⟨_, _, _, _, -, -, ho, -, -, -, rfl⟩ := updateOrderStatus_ok hs
    exact KeptBy.rewrite Order.Amends.refl ho rfl
  | updateExpressInfo =>
    obtain ⟨_, _, _, _, _, -, -, -, -, ho, -, rfl⟩ := updateExpressInfo_ok hs
    exact KeptBy.rewrite Order.Amends.refl ho rfl
  | cancelOrder =>
    obtain ⟨_, _, _, -, -, ho, -, -, rfl⟩ := cancelOrder_ok hs
    exact KeptBy.rewrite Order.Amends.refl ho rfl
  | deleteOrder =>
    obtain ⟨_, _, _, -, -, -, -, rfl⟩ := deleteOrder_ok hs
    exact KeptBy.erase Order.Amends.refl

/-- Every stored order carries the code it is stored under. -/
def OrderCodes (s : State T) : Prop := StoredAt (fun k o => o.orderCode = k) s.orders

theorem OrderCodes.rewriteOrder {s : State T} {k : OrderCode T} {o o' : Order T}
    {evs : List (Event T)} (h : OrderCodes s) (ho : s.orders k = some o)
    (hk : o'.orderCode = o.orderCode) : OrderCodes (s.rewriteOrder k o' evs) :=
  h.update fun _ hv => by cases hv; exact hk.trans (h k o ho)

theorem OrderCodes.dispatch {s s' : State T} {origin : Origin T.AccountId} {now : Nat} {c : Call}
    (h : OrderCodes s) (hs : dispatch origin now c s = .ok () s') : OrderCodes s' := by
  rw [dispatch_ok] at hs
  cases c with
  | createOrder =>
    obtain ⟨_, _, _, _, _, _, ⟨-, -, -, -, -, -, -, -, -, -, -, -, -, -, rfl⟩, hk, -, -⟩ :=
      createOrder_spec hs
    exact h.update fun _ hv => by cases hv; exact hk
  | updateOrderStatus =>
    obtain ⟨_, _, _, _, -, -, ho, -, -, -, rfl⟩ := updateOrderStatus_ok hs
    exact h.rewriteOrder ho rfl
  | updateExpressInfo =>
    obtain ⟨_, _, _, _, _, -, -, -, -, ho, -, rfl⟩ := updateExpressInfo_ok hs
    exact h.rewriteOrder ho rfl
  | cancelOrder =>
    obtain ⟨_, _, _, -, -, ho, -, -, rfl⟩ := cancelOrder_ok hs
    exact h.rewriteOrder ho rfl
  | deleteOrder =>
    obtain ⟨_, _, _, -, -, -, -, rfl⟩ := deleteOrder_ok hs
    exact h.update fun _ hv => by cases hv

theorem OrderCodes.reachable {s : State T} (h : Reachable step (State.empty T) s) : OrderCodes s :=
  h.inv (fun _ _ h => by cases h) fun _ _ _ hc hs => hc.dispatch hs

/-! ## Creation and update times -/

/-- Every stored order was created no later than it was last updated, and last updated no later
than block `t`. -/
def TimesBefore (t : Nat) (s : State T) : Prop :=
  AllStored (fun o : Order T => o.createdTime ≤ o.updatedTime ∧ o.updatedTime ≤ t) s.orders

theorem TimesBefore.later {t t' : Nat} {s : State T} (h : TimesBefore t s) (ht : t ≤ t') :
    TimesBefore t' s :=
  fun k o ho => ⟨(h k o ho).1, (h k o ho).2.trans ht⟩

/-- A rewrite at block `now` that keeps `created_time` and sets `updated_time` to `now`. -/
theorem TimesBefore.rewriteOrder {t now : Nat} {s : State T} {k : OrderCode T} {o o' : Order T}
    {evs : List (Event T)} (h : TimesBefore t s) (ht : t ≤ now) (ho : s.orders k = some o)
    (hc : o'.createdTime = o.createdTime) (hu : o'.updatedTime = now) :
    TimesBefore now (s.rewriteOrder k o' evs) :=
  (h.later ht).update_some ⟨hc ▸ hu ▸ (h k o ho).1.trans ((h k o ho).2.trans ht), hu ▸ Nat.le_refl now⟩

/-- A successful call at block `now`, from a storage whose times are at most `t ≤ now`, leaves
every order's times ordered and at most `now`. -/
theorem TimesBefore.dispatch {t now : Nat} {s s' : State T} {origin : Origin T.AccountId}
    {c : Call} (h : TimesBefore t s) (ht : t ≤ now) (hs : dispatch origin now c s = .ok () s') :
    TimesBefore now s' := by
  rw [dispatch_ok] at hs
  cases c with
  | createOrder =>
    obtain ⟨_, _, _, _, _, _, ⟨-, -, -, -, -, -, -, -, -, -, -, -, -, -, rfl⟩, -, hc, hu⟩ :=
      createOrder_spec hs
    exact (h.later ht).update_some ⟨hc ▸ hu ▸ Nat.le_refl now, hu ▸ Nat.le_refl now⟩
  | updateOrderStatus =>
    obtain ⟨_, _, _, _, -, -, ho, -, -, -, rfl⟩ := updateOrderStatus_ok hs
    exact h.rewriteOrder ht ho rfl rfl
  | updateExpressInfo =>
    obtain ⟨_, _, _, _, _, -, -, -, -, ho, -, rfl⟩ := updateExpressInfo_ok hs
    exact h.rewriteOrder ht ho rfl rfl
  | cancelOrder =>
    obtain ⟨_, _, _, -, -, ho, -, -, rfl⟩ := cancelOrder_ok hs
    exact h.rewriteOrder ht ho rfl rfl
  | deleteOrder =>
    obtain ⟨_, _, _, -, -, -, -, rfl⟩ := deleteOrder_ok hs
    exact (h.later ht).update_none _

/-- Along a run from empty storage whose block numbers never decrease, every stored order was
created no later than it was last updated, and neither time is past any block `t` at or after
the run's blocks. -/
theorem TimesBefore.run (calls : List (Origin T.AccountId × Nat × Call))
    (hmono : (calls.map fun x => x.2.1).Chain' (· ≤ ·)) {t : Nat} (ht : ∀ x ∈ calls, x.2.1 ≤ t) :
    TimesBefore t (execute step (State.empty T) calls) :=
  execute_timed (fun x => x.2.1) (fun _ _ _ _ h => dispatch_error h)
    (fun _ _ _ ht h => h.later ht) (fun _ _ _ _ h ht hs => h.dispatch ht hs)
    (t := 0) (fun _ _ h => by cases h) (List.Chain'.cons' hmono fun _ _ => Nat.zero_le _)
    (Nat.zero_le t) ht

/-! ## The log of creations and deletions -/

/-- What an event of `order` says of the order it names. -/
def Event.change : Event T → Change (OrderCode T) T.AccountId
  | .orderCreated k who => .created k who
  | .orderDeleted k => .deleted k
  | _ => .other

/-- Every successful call appends the events that turn the creators of the stored orders before
it into those after it. -/
theorem dispatch_log {s s' : State T} {origin : Origin T.AccountId} {now : Nat} {c : Call}
    (hs : dispatch origin now c s = .ok () s') :
    ∃ evs, s'.events = s.events ++ evs ∧
      applyChanges Event.change (creators Order.creator s.orders) evs =
        creators Order.creator s'.orders := by
  rw [dispatch_ok] at hs
  cases c with
  | createOrder =>
    obtain ⟨_, _, _, _, _, _, -, -, -, -, -, -, -, hc, -, -, -, -, -, -, rfl⟩ := createOrder_ok hs
    exact ⟨_, rfl, by rw [creators_update, Option.map_some', hc]; rfl⟩
  | updateOrderStatus =>
    obtain ⟨_, _, _, _, -, -, ho, -, -, -, rfl⟩ := updateOrderStatus_ok hs
    exact ⟨_, rfl, (creators_rewrite _ ho (by rfl)).symm⟩
  | updateExpressInfo =>
    obtain ⟨_, _, _, _, _, -, -, -, -, ho, -, rfl⟩ := updateExpressInfo_ok hs
    exact ⟨_, rfl, (creators_rewrite _ ho (by rfl)).symm⟩
  | cancelOrder =>
    obtain ⟨_, _, _, -, -, ho, -, -, rfl⟩ := cancelOrder_ok hs
    exact ⟨_, rfl, (creators_rewrite _ ho (by rfl)).symm⟩
  | deleteOrder =>
    obtain ⟨_, k, _, -, -, -, -, rfl⟩ := deleteOrder_ok hs
    exact ⟨_, rfl, (creators_update Order.creator s.orders k none).symm⟩

/-- The log of every reachable storage replays to each stored code with its order's creator. -/
theorem creators_replay {s : State T} (h : Reachable step (State.empty T) s) :
    replayChanges Event.change s.events = creators Order.creator s.orders :=
  h.replay rfl fun _ _ _ hs => dispatch_log hs

/-- The order an event names. -/
def Event.key : Event T → OrderCode T
  | .orderCreated k _ | .orderStatusUpdated k _ | .orderExpressInfoUpdated k | .orderCancelled k
  | .orderDeleted k => k

/-- Every successful call writes one order and deposits an event naming it. -/
theorem dispatch_audited {s s' : State T} {origin : Origin T.AccountId} {now : Nat} {c : Call}
    (hs : dispatch origin now c s = .ok () s') : Audited State.orders State.events Event.key s s' := by
  rw [dispatch_ok] at hs
  cases c with
  | createOrder =>
    obtain ⟨_, _, _, _, _, _, -, -, -, -, -, -, -, -, -, -, -, -, -, -, rfl⟩ := createOrder_ok hs
    exact audited_update rfl rfl ⟨_, List.mem_singleton_self _, rfl⟩
  | updateOrderStatus =>
    obtain ⟨_, _, _, _, -, -, -, -, -, -, rfl⟩ := updateOrderStatus_ok hs
    exact audited_update rfl rfl ⟨_, List.mem_singleton_self _, rfl⟩
  | updateExpressInfo =>
    obtain ⟨_, _, _, _, _, -, -, -, -, -, -, rfl⟩ := updateExpressInfo_ok hs
    exact audited_update rfl rfl ⟨_, List.mem_singleton_self _, rfl⟩
  | cancelOrder =>
    obtain ⟨_, _, _, -, -, -, -, -, rfl⟩ := cancelOrder_ok hs
    exact audited_update rfl rfl ⟨_, List.mem_singleton_self _, rfl⟩
  | deleteOrder =>
    obtain ⟨_, _, _, -, -, -, -, rfl⟩ := deleteOrder_ok hs
    exact audited_update rfl rfl ⟨_, List.mem_singleton_self _, rfl⟩

/-! ## Buckets in creation order -/

/-- `UserOrders` and `InstitutionOrders` list the stored orders of each member and institution in
the order of `live`. -/
structure ListedIn (live : List (OrderCode T)) (s : State T) : Prop where
  byMember : ListedBy s.orders (fun _ o => o.memberCode) id (BoundedVec.lists s.userOrders) live
  byInstitution :
    ListedBy s.orders (fun _ o => o.institutionCode) id (BoundedVec.lists s.institutionOrders) live

theorem ListedIn.rewriteOrder {live : List (OrderCode T)} {s : State T} {k : OrderCode T}
    {o o' : Order T} {evs : List (Event T)} (h : ListedIn live s) (ho : s.orders k = some o)
    (hm : o'.memberCode = o.memberCode) (hi : o'.institutionCode = o.institutionCode) :
    ListedIn live (s.rewriteOrder k o' evs) :=
  ⟨h.byMember.modify ho hm, h.byInstitution.modify ho hi⟩

/-- Every successful call appends the events that move the keys the buckets follow. -/
theorem ListedIn.dispatch {live : List (OrderCode T)} {s s' : State T}
    {origin : Origin T.AccountId} {now : Nat} {c : Call} (h : ListedIn live s)
    (hs : dispatch origin now c s = .ok () s') :
    ∃ evs, s'.events = s.events ++ evs ∧ ListedIn (liveKeysFrom Event.change live evs) s' := by
  rw [dispatch_ok] at hs
  cases c with
  | createOrder =>
    obtain ⟨_, _, _, _, _, _, -, -, hk, -, -, -, -, -, -, -, -, -, hbu, hbi, rfl⟩ := createOrder_ok hs
    exact ⟨_, rfl, h.byMember.push hk hbu, h.byInstitution.push hk hbi⟩
  | updateOrderStatus =>
    obtain ⟨_, _, _, _, -, -, ho, -, -, -, rfl⟩ := updateOrderStatus_ok hs
    exact ⟨_, rfl, h.rewriteOrder ho rfl rfl⟩
  | updateExpressInfo =>
    obtain ⟨_, _, _, _, _, -, -, -, -, ho, -, rfl⟩ := updateExpressInfo_ok hs
    exact ⟨_, rfl, h.rewriteOrder ho rfl rfl⟩
  | cancelOrder =>
    obtain ⟨_, _, _, -, -, ho, -, -, rfl⟩ := cancelOrder_ok hs
    exact ⟨_, rfl, h.rewriteOrder ho rfl rfl⟩
  | deleteOrder =>
    obtain ⟨_, _, _, -, -, ho, -, rfl⟩ := deleteOrder_ok hs
    exact ⟨_, rfl, h.byMember.retain (keyedBy_id _) ho, h.byInstitution.retain (keyedBy_id _) ho⟩

/-- In every reachable storage, the buckets list the stored orders of each member and institution
in the order of their creation events, and the log's live codes are the stored codes, once each. -/
theorem ListedIn.reachable {s : State T} (h : Reachable step (State.empty T) s) :
    ListedIn (liveKeys Event.change s.events) s :=
  h.live (P := ListedIn) ⟨.empty, .empty⟩ fun _ _ _ _ hl hs => hl.dispatch hs

/-! ## Capacity -/

/-- The bounded buckets bound the orders stored at once: 1000 of one member and 10000 of one
institution. -/
theorem Inv.capacity {s : State T} (h : Inv s) :
    (∀ m (ks : List (OrderCode T)), ks.Nodup →
      (∀ k ∈ ks, ∃ o, s.orders k = some o ∧ o.memberCode = m) → ks.length ≤ 1000) ∧
    (∀ i (ks : List (OrderCode T)), ks.Nodup →
      (∀ k ∈ ks, ∃ o, s.orders k = some o ∧ o.institutionCode = i) → ks.length ≤ 10000) := by
  refine ⟨fun m ks hnd hks => ?_, fun i ks hnd hks => ?_⟩
  · refine (h.byMember.length_le hnd fun k hk => ?_).trans (s.userOrders m).length_le
    obtain ⟨o, ho, rfl⟩ := hks k hk
    exact ⟨k, o, ho, rfl, rfl⟩
  · refine (h.byInstitution.length_le hnd fun k hk => ?_).trans (s.institutionOrders i).length_le
    obtain ⟨o, ho, rfl⟩ := hks k hk
    exact ⟨k, o, ho, rfl, rfl⟩

/-! ## Deletion is always open to the creator -/

/-- In every storage, the creator of an order can delete it, whatever its status: the code then
leaves `Orders` and both its buckets. -/
theorem deleteOrder_enabled (s : State T) (now : Nat) {k : OrderCode T} {o : Order T}
    (ho : s.orders k = some o) :
    ∃ s', dispatch (.signed o.creator) now (.deleteOrder k.toList) s = .ok () s' ∧
      s'.orders k = none ∧ k ∉ (s'.userOrders o.memberCode).toList ∧
      k ∉ (s'.institutionOrders o.institutionCode).toList := by
  exact ⟨_, dispatch_ok.mpr (by
    simp only [Call.body, deleteOrder, depositEvent, bind_assoc, ensureSigned_bind, okOr_bind,
      BoundedVec.tryFrom_toList_self, get_bind, ho, ensure_bind, if_true, modify_bind,
      modify_apply]
    rfl), by simp [Function.update_same]⟩

end FissionMall.Order
