import FissionMall.C2COrder.Invariant
import FissionMall.C2COrder.Lifecycle

/-
  One account can lock the other accounts out of the pallet, or stop every cancellation for good.
  `OrdersByStatus` keeps one bucket of at most 10000 codes per status, shared by all members and
  institutions, and every order that enters a status is pushed onto its bucket, whoever signs the
  call.

  A full bucket of `Pending` refuses every new order (`createOrder_blocked`). Every other call needs
  a stored order that its signer created, so in a storage whose orders are all `a`'s and whose
  `Pending` bucket is full, every call that `a` does not sign fails (`others_fail`). A full bucket
  of `Cancelled` refuses every order moved there, by `cancel_order` (`cancelOrder_blocked`) or by
  `update_order_status` (`cancelled_of_full`): no successful call makes an order `Cancelled`.
  `CancelPinned a s`: that bucket is full and holds only orders of `a`; only their creator can
  delete them, so every successful call that `a` does not sign keeps it (`CancelPinned.dispatch`).

  The runs. Call `i` of an attack (`attackCall i`) creates an order whose order, member and
  institution codes are all `twoByteCode i`, two bytes that differ for every `i < 65536`. Each call
  then finds its code unused and its member and institution buckets empty (`Fresh a n s`, after `n`
  calls signed by `a`; `Fresh.create` is one more). When the codes may hold two bytes:
  * `one_account_locks_out_others`: by 10000 creations of its own from empty storage, one account
    reaches a storage in which `create_order` fails for every signer and every argument, and from
    which every run of calls that it does not sign leaves the storage as it is.
  * `one_account_stops_cancellation`: by 10000 rounds of its own from empty storage, each creating
    an order and cancelling it (`Fresh.createCancel`), one account reaches a storage from which,
    whatever the other accounts do, no order is ever cancelled again: `cancel_order` fails for every
    signer and every code, and no successful call makes an order `Cancelled`. The bucket of
    `Pending` is empty there, so the other calls go on.
  Its creator can still delete each of these orders (`deleteOrder_enabled`); no other account can.
-/

namespace FissionMall.C2COrder

open Function (update)

variable {T : Config}

/-- Call `i` of the attack. -/
def attackCall (i : Nat) : Call :=
  .createOrder (twoByteCode i) (twoByteCode i) (twoByteCode i) 1 1 1

/-! ## Full buckets -/

/-- A full bucket of `Pending` refuses every new order. -/
theorem createOrder_blocked {s : State T} (h : (s.ordersByStatus .pending).toList.length = 10000)
    (origin : Origin T.AccountId) (now : Nat) (oc mc ic : Bytes) (d : BitVec 8)
    (ta total : BitVec 128) (s' : State T) :
    dispatch origin now (.createOrder oc mc ic d ta total) s ≠ .ok () s' := fun hs => by
  obtain ⟨_, _, _, _, _, _, _, _, -, -, -, -, -, -, -, -, -, -, hbs, -⟩ :=
    createOrder_ok (dispatch_ok.mp hs)
  rw [BoundedVec.tryPush_eq_none.mpr (by omega)] at hbs
  cases hbs

/-- In a storage whose orders are all `a`'s and whose bucket of `Pending` is full, every call that
`a` does not sign fails: creation finds the bucket full, and every other call needs an order its
signer created. -/
theorem others_fail {a : T.AccountId} {s : State T}
    (hcr : ∀ k o, s.orders k = some o → o.creator = a)
    (hp : (s.ordersByStatus .pending).toList.length = 10000) {origin : Origin T.AccountId}
    (hne : origin ≠ .signed a) (now : Nat) (c : Call) (s' : State T) :
    dispatch origin now c s ≠ .ok () s' := fun hs => by
  cases c with
  | createOrder oc mc ic d ta total =>
    exact createOrder_blocked hp origin now oc mc ic d ta total s' hs
  | updateOrderStatus =>
    obtain ⟨who, k, o, -, -, rfl, -, ho, hw, -⟩ := updateOrderStatus_ok (dispatch_ok.mp hs)
    exact hne (by rw [← hw, hcr k o ho])
  | cancelOrder =>
    obtain ⟨who, k, o, -, rfl, -, ho, hw, -⟩ := cancelOrder_ok (dispatch_ok.mp hs)
    exact hne (by rw [← hw, hcr k o ho])
  | deleteOrder =>
    obtain ⟨who, k, o, rfl, -, ho, hw, -⟩ := deleteOrder_ok (dispatch_ok.mp hs)
    exact hne (by rw [← hw, hcr k o ho])
  | completeOrder =>
    obtain ⟨who, k, o, -, rfl, -, ho, hw, -⟩ := completeOrder_ok (dispatch_ok.mp hs)
    exact hne (by rw [← hw, hcr k o ho])

/-- Moving an order that is not `Cancelled` pushes onto the bucket of `Cancelled` as it was. -/
theorem retainedBucket_cancelled (s : State T) (k : OrderCode T) {old : OrderStatus}
    (hold : old ≠ .cancelled) : s.retainedBucket k old .cancelled = s.ordersByStatus .cancelled :=
  Function.update_noteq hold.symm _ _

/-- A full bucket of `Cancelled` refuses every order moved there. -/
theorem tryPush_cancelled_eq_none {s : State T}
    (h : (s.ordersByStatus .cancelled).toList.length = 10000) (k : OrderCode T)
    {old : OrderStatus} (hold : old ≠ .cancelled) :
    (s.retainedBucket k old .cancelled).tryPush k = none := by
  rw [retainedBucket_cancelled s k hold]
  exact BoundedVec.tryPush_eq_none.mpr (by omega)

section Move

variable {s : State T} {k k' : OrderCode T} {o : Order T} {new : OrderStatus} {now : Nat}
  {bs : BoundedVec (OrderCode T) 10000} {evs : List (Event T)}

theorem moveStatus_orders_of_ne (h : k' ≠ k) :
    (s.moveStatus k o new now bs evs).orders k' = s.orders k' :=
  Function.update_noteq h _ _

/-- A move between two statuses other than `Cancelled` leaves the bucket of `Cancelled`. -/
theorem moveStatus_cancelled (hold : o.status ≠ .cancelled) (hnew : new ≠ .cancelled) :
    (s.moveStatus k o new now bs evs).ordersByStatus .cancelled = s.ordersByStatus .cancelled := by
  simp only [State.moveStatus, Function.update_noteq hnew.symm, Function.update_noteq hold.symm]

/-- With the bucket of `Cancelled` full, an order that is not `Cancelled` moves elsewhere. -/
theorem new_ne_cancelled (h : (s.ordersByStatus .cancelled).toList.length = 10000)
    (hold : o.status ≠ .cancelled) (hbs : (s.retainedBucket k o.status new).tryPush k = some bs) :
    new ≠ .cancelled := by
  rintro rfl
  rw [tryPush_cancelled_eq_none h k hold] at hbs
  cases hbs

end Move

/-- A full bucket of `Cancelled` refuses every cancellation. -/
theorem cancelOrder_blocked {s : State T} (h : (s.ordersByStatus .cancelled).toList.length = 10000)
    (origin : Origin T.AccountId) (now : Nat) (oc : Bytes) (s' : State T) :
    dispatch origin now (.cancelOrder oc) s ≠ .ok () s' := fun hs => by
  obtain ⟨_, k, o, _, -, -, -, -, hst, hbs, -⟩ := cancelOrder_ok (dispatch_ok.mp hs)
  exact new_ne_cancelled h (by rcases hst with hp | hp <;> rw [hp] <;> decide) hbs rfl

/-- When the bucket of `Cancelled` is full, no successful call makes an order `Cancelled`. -/
theorem cancelled_of_full {s s' : State T} (h : (s.ordersByStatus .cancelled).toList.length = 10000)
    {origin : Origin T.AccountId} {now : Nat} {c : Call} (hs : dispatch origin now c s = .ok () s')
    {k : OrderCode T} {o' : Order T} (ho' : s'.orders k = some o') (hc : o'.status = .cancelled) :
    ∃ o, s.orders k = some o ∧ o.status = .cancelled := by
  rw [dispatch_ok] at hs
  cases c with
  | createOrder =>
    obtain ⟨_, kc, _, _, _, _, _, _, -, -, -, -, -, -, -, -, -, -, -, rfl⟩ := createOrder_ok hs
    by_cases hk : k = kc
    · subst hk
      simp only [Function.update_same, Option.some.injEq] at ho'
      rw [← ho'] at hc
      cases hc
    · exact ⟨o', (Function.update_noteq hk _ _).symm.trans ho', hc⟩
  | updateOrderStatus =>
    obtain ⟨_, kc, o, new, _, -, -, -, -, -, hv, hbs, rfl⟩ := updateOrderStatus_ok hs
    have hold : o.status ≠ .cancelled := fun he => by rw [he, terminal_cancelled] at hv; cases hv
    by_cases hk : k = kc
    · subst hk
      simp only [State.moveStatus, Function.update_same, Option.some.injEq] at ho'
      rw [← ho'] at hc
      exact absurd hc (new_ne_cancelled h hold hbs)
    · exact ⟨o', (moveStatus_orders_of_ne hk).symm.trans ho', hc⟩
  | cancelOrder => exact absurd (dispatch_ok.mpr hs) (cancelOrder_blocked h _ _ _ _)
  | deleteOrder =>
    obtain ⟨_, kc, _, -, -, -, -, rfl⟩ := deleteOrder_ok hs
    by_cases hk : k = kc
    · subst hk
      simp only [Function.update_same, reduceCtorEq] at ho'
    · exact ⟨o', (Function.update_noteq hk _ _).symm.trans ho', hc⟩
  | completeOrder =>
    obtain ⟨_, kc, _, _, -, -, -, -, -, -, rfl⟩ := completeOrder_ok hs
    by_cases hk : k = kc
    · subst hk
      simp only [State.moveStatus, Function.update_same, Option.some.injEq] at ho'
      rw [← ho'] at hc
      cases hc
    · exact ⟨o', (moveStatus_orders_of_ne hk).symm.trans ho', hc⟩

/-- The creator of a `Pending` or `Paid` order cancels it when the bucket of `Cancelled` has
room. -/
theorem cancelOrder_enabled {s : State T} {k : OrderCode T} {o : Order T} {who : T.AccountId}
    (ho : s.orders k = some o) (hcr : o.creator = who)
    (hst : o.status = .pending ∨ o.status = .paid)
    (now : Nat) {bs : BoundedVec (OrderCode T) 10000}
    (hbs : (s.retainedBucket k o.status .cancelled).tryPush k = some bs) :
    dispatch (.signed who) now (.cancelOrder k.toList) s =
      .ok () (s.moveStatus k o .cancelled now bs [.orderCancelled k]) := by
  subst hcr
  simp only [State.retainedBucket] at hbs
  exact dispatch_ok.mpr (by
    simp only [Call.body, cancelOrder, retainFromStatus, pushToStatus, depositEvent, bind_assoc,
      ensureSigned_bind, okOr_bind, BoundedVec.tryFrom_toList_self, get_bind, ho, hst,
      ensure_bind, if_true, modify_bind, modify_apply, Function.update_same, hbs]
    rfl)

/-! ## Orders of one account in the bucket of `Cancelled` -/

/-- The bucket of `Cancelled` is full, and every code in it is an order of `a`. -/
structure CancelPinned (a : T.AccountId) (s : State T) : Prop where
  full : (s.ordersByStatus .cancelled).toList.length = 10000
  owned : ∀ k ∈ (s.ordersByStatus .cancelled).toList, ∃ o, s.orders k = some o ∧ o.creator = a

section Pinned

variable {a who : T.AccountId} {s s' : State T}

/-- A call that keeps the bucket of `Cancelled`, and every order but one not in it, keeps
`CancelPinned`. -/
theorem CancelPinned.of_frame (h : CancelPinned a s) (kc : OrderCode T)
    (hb : s'.ordersByStatus .cancelled = s.ordersByStatus .cancelled)
    (ho : ∀ k ∈ (s.ordersByStatus .cancelled).toList, k ≠ kc)
    (hs : ∀ k, k ≠ kc → s'.orders k = s.orders k) : CancelPinned a s' :=
  ⟨hb ▸ h.full, fun k hk => by
    rw [hb] at hk
    rw [hs k (ho k hk)]
    exact h.owned k hk⟩

/-- An order of another account is not in the bucket of `Cancelled`, and so, under `Inv`, is not
`Cancelled`. -/
theorem CancelPinned.not_mem (h : CancelPinned a s) {k : OrderCode T} {o : Order T}
    (ho : s.orders k = some o) (hcr : o.creator = who) (hne : who ≠ a) :
    k ∉ (s.ordersByStatus .cancelled).toList := fun hk => by
  obtain ⟨o', ho', hcr'⟩ := h.owned k hk
  rw [ho, Option.some.injEq] at ho'
  exact hne (hcr ▸ ho' ▸ hcr')

theorem CancelPinned.status_ne (h : CancelPinned a s) (hi : Inv s) {k : OrderCode T}
    {o : Order T} (ho : s.orders k = some o) (hcr : o.creator = who) (hne : who ≠ a) :
    o.status ≠ .cancelled := fun hst =>
  h.not_mem ho hcr hne (hst ▸ hi.byStatus.mem ho)

/-- Every successful call that `a` does not sign keeps `CancelPinned a`. -/
theorem CancelPinned.dispatch (h : CancelPinned a s) (hi : Inv s) {origin : Origin T.AccountId}
    (hne : origin ≠ .signed a) {now : Nat} {c : Call} (hs : dispatch origin now c s = .ok () s') :
    CancelPinned a s' := by
  rw [dispatch_ok] at hs
  have hne' : ∀ who, origin = .signed who → who ≠ a := fun who hw he => hne (he ▸ hw)
  cases c with
  | createOrder =>
    obtain ⟨_, kc, _, _, _, _, _, bs, -, -, hk, -, -, -, -, -, -, -, -, rfl⟩ := createOrder_ok hs
    refine h.of_frame kc
      (Function.update_noteq (show OrderStatus.cancelled ≠ .pending by decide) bs _)
      (fun k hk' he => ?_)
      fun k hkc => Function.update_noteq hkc _ _
    obtain ⟨_, ho, -⟩ := h.owned k hk'
    rw [he, hk] at ho
    cases ho
  | updateOrderStatus =>
    obtain ⟨who, kc, o, _, _, hw, -, ho, hcr, -, -, hbs, rfl⟩ := updateOrderStatus_ok hs
    have hold := h.status_ne hi ho hcr (hne' who hw)
    exact h.of_frame kc (moveStatus_cancelled hold (new_ne_cancelled h.full hold hbs))
      (fun k hk he => h.not_mem ho hcr (hne' who hw) (he ▸ hk)) fun _ => moveStatus_orders_of_ne
  | cancelOrder =>
    obtain ⟨who, kc, o, _, hw, -, ho, hcr, -, hbs, -⟩ := cancelOrder_ok hs
    exact absurd rfl (new_ne_cancelled h.full (h.status_ne hi ho hcr (hne' who hw)) hbs)
  | deleteOrder =>
    obtain ⟨who, kc, o, hw, -, ho, hcr, rfl⟩ := deleteOrder_ok hs
    exact h.of_frame kc (Function.update_noteq (h.status_ne hi ho hcr (hne' who hw)).symm _ _)
      (fun k hk he => h.not_mem ho hcr (hne' who hw) (he ▸ hk)) fun k hkc =>
        Function.update_noteq hkc _ _
  | completeOrder =>
    obtain ⟨who, kc, o, _, hw, -, ho, hcr, -, hbs, rfl⟩ := completeOrder_ok hs
    have hold := h.status_ne hi ho hcr (hne' who hw)
    exact h.of_frame kc (moveStatus_cancelled hold (by decide))
      (fun k hk he => h.not_mem ho hcr (hne' who hw) (he ▸ hk)) fun _ => moveStatus_orders_of_ne

end Pinned

/-! ## The attacks -/

/-- After the first `n` calls of an attack, all signed by `a`, every stored order is `a`'s, and the
codes of the later calls are unused and their member and institution buckets empty. -/
structure Fresh (a : T.AccountId) (n : Nat) (s : State T) : Prop where
  creators : ∀ k o, s.orders k = some o → o.creator = a
  orders : ∀ j, n ≤ j → j < 10000 → ∀ k, BoundedVec.tryFrom (twoByteCode j) = some k →
    s.orders k = none
  members : ∀ j, n ≤ j → j < 10000 → ∀ m, BoundedVec.tryFrom (twoByteCode j) = some m →
    (s.userOrders m).toList = []
  institutions : ∀ j, n ≤ j → j < 10000 → ∀ i, BoundedVec.tryFrom (twoByteCode j) = some i →
    (s.institutionOrders i).toList = []

theorem Fresh.empty (a : T.AccountId) : Fresh a 0 (State.empty T) :=
  ⟨nofun, fun _ _ _ _ _ => rfl, fun _ _ _ _ _ => rfl, fun _ _ _ _ _ => rfl⟩

/-- The first attack after `n` calls: the bucket of `Pending` holds `n` codes. -/
structure Attacked (a : T.AccountId) (n : Nat) (s : State T) extends Fresh a n s : Prop where
  pending : (s.ordersByStatus .pending).toList.length = n

section Step

variable (hc : 2 ≤ T.MaxOrderCodeLength) (hm : 2 ≤ T.MaxMemberCodeLength)
  (hi : 2 ≤ T.MaxInstitutionIdLength)
include hc hm hi

/-- Call `n` of an attack, signed by `a`, succeeds after the first `n` while the bucket of
`Pending` has room; it creates a `Pending` order of `a` and pushes its code onto that bucket. -/
theorem Fresh.create {a : T.AccountId} {n : Nat} {s : State T} (h : Fresh a n s) (hn : n < 10000)
    (hp : (s.ordersByStatus .pending).toList.length < 10000) (now : Nat) :
    ∃ s', dispatch (.signed a) now (attackCall n) s = .ok () s' ∧ Fresh a (n + 1) s' ∧
      (s'.ordersByStatus .pending).toList =
        (s.ordersByStatus .pending).toList ++ [⟨twoByteCode n, hc⟩] ∧
      (∀ st, st ≠ .pending → s'.ordersByStatus st = s.ordersByStatus st) ∧
      ∃ o, s'.orders ⟨twoByteCode n, hc⟩ = some o ∧ o.status = .pending ∧ o.creator = a := by
  have hk := tryFrom_twoByteCode hc n
  have hmc := tryFrom_twoByteCode hm n
  have hic := tryFrom_twoByteCode hi n
  have ho := h.orders n le_rfl hn _ hk
  have hbu := (s.userOrders ⟨twoByteCode n, hm⟩).tryPush_of_lt ⟨twoByteCode n, hc⟩
    (by simp [h.members n le_rfl hn _ hmc])
  have hbi := (s.institutionOrders ⟨twoByteCode n, hi⟩).tryPush_of_lt ⟨twoByteCode n, hc⟩
    (by simp [h.institutions n le_rfl hn _ hic])
  have hbs := (s.ordersByStatus .pending).tryPush_of_lt ⟨twoByteCode n, hc⟩ hp
  have hta : (0 : BitVec 128) < 1 := by decide
  have hd : decodeDirection (1 : BitVec 8) = some .userBuy := rfl
  refine ⟨_, dispatch_ok.mpr (by
    simp only [attackCall, Call.body, createOrder, pushToStatus, depositEvent, bind_assoc,
      ensureSigned_bind, okOr_bind, hk, hmc, hic, get_bind, ensure_bind, ho, Option.isNone_none,
      gt_iff_lt, hta, ge_iff_le, le_refl, if_true, hd, modify_bind, modify_apply,
      Function.update_same, hbu, hbi, hbs]
    rfl), ⟨?creators, ?orders, ?members, ?institutions⟩, ?pending,
    fun st hst => Function.update_noteq hst _ _, _, Function.update_same _ _ _, rfl, rfl⟩
  case creators =>
    intro k' o' ho'
    by_cases hk' : k' = ⟨twoByteCode n, hc⟩
    · subst hk'
      simp only [Function.update_same, Option.some.injEq] at ho'
      rw [← ho']
    · exact h.creators k' o' ((Function.update_noteq hk' _ _).symm.trans ho')
  case orders =>
    intro j hj hj' k' hk'
    exact (Function.update_noteq
      (ne_of_twoByteCode (by omega) (by omega) (by omega) hk' hk) _ _).trans
      (h.orders j (by omega) hj' k' hk')
  case members =>
    intro j hj hj' m' hm'
    exact (congrArg BoundedVec.toList (Function.update_noteq
      (ne_of_twoByteCode (by omega) (by omega) (by omega) hm' hmc) _ _)).trans
      (h.members j (by omega) hj' m' hm')
  case institutions =>
    intro j hj hj' i' hi'
    exact (congrArg BoundedVec.toList (Function.update_noteq
      (ne_of_twoByteCode (by omega) (by omega) (by omega) hi' hic) _ _)).trans
      (h.institutions j (by omega) hj' i' hi')
  case pending => simp only [Function.update_same]

/-- Call `n` of the first attack succeeds after the first `n`. -/
theorem Attacked.step {a : T.AccountId} {n : Nat} {s : State T} (h : Attacked a n s)
    (hn : n < 10000) (now : Nat) :
    ∃ s', dispatch (.signed a) now (attackCall n) s = .ok () s' ∧ Attacked a (n + 1) s' := by
  obtain ⟨s', hs, hf, hp, -⟩ := h.create hc hm hi hn (h.pending ▸ hn) now
  exact ⟨s', hs, hf, by rw [hp, List.length_append, h.pending, List.length_singleton]⟩

/-- The first `n ≤ 10000` calls of the first attack, all signed by `a`, all succeed from empty
storage. -/
theorem attack_reachable (a : T.AccountId) :
    ∀ n ≤ 10000, ∃ s, Reachable (fun x : Nat × Call => step (.signed a, x)) (State.empty T) s ∧
      Attacked a n s
  | 0, _ => ⟨_, .init, .empty a, rfl⟩
  | n + 1, hn => by
    obtain ⟨s, hr, h⟩ := attack_reachable a n (by omega)
    obtain ⟨s', hs, h'⟩ := h.step hc hm hi (by omega) 0
    exact ⟨s', .step (0, attackCall n) hr hs, h'⟩

/-- When codes may hold two bytes, one account reaches, by successful calls of its own from empty
storage, a storage in which no account can create an order and every call it does not sign fails:
from there, calls of other accounts leave the storage as it is. -/
theorem one_account_locks_out_others (a : T.AccountId) :
    ∃ s, Reachable (fun x : Nat × Call => step (.signed a, x)) (State.empty T) s ∧
      (∀ origin now oc mc ic d ta total s',
        dispatch origin now (.createOrder oc mc ic d ta total) s ≠ .ok () s') ∧
      ∀ calls : List (Origin T.AccountId × Nat × Call), (∀ x ∈ calls, x.1 ≠ .signed a) →
        execute step s calls = s :=
  let ⟨s, hr, h⟩ := attack_reachable hc hm hi a 10000 le_rfl
  ⟨s, hr, createOrder_blocked h.pending, fun _ hcalls => execute_of_fails
    (fun _ _ _ _ he => dispatch_error he)
    fun x hx => others_fail h.creators h.pending (hcalls x hx) x.2.1 x.2.2⟩

/-- Round `n` of the second attack: `a` creates order `n` and cancels it at once. The bucket of
`Pending` is empty before and after, and the bucket of `Cancelled` grows by one. -/
theorem Fresh.createCancel {a : T.AccountId} {n : Nat} {s : State T} (h : Fresh a n s)
    (hn : n < 10000) (hp : (s.ordersByStatus .pending).toList = [])
    (hcn : (s.ordersByStatus .cancelled).toList.length = n) :
    ∃ s₁ s₂, dispatch (.signed a) 0 (attackCall n) s = .ok () s₁ ∧
      dispatch (.signed a) 0 (.cancelOrder (twoByteCode n)) s₁ = .ok () s₂ ∧ Fresh a (n + 1) s₂ ∧
      (s₂.ordersByStatus .pending).toList = [] ∧
      (s₂.ordersByStatus .cancelled).toList.length = n + 1 := by
  obtain ⟨s₁, hs₁, hf, hpend, hother, o, ho, hst, hcr⟩ :=
    h.create hc hm hi hn (by rw [hp, List.length_nil]; omega) 0
  have hold : o.status ≠ .cancelled := by rw [hst]; decide
  have hret : s₁.retainedBucket ⟨twoByteCode n, hc⟩ o.status .cancelled =
      s.ordersByStatus .cancelled := by
    rw [retainedBucket_cancelled _ _ hold, hother _ (by decide)]
  obtain ⟨bs, hbs⟩ : ∃ bs, (s₁.retainedBucket ⟨twoByteCode n, hc⟩ o.status .cancelled).tryPush
      ⟨twoByteCode n, hc⟩ = some bs :=
    ⟨_, by rw [hret]; exact (s.ordersByStatus .cancelled).tryPush_of_lt _ (by omega)⟩
  refine ⟨s₁, _, hs₁, cancelOrder_enabled ho hcr (.inl hst) 0 hbs,
    ⟨?creators, ?orders, hf.members, hf.institutions⟩, ?pending, ?cancelled⟩
  case creators =>
    intro k' o' ho'
    by_cases hk' : k' = ⟨twoByteCode n, hc⟩
    · subst hk'
      simp only [State.moveStatus, Function.update_same, Option.some.injEq] at ho'
      rw [← ho', ← hcr]
    · exact hf.creators k' o' ((moveStatus_orders_of_ne hk').symm.trans ho')
  case orders =>
    intro j hj hj' k' hk'
    exact (moveStatus_orders_of_ne (ne_of_twoByteCode (by omega) (by omega) (by omega) hk'
      (tryFrom_twoByteCode hc n))).trans (hf.orders j hj hj' k' hk')
  case pending =>
    simp only [State.moveStatus, hst, Function.update_noteq (show OrderStatus.pending ≠ .cancelled
      by decide), Function.update_same, BoundedVec.retain_toList, hpend, hp, List.nil_append,
      List.filter_cons, bne_self_eq_false, List.filter_nil, Bool.false_eq_true, if_false]
  case cancelled =>
    simp only [State.moveStatus, Function.update_same, BoundedVec.tryPush_toList hbs, hret,
      List.length_append, hcn, List.length_singleton]

/-- The first `n ≤ 10000` rounds of the second attack, all signed by `a`, all succeed from empty
storage. -/
theorem cancel_attack_reachable (a : T.AccountId) :
    ∀ n ≤ 10000, ∃ s, Reachable (fun x : Nat × Call => step (.signed a, x)) (State.empty T) s ∧
      Fresh a n s ∧ (s.ordersByStatus .pending).toList = [] ∧
      (s.ordersByStatus .cancelled).toList.length = n
  | 0, _ => ⟨_, .init, .empty a, rfl, rfl⟩
  | n + 1, hn => by
    obtain ⟨s, hr, h, hp, hcn⟩ := cancel_attack_reachable a n (by omega)
    obtain ⟨s₁, s₂, hs₁, hs₂, h', hp', hcn'⟩ := h.createCancel hc hm hi (by omega) hp hcn
    exact ⟨s₂, .step (0, .cancelOrder (twoByteCode n)) (.step (0, attackCall n) hr hs₁) hs₂,
      h', hp', hcn'⟩

/-- When codes may hold two bytes, one account reaches, by successful calls of its own from empty
storage, a storage from which no order is ever cancelled again, whatever the other accounts do:
after any run of calls it does not sign, `cancel_order` fails for every signer and every code, and
no successful call makes an order `Cancelled`. -/
theorem one_account_stops_cancellation (a : T.AccountId) :
    ∃ s, Reachable (fun x : Nat × Call => step (.signed a, x)) (State.empty T) s ∧
      ∀ calls : List (Origin T.AccountId × Nat × Call), (∀ x ∈ calls, x.1 ≠ .signed a) →
        (∀ origin now oc t,
          dispatch origin now (.cancelOrder oc) (execute step s calls) ≠ .ok () t) ∧
        ∀ origin now c t, dispatch origin now c (execute step s calls) = .ok () t →
          ∀ k o', t.orders k = some o' → o'.status = .cancelled →
            ∃ o, (execute step s calls).orders k = some o ∧ o.status = .cancelled := by
  obtain ⟨s, hr, h, -, hcn⟩ := cancel_attack_reachable hc hm hi a 10000 le_rfl
  have hinv : Inv s := hr.inv Inv.empty fun _ _ _ hi hs => hi.dispatch hs
  have hpin : CancelPinned a s := ⟨hcn, fun k hk => by
    obtain ⟨k', o, ho, -, rfl⟩ := hinv.byStatus.sound _ k hk
    exact ⟨o, ho, h.creators k' o ho⟩⟩
  refine ⟨s, hr, fun calls hcalls => ?_⟩
  obtain ⟨-, hpin'⟩ := execute_inv (P := fun t => Inv t ∧ CancelPinned a t)
    (fun _ _ _ _ he => dispatch_error he)
    (fun x _ _ (hx : x.1 ≠ .signed a) hp hs => ⟨hp.1.dispatch hs, hp.2.dispatch hp.1 hx hs⟩)
    ⟨hinv, hpin⟩ hcalls
  exact ⟨cancelOrder_blocked hpin'.full, fun _ _ _ _ hs _ _ => cancelled_of_full hpin'.full hs⟩

end Step

/-- A configuration whose codes hold two bytes, with accounts numbered. -/
abbrev BlockDemo : Config :=
  { AccountId := Nat, MaxOrderCodeLength := 2, MaxMemberCodeLength := 2,
    MaxInstitutionIdLength := 2 }

theorem one_account_locks_out_demo :
    2 ≤ BlockDemo.MaxOrderCodeLength ∧ 2 ≤ BlockDemo.MaxMemberCodeLength ∧
      2 ≤ BlockDemo.MaxInstitutionIdLength ∧
      ∃ s, Reachable (fun x : Nat × Call => step (.signed (0 : Nat), x)) (State.empty BlockDemo) s ∧
        (∀ origin now oc mc ic d ta total s',
          dispatch origin now (.createOrder oc mc ic d ta total) s ≠ .ok () s') ∧
        ∀ calls : List (Origin Nat × Nat × Call), (∀ x ∈ calls, x.1 ≠ .signed 0) →
          execute step s calls = s :=
  ⟨le_rfl, le_rfl, le_rfl, one_account_locks_out_others (T := BlockDemo) le_rfl le_rfl le_rfl 0⟩

theorem one_account_stops_cancellation_demo :
    2 ≤ BlockDemo.MaxOrderCodeLength ∧ 2 ≤ BlockDemo.MaxMemberCodeLength ∧
      2 ≤ BlockDemo.MaxInstitutionIdLength ∧
      ∃ s, Reachable (fun x : Nat × Call => step (.signed (0 : Nat), x)) (State.empty BlockDemo) s ∧
        ∀ calls : List (Origin Nat × Nat × Call), (∀ x ∈ calls, x.1 ≠ .signed 0) →
          (∀ origin now oc t,
            dispatch origin now (.cancelOrder oc) (execute step s calls) ≠ .ok () t) ∧
          ∀ origin now c t, dispatch origin now c (execute step s calls) = .ok () t →
            ∀ k o', t.orders k = some o' → o'.status = .cancelled →
              ∃ o, (execute step s calls).orders k = some o ∧ o.status = .cancelled :=
  ⟨le_rfl, le_rfl, le_rfl,
    one_account_stops_cancellation (T := BlockDemo) le_rfl le_rfl le_rfl 0⟩

end FissionMall.C2COrder
