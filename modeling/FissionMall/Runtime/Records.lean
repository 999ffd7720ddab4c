import FissionMall.Order.Records
import FissionMall.Order.Totals
import FissionMall.C2COrder.Records
import FissionMall.C2CToken.Records
import FissionMall.C2CToken.Stock
import FissionMall.Product.Records
import FissionMall.Product.Stock
import FissionMall.Institution.Records

/-
  The records of all seven pallets over whole runs.

  `creation_events_replay`: for every run from empty storage, failing calls included, an indexer
  that replays only the creation and deletion events of a pallet's log (`Event.change`) finds
  exactly the stored keys, each with the creator of its record; for
  `institution-payment-method`, whose records keep no creator, exactly the ids with a stored
  record, which is what `has_payment_method` reports.

  `fields_fixed_after_creation`: what no successful call changes of a record it keeps, whoever
  signs it: an order's items, totals, codes and creation time (`order`), an order's codes,
  direction, amounts and creation time (`c2c-order`), a product's member groups, detail images
  and creation date, a token's institution code, an institution's creation date and a profit
  contract once set, and a freight template's area.

  `order_times_ordered`: along every run whose block numbers never decrease, every stored order
  of both order pallets was created no later than it was last updated, and neither time is past
  the run's blocks.

  `records_name_their_key`: in every reachable storage, every order carries its own code, every
  token its own institution code, and every freight template its own area.

  `sales_never_decrease`: a successful call never lowers the sales of a product or a token it
  keeps, and never changes them while the product or token is `Unavailable`.

  `index_buckets_in_log_order`: in every reachable storage, the member and institution buckets
  of both order pallets, and the institution buckets of `product` and `c2c-token`, list the
  stored records of their group in the order of their creation events, and the keys the log
  leaves live are the stored keys, once each (`ListedBy`); the status buckets of `c2c-order`
  list the orders of each status in the order they entered it.

  `order_capacity`, `catalog_capacity`: what the bounded index buckets allow to be stored at
  once: 1000 orders of a member and 10000 of an institution in both order pallets, 10000
  `c2c-order` orders in each status and 60000 in all; 10000 products and 10000 tokens of an
  institution, and 1000 tokens created by one account.

  `creator_can_always_delete`: in every storage, the creator of a stored order, product, token,
  institution or freight template can delete it, whatever its state, and the key then leaves the
  primary map and the index buckets of its record.

  `log_names_changed_records`: over every run, from any storage and failing calls included, every
  key whose record differs between the start and the end of the run is named by an event the run
  deposited (`Audited`), so an indexer that re-reads the records the new events name sees every
  change. `product` is the exception: `purchase_product` lowers a product's stock and deposits no
  event, so the property holds of the runs without purchases.
-/

namespace FissionMall

theorem creation_events_replay {T₁ : Order.Config} {T₂ : C2COrder.Config} {T₃ : C2CToken.Config}
    {T₄ : Product.Config} {T₅ : Institution.Config} {T₆ : FreightTemplate.Config}
    {T₇ : PaymentMethod.Config} :
    (∀ calls : List (Origin T₁.AccountId × Nat × Order.Call),
      replayChanges Order.Event.change (execute Order.step (Order.State.empty T₁) calls).events =
        creators Order.Order.creator (execute Order.step (Order.State.empty T₁) calls).orders) ∧
    (∀ calls : List (Origin T₂.AccountId × Nat × C2COrder.Call),
      replayChanges C2COrder.Event.change
          (execute C2COrder.step (C2COrder.State.empty T₂) calls).events =
        creators C2COrder.Order.creator
          (execute C2COrder.step (C2COrder.State.empty T₂) calls).orders) ∧
    (∀ calls : List (Origin T₃.AccountId × C2CToken.Call),
      replayChanges C2CToken.Event.change
          (execute C2CToken.step (C2CToken.State.empty T₃) calls).events =
        creators C2CToken.TokenInfo.creator
          (execute C2CToken.step (C2CToken.State.empty T₃) calls).tokens) ∧
    (∀ calls : List (Origin T₄.AccountId × Nat × Product.Call),
      replayChanges Product.Event.change
          (execute Product.step (Product.State.empty T₄) calls).events =
        creators Product.ProductInfo.creator
          (execute Product.step (Product.State.empty T₄) calls).products) ∧
    (∀ calls : List (Origin T₅.AccountId × Nat × Institution.Call),
      replayChanges Institution.Event.change
          (execute Institution.step (Institution.State.empty T₅) calls).events =
        creators Institution.InstitutionInfo.creator
          (execute Institution.step (Institution.State.empty T₅) calls).institutions) ∧
    (∀ calls : List (Origin T₆.AccountId × FreightTemplate.Call),
      replayChanges FreightTemplate.Event.change
          (execute FreightTemplate.step (FreightTemplate.State.empty T₆) calls).events =
        creators FreightTemplate.FreightTemplate.creator
          (execute FreightTemplate.step (FreightTemplate.State.empty T₆) calls).freightTemplates) ∧
    (∀ (calls : List (Origin T₇.AccountId × PaymentMethod.Call)) id,
      PaymentMethod.hasPaymentMethod (execute PaymentMethod.step (PaymentMethod.State.empty T₇) calls) id =
        (replayChanges PaymentMethod.Event.change
          (execute PaymentMethod.step (PaymentMethod.State.empty T₇) calls).events id).isSome) :=
  ⟨fun calls => Order.creators_replay
      (reachable_execute (fun _ _ _ _ h => Order.dispatch_error h) .init calls),
    fun calls => C2COrder.creators_replay
      (reachable_execute (fun _ _ _ _ h => C2COrder.dispatch_error h) .init calls),
    fun calls => C2CToken.creators_replay
      (reachable_execute (fun _ _ _ _ h => C2CToken.dispatch_error h) .init calls),
    fun calls => Product.creators_replay
      (reachable_execute (fun _ _ _ _ h => Product.dispatch_error h) .init calls),
    fun calls => Institution.creators_replay
      (reachable_execute (fun _ _ _ _ h => Institution.dispatch_error h) .init calls),
    fun calls => FreightTemplate.creators_replay
      (reachable_execute (fun _ _ _ _ h => FreightTemplate.dispatch_error h) .init calls),
    fun calls => PaymentMethod.hasPaymentMethod_replay
      (reachable_execute (fun _ _ _ _ h => PaymentMethod.dispatch_error h) .init calls)⟩

theorem fields_fixed_after_creation {T₁ : Order.Config} {T₂ : C2COrder.Config}
    {T₃ : Product.Config} {T₄ : C2CToken.Config} {T₅ : Institution.Config}
    {T₆ : FreightTemplate.Config} :
    -- `order`: only the status, the express information and `updated_time` change
    (∀ (s s' : Order.State T₁) (origin : Origin T₁.AccountId) (now : Nat) (c : Order.Call),
      Order.dispatch origin now c s = .ok () s' → KeptBy Order.Order.Amends s.orders s'.orders) ∧
    -- `c2c-order`: only the status and `updated_time` change
    (∀ (s s' : C2COrder.State T₂) (origin : Origin T₂.AccountId) (now : Nat) (c : C2COrder.Call),
      C2COrder.dispatch origin now c s = .ok () s' →
        KeptBy C2COrder.Order.Amends s.orders s'.orders) ∧
    -- `product`
    (∀ (s s' : Product.State T₃) (origin : Origin T₃.AccountId) (now : Nat) (c : Product.Call),
      Product.dispatch origin now c s = .ok () s' →
        KeptBy (fun p p' : Product.ProductInfo T₃ =>
          p'.authorizedMemberGroups = p.authorizedMemberGroups ∧ p'.detailImages = p.detailImages ∧
            p'.createdDate = p.createdDate) s.products s'.products) ∧
    -- `c2c-token`
    (∀ (s s' : C2CToken.State T₄) (origin : Origin T₄.AccountId) (c : C2CToken.Call),
      C2CToken.dispatch origin c s = .ok () s' →
        KeptBy (fun t t' : C2CToken.TokenInfo T₄ => t'.institutionCode = t.institutionCode)
          s.tokens s'.tokens) ∧
    -- `institution`
    (∀ (s s' : Institution.State T₅) (origin : Origin T₅.AccountId) (now : Nat)
      (c : Institution.Call), Institution.dispatch origin now c s = .ok () s' →
        KeptBy (fun i i' : Institution.InstitutionInfo T₅ => i'.createdDate = i.createdDate ∧
          (i.profitContract.isSome → i'.profitContract.isSome)) s.institutions s'.institutions) ∧
    -- `institution-freight-template`: only the three fees change
    (∀ (s s' : FreightTemplate.State T₆) (origin : Origin T₆.AccountId) (c : FreightTemplate.Call),
      FreightTemplate.dispatch origin c s = .ok () s' →
        KeptBy FreightTemplate.FreightTemplate.Amends s.freightTemplates s'.freightTemplates) :=
  ⟨fun _ _ _ _ _ hs => Order.dispatch_amends hs,
    fun _ _ _ _ _ hs => C2COrder.dispatch_amends hs,
    fun _ _ _ _ _ hs => (Product.dispatch_amends hs).mono fun _ _ h =>
      ⟨h.authorizedMemberGroups_eq, h.detailImages_eq, h.createdDate_eq⟩,
    fun _ _ _ _ hs => (C2CToken.dispatch_amends hs).mono fun _ _ h => h.institutionCode_eq,
    fun _ _ _ _ _ hs => (Institution.dispatch_amends hs).mono fun _ _ h =>
      ⟨h.createdDate_eq, h.contract_kept⟩,
    fun _ _ _ _ hs => FreightTemplate.dispatch_amends hs⟩

/-- The second call of each demonstration run rewrites the record the first one created: the
payments of `order` and `c2c-order`, a purchase, a trade, the certification of an institution and
a fee update of a freight template. Each keeps what it must. -/
theorem demo_calls_fix_fields :
    KeptBy Order.Order.Amends
      (execute Order.step (Order.State.empty Order.Demo) (Order.payRun.take 1)).orders
      (execute Order.step (Order.State.empty Order.Demo) Order.payRun).orders ∧
    KeptBy C2COrder.Order.Amends
      (execute C2COrder.step (C2COrder.State.empty C2COrder.Demo) (C2COrder.payRun.take 1)).orders
      (execute C2COrder.step (C2COrder.State.empty C2COrder.Demo) C2COrder.payRun).orders ∧
    KeptBy (fun p p' : Product.ProductInfo Product.Demo =>
        p'.authorizedMemberGroups = p.authorizedMemberGroups ∧ p'.detailImages = p.detailImages ∧
          p'.createdDate = p.createdDate)
      (execute Product.step (Product.State.empty Product.Demo)
        (Product.purchaseRun.take 1)).products
      (execute Product.step (Product.State.empty Product.Demo) Product.purchaseRun).products ∧
    KeptBy (fun t t' : C2CToken.TokenInfo C2CToken.Demo => t'.institutionCode = t.institutionCode)
      (execute C2CToken.step (C2CToken.State.empty C2CToken.Demo) (C2CToken.tradeRun.take 1)).tokens
      (execute C2CToken.step (C2CToken.State.empty C2CToken.Demo) C2CToken.tradeRun).tokens ∧
    KeptBy (fun i i' : Institution.InstitutionInfo Institution.Demo =>
        i'.createdDate = i.createdDate ∧ (i.profitContract.isSome → i'.profitContract.isSome))
      (execute Institution.step (Institution.State.empty Institution.Demo)
        (Institution.certifyRun.take 1)).institutions
      (execute Institution.step (Institution.State.empty Institution.Demo)
        Institution.certifyRun).institutions ∧
    KeptBy FreightTemplate.FreightTemplate.Amends
      (execute FreightTemplate.step (FreightTemplate.State.empty FreightTemplate.Demo)
        (FreightTemplate.updateRun.take 1)).freightTemplates
      (execute FreightTemplate.step (FreightTemplate.State.empty FreightTemplate.Demo)
        FreightTemplate.updateRun).freightTemplates :=
  have h := @fields_fixed_after_creation Order.Demo C2COrder.Demo Product.Demo C2CToken.Demo
    Institution.Demo FreightTemplate.Demo
  ⟨h.1 _ _ (.signed 0) 5 (.updateOrderStatus [0] 1) rfl,
    h.2.1 _ _ (.signed 0) 4 (.updateOrderStatus [0] 1) rfl,
    h.2.2.1 _ _ (.signed 1) 1 (.purchaseProduct [0] [0] 2) rfl,
    h.2.2.2.1 _ _ (.signed 1) (.tradeToken [0] [0] 3) rfl,
    h.2.2.2.2.1 _ _ (.signed 0) 2 (.updateInstitutionStatus [0] 0) rfl,
    h.2.2.2.2.2 _ _ (.signed 0) (.updateFreightTemplate [0] none (some 2) none) rfl⟩

theorem order_times_ordered {T₁ : Order.Config} {T₂ : C2COrder.Config} :
    (∀ calls : List (Origin T₁.AccountId × Nat × Order.Call),
      (calls.map fun x => x.2.1).Chain' (· ≤ ·) → ∀ t, (∀ x ∈ calls, x.2.1 ≤ t) →
        ∀ k o, (execute Order.step (Order.State.empty T₁) calls).orders k = some o →
          o.createdTime ≤ o.updatedTime ∧ o.updatedTime ≤ t) ∧
    (∀ calls : List (Origin T₂.AccountId × Nat × C2COrder.Call),
      (calls.map fun x => x.2.1).Chain' (· ≤ ·) → ∀ t, (∀ x ∈ calls, x.2.1 ≤ t) →
        ∀ k o, (execute C2COrder.step (C2COrder.State.empty T₂) calls).orders k = some o →
          o.createdTime ≤ o.updatedTime ∧ o.updatedTime ≤ t) :=
  ⟨fun calls hmono _ ht => Order.TimesBefore.run calls hmono ht,
    fun calls hmono _ ht => C2COrder.TimesBefore.run calls hmono ht⟩

theorem order_times_two_runs :
    ((Order.payRun.map fun x => x.2.1).Chain' (· ≤ ·) ∧ (∀ x ∈ Order.payRun, x.2.1 ≤ 5) ∧
      ∀ k o, (execute Order.step (Order.State.empty Order.Demo) Order.payRun).orders k =
          some o → o.createdTime ≤ o.updatedTime ∧ o.updatedTime ≤ 5) ∧
    ((C2COrder.payRun.map fun x => x.2.1).Chain' (· ≤ ·) ∧ (∀ x ∈ C2COrder.payRun, x.2.1 ≤ 4) ∧
      ∀ k o, (execute C2COrder.step (C2COrder.State.empty C2COrder.Demo) C2COrder.payRun).orders
          k = some o → o.createdTime ≤ o.updatedTime ∧ o.updatedTime ≤ 4) :=
  have h₁ : (Order.payRun.map fun x => x.2.1).Chain' (· ≤ ·) := by simp [Order.payRun]
  have h₂ : (C2COrder.payRun.map fun x => x.2.1).Chain' (· ≤ ·) := by simp [C2COrder.payRun]
  ⟨⟨h₁, by decide,
      (@order_times_ordered Order.Demo C2COrder.Demo).1 Order.payRun h₁ 5 (by decide)⟩,
    ⟨h₂, by decide,
      (@order_times_ordered Order.Demo C2COrder.Demo).2 C2COrder.payRun h₂ 4 (by decide)⟩⟩

theorem records_name_their_key {T₁ : Order.Config} {T₂ : C2COrder.Config} {T₃ : C2CToken.Config}
    {T₄ : FreightTemplate.Config} :
    (∀ s, Reachable Order.step (Order.State.empty T₁) s →
      ∀ k o, s.orders k = some o → o.orderCode = k) ∧
    (∀ s, Reachable C2COrder.step (C2COrder.State.empty T₂) s →
      ∀ k o, s.orders k = some o → o.orderCode = k) ∧
    (∀ s, Reachable C2CToken.step (C2CToken.State.empty T₃) s →
      ∀ k t, s.tokens k = some t → t.institutionCode = k.2) ∧
    (∀ s, Reachable FreightTemplate.step (FreightTemplate.State.empty T₄) s →
      ∀ k t, s.freightTemplates k = some t → t.area = k) :=
  ⟨fun _ h => Order.OrderCodes.reachable h, fun _ h => C2COrder.OrderCodes.reachable h,
    fun _ h => C2CToken.InstitutionCodes.reachable h, fun _ h => FreightTemplate.Areas.reachable h⟩

theorem sales_never_decrease {T₁ : Product.Config} {T₂ : C2CToken.Config} :
    (∀ (s s' : Product.State T₁) (origin : Origin T₁.AccountId) (now : Nat) (c : Product.Call),
      Product.dispatch origin now c s = .ok () s' →
        KeptBy (fun p p' : Product.ProductInfo T₁ => p.salesQuantity ≤ p'.salesQuantity ∧
          (p.status = .unavailable → p'.salesQuantity = p.salesQuantity)) s.products s'.products) ∧
    (∀ (s s' : C2CToken.State T₂) (origin : Origin T₂.AccountId) (c : C2CToken.Call),
      C2CToken.dispatch origin c s = .ok () s' →
        KeptBy (fun t t' : C2CToken.TokenInfo T₂ => t.salesQuantity ≤ t'.salesQuantity ∧
          (t.status = .unavailable → t'.salesQuantity = t.salesQuantity)) s.tokens s'.tokens) :=
  ⟨fun _ _ _ _ _ hs => (Product.dispatch_amends hs).mono fun _ _ h => ⟨h.sales_le, h.sales_frozen⟩,
    fun _ _ _ _ hs => (C2CToken.dispatch_amends hs).mono fun _ _ h => ⟨h.sales_le, h.sales_frozen⟩⟩

/-- The purchase of `purchaseRun` raises the sales of the product it buys, and the trade of
`tradeRun` keeps those of its `Buy` token; neither lowers any. -/
theorem demo_trades_keep_sales :
    KeptBy (fun p p' : Product.ProductInfo Product.Demo => p.salesQuantity ≤ p'.salesQuantity ∧
        (p.status = .unavailable → p'.salesQuantity = p.salesQuantity))
      (execute Product.step (Product.State.empty Product.Demo)
        (Product.purchaseRun.take 1)).products
      (execute Product.step (Product.State.empty Product.Demo) Product.purchaseRun).products ∧
    KeptBy (fun t t' : C2CToken.TokenInfo C2CToken.Demo => t.salesQuantity ≤ t'.salesQuantity ∧
        (t.status = .unavailable → t'.salesQuantity = t.salesQuantity))
      (execute C2CToken.step (C2CToken.State.empty C2CToken.Demo) (C2CToken.tradeRun.take 1)).tokens
      (execute C2CToken.step (C2CToken.State.empty C2CToken.Demo) C2CToken.tradeRun).tokens :=
  have h := @sales_never_decrease Product.Demo C2CToken.Demo
  ⟨h.1 _ _ (.signed 1) 1 (.purchaseProduct [0] [0] 2) rfl,
    h.2 _ _ (.signed 1) (.tradeToken [0] [0] 3) rfl⟩

theorem index_buckets_in_log_order {T₁ : Order.Config} {T₂ : C2COrder.Config}
    {T₃ : Product.Config} {T₄ : C2CToken.Config} :
    (∀ s, Reachable Order.step (Order.State.empty T₁) s →
      ListedBy s.orders (fun _ o => o.memberCode) id (BoundedVec.lists s.userOrders)
          (liveKeys Order.Event.change s.events) ∧
        ListedBy s.orders (fun _ o => o.institutionCode) id (BoundedVec.lists s.institutionOrders)
          (liveKeys Order.Event.change s.events)) ∧
    (∀ s, Reachable C2COrder.step (C2COrder.State.empty T₂) s →
      ListedBy s.orders (fun _ o => o.memberCode) id (BoundedVec.lists s.userOrders)
          (liveKeys C2COrder.Event.change s.events) ∧
        ListedBy s.orders (fun _ o => o.institutionCode) id (BoundedVec.lists s.institutionOrders)
          (liveKeys C2COrder.Event.change s.events) ∧
        ListedBy s.orders (fun _ o => o.status) id (BoundedVec.lists s.ordersByStatus)
          (C2COrder.statusEntryOrder s.events)) ∧
    (∀ s, Reachable Product.step (Product.State.empty T₃) s →
      ListedBy s.products (fun k _ => k.2) Prod.fst (BoundedVec.lists s.institutionProducts)
        (liveKeys Product.Event.change s.events)) ∧
    (∀ s, Reachable C2CToken.step (C2CToken.State.empty T₄) s →
      ListedBy s.tokens (fun k _ => k.2) Prod.fst (BoundedVec.lists s.institutionTokens)
        (liveKeys C2CToken.Event.change s.events)) :=
  ⟨fun _ h => ⟨(Order.ListedIn.reachable h).byMember, (Order.ListedIn.reachable h).byInstitution⟩,
    fun _ h => ⟨(C2COrder.ListedIn.reachable h).byMember,
      (C2COrder.ListedIn.reachable h).byInstitution, C2COrder.StatusListed.reachable h⟩,
    fun _ h => (Product.ListedIn.reachable h).byInstitution,
    fun _ h => (C2CToken.ListedIn.reachable h).byInstitution⟩

theorem order_capacity {T₁ : Order.Config} {T₂ : C2COrder.Config} :
    (∀ s, Reachable Order.step (Order.State.empty T₁) s →
      (∀ m (ks : List (Order.OrderCode T₁)), ks.Nodup →
        (∀ k ∈ ks, ∃ o, s.orders k = some o ∧ o.memberCode = m) → ks.length ≤ 1000) ∧
      (∀ i (ks : List (Order.OrderCode T₁)), ks.Nodup →
        (∀ k ∈ ks, ∃ o, s.orders k = some o ∧ o.institutionCode = i) → ks.length ≤ 10000)) ∧
    (∀ s, Reachable C2COrder.step (C2COrder.State.empty T₂) s →
      (∀ m (ks : List (C2COrder.OrderCode T₂)), ks.Nodup →
        (∀ k ∈ ks, ∃ o, s.orders k = some o ∧ o.memberCode = m) → ks.length ≤ 1000) ∧
      (∀ i (ks : List (C2COrder.OrderCode T₂)), ks.Nodup →
        (∀ k ∈ ks, ∃ o, s.orders k = some o ∧ o.institutionCode = i) → ks.length ≤ 10000) ∧
      (∀ S (ks : List (C2COrder.OrderCode T₂)), ks.Nodup →
        (∀ k ∈ ks, ∃ o, s.orders k = some o ∧ o.status = S) → ks.length ≤ 10000) ∧
      (∀ ks : List (C2COrder.OrderCode T₂), ks.Nodup → (∀ k ∈ ks, (s.orders k).isSome) →
        ks.length ≤ 60000)) :=
  ⟨fun _ h => (Order.Inv.reachable h).capacity, fun _ h => (C2COrder.Inv.reachable h).capacity⟩

theorem catalog_capacity {T₁ : Product.Config} {T₂ : C2CToken.Config} :
    (∀ s, Reachable Product.step (Product.State.empty T₁) s →
      ∀ i (cs : List (Product.ProductCode T₁)), cs.Nodup → (∀ c ∈ cs, (s.products (c, i)).isSome) →
        cs.length ≤ 10000) ∧
    (∀ s, Reachable C2CToken.step (C2CToken.State.empty T₂) s →
      (∀ i (cs : List (C2CToken.TokenCode T₂)), cs.Nodup → (∀ c ∈ cs, (s.tokens (c, i)).isSome) →
        cs.length ≤ 10000) ∧
      (∀ a (ks : List (C2CToken.TokenCode T₂ × C2CToken.InstitutionCode T₂)), ks.Nodup →
        (∀ k ∈ ks, ∃ t, s.tokens k = some t ∧ t.creator = a) → ks.length ≤ 1000)) :=
  ⟨fun _ h => (Product.Inv.reachable h).capacity,
    fun _ h => C2CToken.capacity (C2CToken.Inv.reachable h) (C2CToken.HeldByCreator.reachable h)⟩

theorem creator_can_always_delete {T₁ : Order.Config} {T₂ : C2COrder.Config}
    {T₃ : Product.Config} {T₄ : C2CToken.Config} {T₅ : Institution.Config}
    {T₆ : FreightTemplate.Config} :
    (∀ (s : Order.State T₁) (now : Nat) k o, s.orders k = some o →
      ∃ s', Order.dispatch (.signed o.creator) now (.deleteOrder k.toList) s = .ok () s' ∧
        s'.orders k = none ∧ k ∉ (s'.userOrders o.memberCode).toList ∧
        k ∉ (s'.institutionOrders o.institutionCode).toList) ∧
    (∀ (s : C2COrder.State T₂) (now : Nat) k o, s.orders k = some o →
      ∃ s', C2COrder.dispatch (.signed o.creator) now (.deleteOrder k.toList) s = .ok () s' ∧
        s'.orders k = none ∧ k ∉ (s'.userOrders o.memberCode).toList ∧
        k ∉ (s'.institutionOrders o.institutionCode).toList ∧
        k ∉ (s'.ordersByStatus o.status).toList) ∧
    (∀ (s : Product.State T₃) (now : Nat) k p, s.products k = some p →
      ∃ s', Product.dispatch (.signed p.creator) now (.deleteProduct k.1.toList k.2.toList) s =
          .ok () s' ∧ s'.products k = none ∧ k.1 ∉ (s'.institutionProducts k.2).toList) ∧
    (∀ (s : C2CToken.State T₄) k t, s.tokens k = some t →
      ∃ s', C2CToken.dispatch (.signed t.creator) (.deleteToken k.1.toList k.2.toList) s =
          .ok () s' ∧ s'.tokens k = none ∧ k.1 ∉ (s'.institutionTokens k.2).toList ∧
        k ∉ (s'.userTokens t.creator).toList) ∧
    (∀ (s : Institution.State T₅) (now : Nat) k i, s.institutions k = some i →
      ∃ s', Institution.dispatch (.signed i.creator) now (.deleteInstitution k.toList) s =
          .ok () s' ∧ s'.institutions k = none) ∧
    (∀ (s : FreightTemplate.State T₆) k t, s.freightTemplates k = some t →
      ∃ s', FreightTemplate.dispatch (.signed t.creator) (.deleteFreightTemplate k.toList) s =
          .ok () s' ∧ s'.freightTemplates k = none) :=
  ⟨fun s now _ _ ho => Order.deleteOrder_enabled s now ho,
    fun s now _ _ ho => C2COrder.deleteOrder_enabled s now ho,
    fun s now _ _ hp => Product.deleteProduct_enabled s now hp,
    fun s _ _ ht => C2CToken.deleteToken_enabled s ht,
    fun s now _ _ hi => Institution.deleteInstitution_enabled s now hi,
    fun s _ _ ht => FreightTemplate.deleteFreightTemplate_enabled s ht⟩

/-- Every record a run changes is named by an event the run deposits, in every pallet, except for
the purchases of `product`, which change stock with no event. -/
theorem log_names_changed_records {T₁ : Order.Config} {T₂ : C2COrder.Config}
    {T₃ : C2CToken.Config} {T₄ : Product.Config} {T₅ : Institution.Config}
    {T₆ : FreightTemplate.Config} {T₇ : PaymentMethod.Config} :
    (∀ (s : Order.State T₁) calls,
      Audited Order.State.orders Order.State.events Order.Event.key s
        (execute Order.step s calls)) ∧
    (∀ (s : C2COrder.State T₂) calls,
      Audited C2COrder.State.orders C2COrder.State.events C2COrder.Event.key s
        (execute C2COrder.step s calls)) ∧
    (∀ (s : C2CToken.State T₃) calls,
      Audited C2CToken.State.tokens C2CToken.State.events C2CToken.Event.key s
        (execute C2CToken.step s calls)) ∧
    (∀ (s : Product.State T₄) (calls : List (Origin T₄.AccountId × Nat × Product.Call)),
      (∀ x ∈ calls, ∀ pc ic q, x.2.2 ≠ .purchaseProduct pc ic q) →
      Audited Product.State.products Product.State.events Product.Event.key s
        (execute Product.step s calls)) ∧
    (∀ (origin : Origin T₄.AccountId) (now : Nat) (pc ic : Bytes) (q : BitVec 32)
      (s s' : Product.State T₄), q ≠ 0 →
      Product.dispatch origin now (.purchaseProduct pc ic q) s = .ok () s' →
      s'.events = s.events ∧ s'.products ≠ s.products) ∧
    (∀ (s : Institution.State T₅) calls,
      Audited Institution.State.institutions Institution.State.events Institution.Event.key s
        (execute Institution.step s calls)) ∧
    (∀ (s : FreightTemplate.State T₆) calls,
      Audited FreightTemplate.State.freightTemplates FreightTemplate.State.events
        FreightTemplate.Event.key s (execute FreightTemplate.step s calls)) ∧
    (∀ (s : PaymentMethod.State T₇) calls,
      Audited PaymentMethod.State.paymentMethods PaymentMethod.State.events
        PaymentMethod.Event.key s (execute PaymentMethod.step s calls)) :=
  ⟨fun s _ => execute_audited (fun _ _ _ _ h => Order.dispatch_error h)
      (fun _ _ _ _ h => Order.dispatch_audited h) s fun _ _ => trivial,
    fun s _ => execute_audited (fun _ _ _ _ h => C2COrder.dispatch_error h)
      (fun _ _ _ _ h => C2COrder.dispatch_audited h) s fun _ _ => trivial,
    fun s _ => execute_audited (fun _ _ _ _ h => C2CToken.dispatch_error h)
      (fun _ _ _ _ h => C2CToken.dispatch_audited h) s fun _ _ => trivial,
    fun s _ hc => execute_audited (fun _ _ _ _ h => Product.dispatch_error h)
      (fun x _ _ ha (h : Product.step x _ = _) => Product.dispatch_audited ha h) s hc,
    fun _ _ _ _ _ _ _ hq h => Product.dispatch_purchase_silent hq h,
    fun s _ => execute_audited (fun _ _ _ _ h => Institution.dispatch_error h)
      (fun _ _ _ _ h => Institution.dispatch_audited h) s fun _ _ => trivial,
    fun s _ => execute_audited (fun _ _ _ _ h => FreightTemplate.dispatch_error h)
      (fun _ _ _ _ h => FreightTemplate.dispatch_audited h) s fun _ _ => trivial,
    fun s _ => execute_audited (fun _ _ _ _ h => PaymentMethod.dispatch_error h)
      (fun _ _ _ _ h => PaymentMethod.dispatch_audited h) s fun _ _ => trivial⟩

end FissionMall
