import FissionMall.Order.Invariant
import FissionMall.Order.Totals
import FissionMall.C2COrder.Invariant
import FissionMall.C2CToken.Stock
import FissionMall.Product.Invariant
import FissionMall.Product.Stock

/-
  Storage invariants of every state reached from empty storage, each kept by every successful
  call of its pallet from every state that satisfies it.

  `order_product_indexes`: `UserOrders` and `InstitutionOrders` index `order`'s `Orders`, and
  `InstitutionProducts` indexes `Products` (`Order.Inv`, `Product.Inv`).

  `stored_values_valid`: every product has `current_price ≤ original_price`, every `c2c-token`
  token a positive price, and every `c2c-order` order `0 < transaction_amount ≤ total_amount`.
-/

namespace FissionMall

theorem order_product_indexes {T : Order.Config} {U : Product.Config} :
    (∀ (s s' : Order.State T) (origin : Origin T.AccountId) (now : Nat) (c : Order.Call),
      Order.Inv s → Order.dispatch origin now c s = .ok () s' → Order.Inv s') ∧
    (∀ s : Order.State T, Reachable Order.step (Order.State.empty T) s → Order.Inv s) ∧
    (∀ (s s' : Product.State U) (origin : Origin U.AccountId) (now : Nat) (c : Product.Call),
      Product.Inv s → Product.dispatch origin now c s = .ok () s' → Product.Inv s') ∧
    (∀ s : Product.State U, Reachable Product.step (Product.State.empty U) s → Product.Inv s) :=
  ⟨fun _ _ _ _ _ h hs => h.dispatch hs, fun _ h => Order.Inv.reachable h,
    fun _ _ _ _ _ h hs => h.dispatch hs, fun _ h => Product.Inv.reachable h⟩

/-- The creations that open the demonstration runs of `order` and `product` keep the indexes from
empty storage, and the whole runs end in storages where they hold. -/
theorem demo_runs_keep_indexes :
    Order.Inv (execute Order.step (Order.State.empty Order.Demo) (Order.payRun.take 1)) ∧
      Order.Inv (execute Order.step (Order.State.empty Order.Demo) Order.payRun) ∧
      Product.Inv (execute Product.step (Product.State.empty Product.Demo)
        (Product.purchaseRun.take 1)) ∧
      Product.Inv (execute Product.step (Product.State.empty Product.Demo) Product.purchaseRun) :=
  have h := order_product_indexes (T := Order.Demo) (U := Product.Demo)
  ⟨h.1 (Order.State.empty _) _ (.signed 0) 3
      (.createOrder [0] [0] [0] 5 none none none [([1], 3, 7, 2)]) Order.Inv.empty rfl,
    h.2.1 _ (reachable_execute (fun _ _ _ _ he => Order.dispatch_error he) .init _),
    h.2.2.1 (Product.State.empty _) _ (.signed 0) 0
      (.createProduct [0] [0] [] [] [] [] 9 9 [] [] [] 5 1 ⟨0, by decide⟩) Product.Inv.empty rfl,
    h.2.2.2 _ (reachable_execute (fun _ _ _ _ he => Product.dispatch_error he) .init _)⟩

theorem stored_values_valid {T : Product.Config} {U : C2CToken.Config} {V : C2COrder.Config} :
    -- `product`
    (∀ (s s' : Product.State T) (origin : Origin T.AccountId) (now : Nat) (c : Product.Call),
      Product.PricesValid s → Product.dispatch origin now c s = .ok () s' →
        Product.PricesValid s') ∧
    (∀ s : Product.State T, Reachable Product.step (Product.State.empty T) s →
      ∀ k p, s.products k = some p → p.currentPrice ≤ p.originalPrice) ∧
    -- `c2c-token`
    (∀ (s s' : C2CToken.State U) (origin : Origin U.AccountId) (c : C2CToken.Call),
      C2CToken.PriceValid s → C2CToken.dispatch origin c s = .ok () s' →
        C2CToken.PriceValid s') ∧
    (∀ s : C2CToken.State U, Reachable C2CToken.step (C2CToken.State.empty U) s →
      ∀ k t, s.tokens k = some t → 0 < t.price) ∧
    -- `c2c-order`
    (∀ (s s' : C2COrder.State V) (origin : Origin V.AccountId) (now : Nat) (c : C2COrder.Call),
      C2COrder.AmountsValid s → C2COrder.dispatch origin now c s = .ok () s' →
        C2COrder.AmountsValid s') ∧
    (∀ s : C2COrder.State V, Reachable C2COrder.step (C2COrder.State.empty V) s →
      ∀ k o, s.orders k = some o → 0 < o.transactionAmount ∧ o.transactionAmount ≤ o.totalAmount) :=
  ⟨fun _ _ _ _ _ h hs => h.dispatch hs, fun _ h => Product.PricesValid.reachable h,
    fun _ _ _ _ h hs => h.dispatch hs, fun _ h => C2CToken.PriceValid.reachable h,
    fun _ _ _ _ _ h hs => h.dispatch hs, fun _ h => C2COrder.AmountsValid.reachable h⟩

/-- The demonstration runs of `product`, `c2c-token` and `c2c-order`: the creation that opens each
keeps the pallet's invariant from empty storage, and the record it creates is valid at the end
of the run. -/
theorem demo_runs_store_valid_values :
    Product.PricesValid (execute Product.step (Product.State.empty Product.Demo)
        (Product.purchaseRun.take 1)) ∧
      (∃ p, (execute Product.step (Product.State.empty Product.Demo) Product.purchaseRun).products
          (Product.code0, Product.code0) = some p ∧ p.currentPrice ≤ p.originalPrice) ∧
      C2CToken.PriceValid (execute C2CToken.step (C2CToken.State.empty C2CToken.Demo)
        (C2CToken.tradeRun.take 1)) ∧
      (∃ t, (execute C2CToken.step (C2CToken.State.empty C2CToken.Demo) C2CToken.tradeRun).tokens
          (C2CToken.code0, C2CToken.code0) = some t ∧ 0 < t.price) ∧
      C2COrder.AmountsValid (execute C2COrder.step (C2COrder.State.empty C2COrder.Demo)
        (C2COrder.payRun.take 1)) ∧
      ∃ o, (execute C2COrder.step (C2COrder.State.empty C2COrder.Demo) C2COrder.payRun).orders
          C2COrder.code0 = some o ∧ 0 < o.transactionAmount ∧ o.transactionAmount ≤ o.totalAmount :=
  have h := stored_values_valid (T := Product.Demo) (U := C2CToken.Demo) (V := C2COrder.Demo)
  have hp : Reachable Product.step (Product.State.empty Product.Demo)
      (execute Product.step (Product.State.empty Product.Demo) Product.purchaseRun) :=
    reachable_execute (fun _ _ _ _ he => Product.dispatch_error he) .init _
  have ht : Reachable C2CToken.step (C2CToken.State.empty C2CToken.Demo)
      (execute C2CToken.step (C2CToken.State.empty C2CToken.Demo) C2CToken.tradeRun) :=
    reachable_execute (fun _ _ _ _ he => C2CToken.dispatch_error he) .init _
  have ho : Reachable C2COrder.step (C2COrder.State.empty C2COrder.Demo)
      (execute C2COrder.step (C2COrder.State.empty C2COrder.Demo) C2COrder.payRun) :=
    reachable_execute (fun _ _ _ _ he => C2COrder.dispatch_error he) .init _
  ⟨h.1 (Product.State.empty _) _ (.signed 0) 0
      (.createProduct [0] [0] [] [] [] [] 9 9 [] [] [] 5 1 ⟨0, by decide⟩) AllStored.empty rfl,
    ⟨_, rfl, h.2.1 _ hp (Product.code0, Product.code0) _ rfl⟩,
    h.2.2.1 (C2CToken.State.empty _) _ (.signed 0) (.createToken [0] [0] [] [] 1 1 5)
      AllStored.empty rfl,
    ⟨_, rfl, h.2.2.2.1 _ ht (C2CToken.code0, C2CToken.code0) _ rfl⟩,
    h.2.2.2.2.1 (C2COrder.State.empty _) _ (.signed 0) 2 (.createOrder [0] [0] [0] 0 1 1)
      AllStored.empty rfl,
    ⟨_, rfl, h.2.2.2.2.2 _ ho C2COrder.code0 _ rfl⟩⟩

end FissionMall
