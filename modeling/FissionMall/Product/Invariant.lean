import FissionMall.Product.Spec
import FissionMall.Frame.Index
import FissionMall.Frame.Ownership

/-
  Two invariants of `product` over every run from empty storage.

  `Inv`: `InstitutionProducts` indexes `Products`, whose key is the pair (product code,
  institution code), by the second half of the key. `create_product` pushes the code of a fresh
  pair, `delete_product` retains it out, and the other four calls rewrite a product in place.

  `PricesValid`: every stored product has `current_price ≤ original_price`. `create_product`
  checks it, and `update_product_info` checks it again on the prices it is about to write.
-/

namespace FissionMall.Product

variable {T : Config}

/-- `InstitutionProducts` indexes `Products` by institution code. -/
structure Inv (s : State T) : Prop where
  byInstitution :
    IndexedBy s.products (fun k _ => k.2) Prod.fst (BoundedVec.lists s.institutionProducts)

theorem Inv.empty : Inv (State.empty T) := ⟨.empty⟩

theorem Inv.rewriteProduct {s : State T} {k : ProductCode T × InstitutionCode T}
    {p p' : ProductInfo T} {evs : List (Event T)} (h : Inv s) (hp : s.products k = some p) :
    Inv (s.rewriteProduct k p' evs) :=
  ⟨h.byInstitution.modify hp rfl⟩

/-- Every successful call keeps the index invariant. -/
theorem Inv.dispatch {s s' : State T} {origin : Origin T.AccountId} {now : Nat} {c : Call}
    (h : Inv s) (hs : dispatch origin now c s = .ok () s') : Inv s' := by
  rw [dispatch_ok] at hs
  cases c with
  | createProduct =>
    obtain ⟨_, _, _, _, _, -, -, -, hk, -, -, -, -, -, -, -, hb, rfl⟩ := createProduct_ok hs
    exact ⟨h.byInstitution.push keyedBy_pair hk hb⟩
  | updateProductInfo =>
    obtain ⟨_, _, _, _, _, -, -, -, hp, -, -, -, -, -, -, -, rfl⟩ := updateProductInfo_ok hs
    exact h.rewriteProduct hp
  | updateProductStatus =>
    obtain ⟨_, _, _, _, _, -, -, -, hp, -, -, rfl⟩ := updateProductStatus_ok hs
    exact h.rewriteProduct hp
  | updateStock =>
    obtain ⟨_, _, _, _, -, -, -, hp, -, rfl⟩ := updateStock_ok hs
    exact h.rewriteProduct hp
  | deleteProduct =>
    obtain ⟨_, _, _, _, -, -, -, hp, -, rfl⟩ := deleteProduct_ok hs
    exact ⟨h.byInstitution.retain keyedBy_pair hp⟩
  | purchaseProduct =>
    obtain ⟨_, _, _, _, -, -, -, hp, -, -, rfl⟩ := purchaseProduct_ok hs
    exact ⟨h.byInstitution.modify hp rfl⟩

theorem Inv.reachable {s : State T} (h : Reachable step (State.empty T) s) : Inv s :=
  h.inv Inv.empty fun _ _ _ hi hs => hi.dispatch hs

/-- Every stored product is priced at most at its original price. -/
def PricesValid (s : State T) : Prop :=
  AllStored (fun p : ProductInfo T => p.currentPrice ≤ p.originalPrice) s.products

theorem PricesValid.dispatch {s s' : State T} {origin : Origin T.AccountId} {now : Nat} {c : Call}
    (h : PricesValid s) (hs : dispatch origin now c s = .ok () s') : PricesValid s' := by
  rw [dispatch_ok] at hs
  cases c with
  | createProduct =>
    obtain ⟨_, _, _, _, _, -, -, -, -, hle, -, ho, hc, -, -, -, -, rfl⟩ := createProduct_ok hs
    exact h.update_some (ho ▸ hc ▸ hle)
  | updateProductInfo =>
    obtain ⟨_, _, _, _, _, -, -, -, -, -, -, -, -, hle, -, -, rfl⟩ := updateProductInfo_ok hs
    exact h.update_some hle
  | updateProductStatus =>
    obtain ⟨_, _, _, p, _, -, -, -, hp, -, -, rfl⟩ := updateProductStatus_ok hs
    exact h.update_some (h _ p hp)
  | updateStock =>
    obtain ⟨_, _, _, p, -, -, -, hp, -, rfl⟩ := updateStock_ok hs
    exact h.update_some (h _ p hp)
  | deleteProduct =>
    obtain ⟨_, _, _, _, -, -, -, -, -, rfl⟩ := deleteProduct_ok hs
    exact h.update_none _
  | purchaseProduct =>
    obtain ⟨_, _, _, p, -, -, -, hp, -, -, rfl⟩ := purchaseProduct_ok hs
    exact h.update_some (h _ p hp)

theorem PricesValid.reachable {s : State T} (h : Reachable step (State.empty T) s) :
    PricesValid s :=
  h.inv AllStored.empty fun _ _ _ hi hs => PricesValid.dispatch hi hs

/-! ## Ownership -/

/-- `p'` is `p` with other stock and sales quantities: the change `purchase_product` makes. -/
def ProductInfo.SameButQuantities (p p' : ProductInfo T) : Prop :=
  p' = { p with stockQuantity := p'.stockQuantity, salesQuantity := p'.salesQuantity }

theorem ProductInfo.SameButQuantities.creator_eq {p p' : ProductInfo T}
    (h : p.SameButQuantities p') : p'.creator = p.creator := by
  unfold ProductInfo.SameButQuantities at h
  rw [h]

end FissionMall.Product
