import Mathlib.Algebra.Order.Ring.Nat
import Mathlib.Algebra.BigOperators.Group.List
import FissionMall.Product.Spec
import FissionMall.Frame.History

/-
  Stock and sales of a product along a run. `create_product` sets `stock_quantity` and no
  `sales_quantity`; `purchase_product` checks `stock_quantity >= quantity` and moves the quantity
  with `saturating_sub` and `saturating_add`; `update_stock` overwrites the stock; no other call
  changes either field. `StockStep` says so for one product and one successful call
  (`dispatch_stockStep`).

  `stockLedger k hs` reads the successful calls `hs` of a run for product `k`: the stock its most
  recent creation set and the quantities purchased since, unless `update_stock` has succeeded on
  it since. In every state of every run from empty storage the product holds what its ledger says
  (`purchases_conserve_stock`). The auxiliary invariant `stock + sales ≤ u32::MAX` (`Conserves.fits`)
  is what keeps the `saturating_add` on the sales exact.
-/

namespace FissionMall.Product

open Function (update)

variable {T : Config}

/-! ## What the calls of a run say of one product -/

/-- The product codes a call passes. -/
def Call.codes : Call → Bytes × Bytes
  | .createProduct pc ic .. | .updateProductInfo pc ic .. | .updateProductStatus pc ic _
  | .updateStock pc ic _ | .deleteProduct pc ic | .purchaseProduct pc ic _ => (pc, ic)

/-- The stock a `create_product` of `k` sets. -/
def Call.createdStock (k : ProductCode T × InstitutionCode T) : Call → Option (BitVec 32)
  | .createProduct pc ic _ _ _ _ _ _ _ _ _ stockQuantity _ _ =>
    if keyOf pc ic = some k then some stockQuantity else none
  | _ => none

/-- Whether a call is an `update_stock` of `k`. -/
def Call.restocks (k : ProductCode T × InstitutionCode T) : Call → Bool
  | .updateStock pc ic _ => keyOf pc ic = some k
  | _ => false

/-- The quantity a `purchase_product` of `k` buys, and 0 for every other call. -/
def Call.purchased (k : ProductCode T × InstitutionCode T) : Call → Nat
  | .purchaseProduct pc ic quantity => if keyOf pc ic = some k then quantity.toNat else 0
  | _ => 0

section Names

variable {c : Call} {k : ProductCode T × InstitutionCode T}

/-- A call that names another product creates nothing under `k` and buys nothing of it. -/
theorem Call.of_ne (h : keyOf c.codes.1 c.codes.2 ≠ some k) :
    c.createdStock k = none ∧ c.purchased k = 0 := by
  cases c <;> simp_all [Call.codes, Call.createdStock, Call.purchased]

end Names

/-- What the successful calls of a run say of one product since its most recent creation. -/
structure StockLedger where
  initialStock : Nat
  purchased : Nat
deriving DecidableEq, Repr

/-- One successful extrinsic with the storage it ran on, as `history` keeps them. -/
abbrev Entry (T : Config) := (Origin T.AccountId × Nat × Call) × State T

/-- For product `k` and the successful calls `hs` of a run: the stock the most recent
`create_product` of `k` set, and the quantities of the `purchase_product`s of `k` since; `none`
when `k` was never created, or an `update_stock` of `k` has succeeded since. -/
def stockLedger (k : ProductCode T × InstitutionCode T) (hs : List (Entry T)) :
    Option StockLedger :=
  match sinceLast (fun x => (x.1.2.2.createdStock k).isSome) hs with
  | none => none
  | some (created, since) =>
    if since.any fun x => x.1.2.2.restocks k then none
    else (created.1.2.2.createdStock k).map fun s0 =>
      ⟨s0.toNat, (since.map fun x => x.1.2.2.purchased k).sum⟩

/-- The ledger of `k` after one more successful call `c`. -/
def StockLedger.step (k : ProductCode T × InstitutionCode T) (c : Call) (l : Option StockLedger) :
    Option StockLedger :=
  match c.createdStock k with
  | some s0 => some ⟨s0.toNat, 0⟩
  | none => if c.restocks k then none else l.map fun l => ⟨l.initialStock, l.purchased + c.purchased k⟩

theorem stockLedger_append (k : ProductCode T × InstitutionCode T) (hs : List (Entry T))
    (x : Entry T) : stockLedger k (hs ++ [x]) = StockLedger.step k x.1.2.2 (stockLedger k hs) := by
  unfold stockLedger StockLedger.step
  rw [sinceLast_append]
  cases hc : x.1.2.2.createdStock k with
  | some s0 => simp [hc]
  | none =>
    cases sinceLast (fun x => (x.1.2.2.createdStock k).isSome) hs with
    | none => cases x.1.2.2.restocks k <;> simp [hc]
    | some r =>
      simp only [hc, Option.isSome_none, Bool.false_eq_true, if_false, Option.map_some',
        List.any_append, List.any_cons, List.any_nil, Bool.or_false, List.map_append,
        List.map_cons, List.map_nil, List.sum_append, List.sum_cons, List.sum_nil, Nat.add_zero]
      cases x.1.2.2.restocks k <;> cases r.2.any fun x => x.1.2.2.restocks k <;>
        simp [Function.comp_def]

/-! ## What one call does to the stock and sales of a product -/

/-- What one successful call `c` may do to the stock and sales of product `k`: create it with
the stock `c` names and no sales, let `update_stock` write it, remove it, or keep it with the
quantity `c` purchases moved from stock to sales. -/
inductive StockStep (k : ProductCode T × InstitutionCode T) (c : Call) :
    Option (ProductInfo T) → Option (ProductInfo T) → Prop
  | create (o : Option (ProductInfo T)) (p' : ProductInfo T) :
      c.createdStock k = some p'.stockQuantity → p'.salesQuantity = 0 → StockStep k c o (some p')
  | restock (o o' : Option (ProductInfo T)) :
      c.createdStock k = none → c.restocks k = true → StockStep k c o o'
  | remove (o : Option (ProductInfo T)) : StockStep k c o none
  | move (p p' : ProductInfo T) : c.createdStock k = none → c.purchased k ≤ p.stockQuantity.toNat →
      p'.stockQuantity.toNat = p.stockQuantity.toNat - c.purchased k →
      p'.salesQuantity.toNat = min (p.salesQuantity.toNat + c.purchased k) (2 ^ 32 - 1) →
      StockStep k c (some p) (some p')

section Steps

variable {k : ProductCode T × InstitutionCode T} {c : Call}

/-- A rewrite that keeps both quantities, by a call that buys nothing. -/
theorem StockStep.rewrite {p p' : ProductInfo T} (hc : c.createdStock k = none)
    (hq : c.purchased k = 0) (hst : p'.stockQuantity = p.stockQuantity)
    (hsa : p'.salesQuantity = p.salesQuantity) : StockStep k c (some p) (some p') := by
  have := p.salesQuantity.isLt
  exact .move p p' hc (by omega) (by rw [hst, hq]; rfl) (by rw [hsa, hq]; omega)

/-- A call that creates nothing under `k` and buys nothing of it may leave the product as it is. -/
theorem StockStep.frame (hc : c.createdStock k = none) (hq : c.purchased k = 0)
    (o : Option (ProductInfo T)) : StockStep k c o o := by
  cases o with
  | none => exact .remove none
  | some p => exact .rewrite hc hq rfl rfl

/-- A step on the product the call names is a step on every product. -/
theorem stockStep_update {m : ProductCode T × InstitutionCode T → Option (ProductInfo T)}
    {k₀ : ProductCode T × InstitutionCode T} {o : Option (ProductInfo T)}
    (hkey : keyOf c.codes.1 c.codes.2 = some k₀) (h : StockStep k₀ c (m k₀) o)
    (k : ProductCode T × InstitutionCode T) : StockStep k c (m k) (update m k₀ o k) := by
  by_cases hk : k = k₀
  · subst hk
    rwa [Function.update_same]
  · rw [Function.update_noteq hk]
    obtain ⟨hc, hq⟩ := Call.of_ne (k := k) (hkey ▸ fun h => hk (Option.some_inj.mp h).symm)
    exact .frame hc hq _

end Steps

/-- What every successful call does to the stock and sales of every product. -/
theorem dispatch_stockStep {origin : Origin T.AccountId} {now : Nat} {c : Call} {s s' : State T}
    (hs : dispatch origin now c s = .ok () s') (k : ProductCode T × InstitutionCode T) :
    StockStep k c (s.products k) (s'.products k) := by
  rw [dispatch_ok] at hs
  cases c with
  | createProduct pc ic _ _ _ _ _ _ _ _ _ st _ _ =>
    obtain ⟨_, code, inst, p, _, -, hc, hi, -, -, -, -, -, hst, hsa, -, -, rfl⟩ :=
      createProduct_ok hs
    refine stockStep_update (by exact keyOf_eq hc hi) (.create _ p ?_ hsa) k
    simp only [Call.createdStock, keyOf_eq hc hi, if_true, hst]
  | updateProductInfo =>
    obtain ⟨_, _, _, _, _, -, hc, hi, hp, -, -, -, -, -, hst, hsa, rfl⟩ := updateProductInfo_ok hs
    exact stockStep_update (by exact keyOf_eq hc hi) (hp ▸ .rewrite rfl rfl hst hsa) k
  | updateProductStatus =>
    obtain ⟨_, _, _, _, _, -, hc, hi, hp, -, -, rfl⟩ := updateProductStatus_ok hs
    exact stockStep_update (by exact keyOf_eq hc hi) (hp ▸ .rewrite rfl rfl rfl rfl) k
  | updateStock =>
    obtain ⟨_, _, _, _, -, hc, hi, -, -, rfl⟩ := updateStock_ok hs
    exact stockStep_update (by exact keyOf_eq hc hi)
      (by exact .restock _ _ rfl (by simp only [Call.restocks, keyOf_eq hc hi, decide_True])) k
  | deleteProduct =>
    obtain ⟨_, _, _, _, -, hc, hi, -, -, rfl⟩ := deleteProduct_ok hs
    exact stockStep_update (by exact keyOf_eq hc hi) (.remove _) k
  | purchaseProduct pc ic q =>
    obtain ⟨_, code, inst, p, -, hc, hi, hp, -, hq, rfl⟩ := purchaseProduct_ok hs
    have hbuy : Call.purchased (code, inst) (.purchaseProduct pc ic q) = q.toNat := by
      simp only [Call.purchased, keyOf_eq hc hi, if_true]
    refine stockStep_update (by exact keyOf_eq hc hi) (hp ▸ .move p _ rfl ?_ ?_ ?_) k
    · rw [hbuy]; exact hq
    · rw [hbuy, toNat_saturatingSub]
    · rw [hbuy, toNat_saturatingAdd]

/-! ## Stock and sales along a run -/

/-- Product `p` holds what ledger `l` says, and its two quantities fit in a `u32` together. -/
structure Conserves (l : StockLedger) (p : ProductInfo T) : Prop where
  fits : p.stockQuantity.toNat + p.salesQuantity.toNat ≤ 2 ^ 32 - 1
  total : p.stockQuantity.toNat + p.salesQuantity.toNat = l.initialStock
  sales : p.salesQuantity.toNat = l.purchased

section Conserves

variable {l : StockLedger} {p p' : ProductInfo T} {q : Nat}

/-- A new product holds what a fresh ledger of its stock says. -/
theorem Conserves.create (h0 : p'.salesQuantity = 0) : Conserves ⟨p'.stockQuantity.toNat, 0⟩ p' := by
  have h0' : p'.salesQuantity.toNat = 0 := by rw [h0]; rfl
  have := p'.stockQuantity.isLt
  exact ⟨by omega, show _ = p'.stockQuantity.toNat by omega, h0'⟩

/-- A purchase of `q` moves it from stock to sales; the ledger counts it purchased. As the two
quantities fit in a `u32` together, the `saturating_add` on the sales is exact. -/
theorem Conserves.move (h : Conserves l p) (hq : q ≤ p.stockQuantity.toNat)
    (hst : p'.stockQuantity.toNat = p.stockQuantity.toNat - q)
    (hsa : p'.salesQuantity.toNat = min (p.salesQuantity.toNat + q) (2 ^ 32 - 1)) :
    Conserves ⟨l.initialStock, l.purchased + q⟩ p' := by
  obtain ⟨hfit, htot, hsal⟩ := h
  exact ⟨by omega, show _ = l.initialStock by omega, show _ = l.purchased + q by omega⟩

end Conserves

/-- A ledger step on a call that creates nothing: unless it restocks, the count grows by what it
purchases. -/
theorem StockLedger.step_of_none {k : ProductCode T × InstitutionCode T} {c : Call}
    {L : Option StockLedger} {l' : StockLedger} (hc : c.createdStock k = none)
    (h : StockLedger.step k c L = some l') :
    ∃ l, L = some l ∧ l' = ⟨l.initialStock, l.purchased + c.purchased k⟩ := by
  cases hr : c.restocks k <;> simp only [StockLedger.step, hc, hr, if_true] at h
  · obtain ⟨l, hl, rfl⟩ := Option.map_eq_some'.mp h
    exact ⟨l, hl, rfl⟩
  · cases h

/-- One successful call keeps every product holding what its ledger says. -/
theorem StockStep.conserves {k : ProductCode T × InstitutionCode T} {c : Call}
    {o o' : Option (ProductInfo T)} {L : Option StockLedger} (h : StockStep k c o o')
    (hinv : ∀ p l, o = some p → L = some l → Conserves l p) :
    ∀ p' l', o' = some p' → StockLedger.step k c L = some l' → Conserves l' p' := by
  intro p' l' hp' hl'
  cases h with
  | create o p' hc h0 =>
    cases hp'
    simp only [StockLedger.step, hc, Option.some.injEq] at hl'
    exact hl' ▸ .create h0
  | restock o o' hc hr => simp [StockLedger.step, hc, hr] at hl'
  | remove => cases hp'
  | move p p' hc hq hst hsa =>
    cases hp'
    obtain ⟨l, hl, rfl⟩ := StockLedger.step_of_none hc hl'
    exact (hinv p l rfl hl).move hq hst hsa

/-- Every product `k` holds what its ledger says. -/
def StockInv (k : ProductCode T × InstitutionCode T) (s : State T) (hs : List (Entry T)) : Prop :=
  ∀ p l, s.products k = some p → stockLedger k hs = some l → Conserves l p

theorem StockInv.step {k : ProductCode T × InstitutionCode T} {s s' : State T}
    {hs : List (Entry T)} {x : Origin T.AccountId × Nat × Call} (h : StockInv k s hs)
    (hstep : step x s = .ok () s') : StockInv k s' (hs ++ [(x, s)]) := fun p' l' hp' hl' => by
  rw [stockLedger_append] at hl'
  exact (dispatch_stockStep hstep k).conserves h p' l' hp' hl'

/-- In every state of every run from empty storage, every product holds its initial stock,
split into stock and sales, with the sales the quantities purchased since its most recent
creation, unless `update_stock` has succeeded on it since. -/
theorem purchases_conserve_stock (calls : List (Origin T.AccountId × Nat × Call)) (n : Nat)
    (k : ProductCode T × InstitutionCode T) (p : ProductInfo T) (l : StockLedger)
    (hp : (execute step (State.empty T) (calls.take n)).products k = some p)
    (hl : stockLedger k (history step (State.empty T) (calls.take n)) = some l) :
    p.stockQuantity.toNat + p.salesQuantity.toNat = l.initialStock ∧
      p.salesQuantity.toNat = l.purchased :=
  let h := execute_history_nil (P := StockInv k) (fun _ _ _ _ h => dispatch_error h)
    (fun _ _ _ _ h hs => h.step hs) (fun _ _ h => by cases h) (calls.take n) p l hp hl
  ⟨h.total, h.sales⟩

/-- A configuration with every bound 1, and accounts numbered. -/
abbrev Demo : Config :=
  { AccountId := Nat, MaxProductCodeLength := 1, MaxInstitutionCodeLength := 1, MaxNameLength := 1,
    MaxCategoryLength := 1, MaxBrandLength := 1, MaxAuthorizedMemberGroup := 1,
    MaxAuthorizedGroups := 1, MaxDescriptionLength := 1, MaxImageUrlLength := 1,
    MaxDetailImages := 1 }

/-- The one-byte code `[0]`. -/
def code0 : BoundedVec (BitVec 8) 1 := ⟨[0], by decide⟩

/-- Account 0 creates product `([0], [0])` with 5 in stock; account 1 buys 2 of it. -/
def purchaseRun : List (Origin Nat × Nat × Call) :=
  [(.signed 0, 0, .createProduct [0] [0] [] [] [] [] 9 9 [] [] [] 5 1 ⟨0, by decide⟩),
    (.signed 1, 1, .purchaseProduct [0] [0] 2)]

/-- The purchase succeeds: the product holds 3 in stock and 2 sold, and its ledger the 5 it was
created with and the 2 bought. -/
theorem purchase_run_conserves_stock :
    ∃ p, (execute step (State.empty Demo) (purchaseRun.take 2)).products (code0, code0) = some p ∧
      p.stockQuantity = 3 ∧ p.salesQuantity = 2 ∧
      stockLedger (code0, code0) (history step (State.empty Demo) (purchaseRun.take 2)) =
        some ⟨5, 2⟩ ∧
      p.stockQuantity.toNat + p.salesQuantity.toNat = 5 ∧ p.salesQuantity.toNat = 2 :=
  have hl : stockLedger (code0, code0) (history step (State.empty Demo) (purchaseRun.take 2)) =
      some ⟨5, 2⟩ := by decide
  ⟨_, rfl, rfl, rfl, hl,
    purchases_conserve_stock (T := Demo) purchaseRun 2 (code0, code0) _ _ rfl hl⟩

end FissionMall.Product
