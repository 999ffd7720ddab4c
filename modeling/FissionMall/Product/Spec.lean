import FissionMall.Product.Pallet

/-
  One spec lemma per call of `product`. Every call but `create_product` and `delete_product`
  rewrites one stored product in place (`State.rewriteProduct`) and leaves `InstitutionProducts`
  alone. Each lemma names the fields later proofs read: the creator, the two prices, and the
  two quantities.
-/

namespace FissionMall.Product

open Function (update)

variable {T : Config}

/-- Product `key` rewritten as `p`, and the events `evs` deposited. -/
def State.rewriteProduct (s : State T) (key : ProductCode T × InstitutionCode T)
    (p : ProductInfo T) (evs : List (Event T)) : State T :=
  { s with products := update s.products key (some p), events := s.events ++ evs }

theorem dispatch_ok {origin : Origin T.AccountId} {now : Nat} {c : Call} {s s' : State T} :
    dispatch origin now c s = .ok () s' ↔ c.body origin now s = .ok () s' :=
  withStorageLayer_ok

/-- A failing call leaves the storage as it was. -/
theorem dispatch_error {origin : Origin T.AccountId} {now : Nat} {c : Call} {s s' : State T}
    {e : DispatchError Error} (h : dispatch origin now c s = .error e s') : s' = s :=
  withStorageLayer_error h

section Calls

variable {origin : Origin T.AccountId} {pc ic : Bytes} {s s' : State T}

theorem createProduct_ok {now : Nat} {n c b : Bytes} {g : List Bytes} {op cp : BitVec 64}
    {d mi : Bytes} {di : List Bytes} {st w : BitVec 32} {pr : Perbill}
    (h : createProduct origin now pc ic n c b g op cp d mi di st w pr s = .ok () s') :
    ∃ who code inst p bi, origin = .signed who ∧ BoundedVec.tryFrom pc = some code ∧
      BoundedVec.tryFrom ic = some inst ∧ s.products (code, inst) = none ∧ cp ≤ op ∧
      p.creator = who ∧ p.originalPrice = op ∧ p.currentPrice = cp ∧ p.stockQuantity = st ∧
      p.salesQuantity = 0 ∧ p.status = .available ∧
      (s.institutionProducts inst).tryPush code = some bi ∧
      s' = { products := update s.products (code, inst) (some p),
             institutionProducts := update s.institutionProducts inst bi,
             events := s.events ++ [.productCreated code inst who] } := by
  simp only [createProduct, writeProduct, depositEvent, bind_assoc, ensureSigned_bind_eq_ok,
    okOr_bind_eq_ok, get_bind, ensure_bind_eq_ok, modify_bind, modify_apply, result_ok_inj,
    Option.isNone_iff_eq_none] at h
  exact
    let ⟨who, ho, code, hc, inst, hi, h1, h2, _, _, _, _, _, _, _, _, _, _, _, _, _, _, _, _, _, _,
      bi, hbi, _, hs⟩ := h
    ⟨who, code, inst, _, bi, ho, hc, hi, h1, h2, rfl, rfl, rfl, rfl, rfl, rfl, hbi, hs.symm⟩

/-- What a successful `update_product_info` checked and wrote, with the fields it never
touches: the member groups, the detail images and the creation date. -/
theorem updateProductInfo_spec {n c b : Option Bytes} {op cp : Option (BitVec 64)}
    {d mi : Option Bytes} {w : Option (BitVec 32)} {pr : Option Perbill}
    (h : updateProductInfo origin pc ic n c b op cp d mi w pr s = .ok () s') :
    ∃ who code inst p p', (origin = .signed who ∧ BoundedVec.tryFrom pc = some code ∧
      BoundedVec.tryFrom ic = some inst ∧ s.products (code, inst) = some p ∧ p.creator = who ∧
      p'.creator = p.creator ∧ p'.originalPrice = op.getD p.originalPrice ∧
      p'.currentPrice = cp.getD p.currentPrice ∧ p'.currentPrice ≤ p'.originalPrice ∧
      p'.stockQuantity = p.stockQuantity ∧ p'.salesQuantity = p.salesQuantity ∧
      s' = s.rewriteProduct (code, inst) p' [.productUpdated code inst]) ∧
      p'.authorizedMemberGroups = p.authorizedMemberGroups ∧ p'.detailImages = p.detailImages ∧
      p'.createdDate = p.createdDate := by
  simp only [updateProductInfo, writeProduct, depositEvent, bind_assoc, ensureSigned_bind_eq_ok,
    okOr_bind_eq_ok, get_bind, ensure_bind_eq_ok, modify_bind, modify_apply, result_ok_inj] at h
  obtain ⟨who, rfl, code, hc, inst, hi, p, hp, h1, _, -, _, -, _, -, h2, _, -, _, -, -, rfl⟩ := h
  refine ⟨who, code, inst, p, _, ⟨rfl, hc, hi, hp, h1, ?_, ?_, ?_, ?_, ?_, ?_, rfl⟩, ?_, ?_, ?_⟩ <;>
    first | rfl | exact h2

theorem updateProductInfo_ok {n c b : Option Bytes} {op cp : Option (BitVec 64)}
    {d mi : Option Bytes} {w : Option (BitVec 32)} {pr : Option Perbill}
    (h : updateProductInfo origin pc ic n c b op cp d mi w pr s = .ok () s') :
    ∃ who code inst p p', origin = .signed who ∧ BoundedVec.tryFrom pc = some code ∧
      BoundedVec.tryFrom ic = some inst ∧ s.products (code, inst) = some p ∧ p.creator = who ∧
      p'.creator = p.creator ∧ p'.originalPrice = op.getD p.originalPrice ∧
      p'.currentPrice = cp.getD p.currentPrice ∧ p'.currentPrice ≤ p'.originalPrice ∧
      p'.stockQuantity = p.stockQuantity ∧ p'.salesQuantity = p.salesQuantity ∧
      s' = s.rewriteProduct (code, inst) p' [.productUpdated code inst] :=
  let ⟨who, code, inst, p, p', h, _⟩ := updateProductInfo_spec h
  ⟨who, code, inst, p, p', h⟩

theorem updateProductStatus_ok {st : BitVec 8}
    (h : updateProductStatus origin pc ic st s = .ok () s') :
    ∃ who code inst p new, origin = .signed who ∧ BoundedVec.tryFrom pc = some code ∧
      BoundedVec.tryFrom ic = some inst ∧ s.products (code, inst) = some p ∧ p.creator = who ∧
      decodeStatus st = some new ∧
      s' = s.rewriteProduct (code, inst) { p with status := new }
        [.productStatusUpdated code inst st] := by
  simp only [updateProductStatus, writeProduct, depositEvent, bind_assoc, ensureSigned_bind_eq_ok,
    okOr_bind_eq_ok, get_bind, ensure_bind_eq_ok, modify_bind, modify_apply, result_ok_inj] at h
  obtain ⟨who, rfl, code, hc, inst, hi, p, hp, h1, new, hn, -, rfl⟩ := h
  exact ⟨who, code, inst, p, new, rfl, hc, hi, hp, h1, hn, rfl⟩

theorem updateStock_ok {st : BitVec 32} (h : updateStock origin pc ic st s = .ok () s') :
    ∃ who code inst p, origin = .signed who ∧ BoundedVec.tryFrom pc = some code ∧
      BoundedVec.tryFrom ic = some inst ∧ s.products (code, inst) = some p ∧ p.creator = who ∧
      s' = s.rewriteProduct (code, inst) { p with stockQuantity := st }
        [.productStockUpdated code inst st] := by
  simp only [updateStock, writeProduct, depositEvent, bind_assoc, ensureSigned_bind_eq_ok,
    okOr_bind_eq_ok, get_bind, ensure_bind_eq_ok, modify_bind, modify_apply, result_ok_inj] at h
  obtain ⟨who, rfl, code, hc, inst, hi, p, hp, h1, -, rfl⟩ := h
  exact ⟨who, code, inst, p, rfl, hc, hi, hp, h1, rfl⟩

theorem deleteProduct_ok (h : deleteProduct origin pc ic s = .ok () s') :
    ∃ who code inst p, origin = .signed who ∧ BoundedVec.tryFrom pc = some code ∧
      BoundedVec.tryFrom ic = some inst ∧ s.products (code, inst) = some p ∧ p.creator = who ∧
      s' = { products := update s.products (code, inst) none,
             institutionProducts := update s.institutionProducts inst
               ((s.institutionProducts inst).retain (· != code)),
             events := s.events ++ [.productDeleted code inst] } := by
  simp only [deleteProduct, depositEvent, bind_assoc, ensureSigned_bind_eq_ok, okOr_bind_eq_ok,
    get_bind, ensure_bind_eq_ok, modify_bind, modify_apply, result_ok_inj] at h
  obtain ⟨who, rfl, code, hc, inst, hi, p, hp, h1, -, rfl⟩ := h
  exact ⟨who, code, inst, p, rfl, hc, hi, hp, h1, rfl⟩

theorem purchaseProduct_ok {q : BitVec 32} (h : purchaseProduct origin pc ic q s = .ok () s') :
    ∃ who code inst p, origin = .signed who ∧ BoundedVec.tryFrom pc = some code ∧
      BoundedVec.tryFrom ic = some inst ∧ s.products (code, inst) = some p ∧
      p.status = .available ∧ q ≤ p.stockQuantity ∧
      s' = { s with products := update s.products (code, inst) (some { p with
        stockQuantity := saturatingSub p.stockQuantity q,
        salesQuantity := saturatingAdd p.salesQuantity q }) } := by
  simp only [purchaseProduct, writeProduct, bind_assoc, ensureSigned_bind_eq_ok, okOr_bind_eq_ok,
    get_bind, ensure_bind_eq_ok, modify_bind, modify_apply, result_ok_inj] at h
  obtain ⟨who, rfl, code, hc, inst, hi, p, hp, h1, h2, -, rfl⟩ := h
  exact ⟨who, code, inst, p, rfl, hc, hi, hp, h1, h2, rfl⟩

end Calls

end FissionMall.Product
