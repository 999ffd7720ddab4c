import FissionMall.Product.Invariant
import FissionMall.Frame.Listing

/-
  What the calls of `product` do to stored products, over every run.

  `dispatch_amends`: a successful call keeps, of every product it keeps, the authorized member
  groups, the detail images, the creation date and the creator: `update_product_info` takes no
  argument for the first two, so a product's member groups and detail images are fixed when it is
  created. Its sales never fall, and do not move while it is `Unavailable`, since
  `purchase_product` refuses an unavailable product (`ProductInfo.Amends`).

  The log: `ProductCreated(c, i, who)` creates `(c, i)` for `who`, `ProductDeleted(c, i)` deletes
  it, and `purchase_product` deposits nothing. Replaying a log gives each stored pair with its
  creator (`creators_replay`), and `InstitutionProducts` lists the codes of an institution's
  stored products in the order of their `ProductCreated` events (`ListedIn.reachable`). Every
  successful call but `purchase_product` deposits an event naming the product it writes
  (`dispatch_audited`); a purchase lowers the stock and deposits nothing
  (`dispatch_purchase_silent`), so a reader of the log does not see stock move.

  `Inv.capacity`: at most 10000 stored products of one institution.
  `deleteProduct_enabled`: in every storage, the creator of a product can delete it, and the
  pair then leaves `Products` and its institution's bucket.
-/

namespace FissionMall.Product

open Function (update)

variable {T : Config}

/-! ## What a call may change of a product -/

/-- What a successful call may change of a product it keeps. -/
structure ProductInfo.Amends (p p' : ProductInfo T) : Prop where
  authorizedMemberGroups_eq : p'.authorizedMemberGroups = p.authorizedMemberGroups
  detailImages_eq : p'.detailImages = p.detailImages
  createdDate_eq : p'.createdDate = p.createdDate
  creator_eq : p'.creator = p.creator
  sales_le : p.salesQuantity ≤ p'.salesQuantity
  sales_frozen : p.status = .unavailable → p'.salesQuantity = p.salesQuantity

theorem ProductInfo.Amends.refl (p : ProductInfo T) : p.Amends p :=
  ⟨rfl, rfl, rfl, rfl, BitVec.le_refl _, fun _ => rfl⟩

/-- A successful call keeps the member groups, detail images, creation date and creator of every
product it keeps; its sales never fall, and stay as they were when it was unavailable. -/
theorem dispatch_amends {s s' : State T} {origin : Origin T.AccountId} {now : Nat} {c : Call}
    (hs : dispatch origin now c s = .ok () s') : KeptBy ProductInfo.Amends s.products s'.products := by
  rw [dispatch_ok] at hs
  cases c with
  | createProduct =>
    obtain ⟨_, _, _, _, _, -, -, -, hk, -, -, -, -, -, -, -, -, rfl⟩ := createProduct_ok hs
    exact KeptBy.create ProductInfo.Amends.refl hk _
  | updateProductInfo =>
    obtain ⟨_, _, _, _, _, ⟨-, -, -, hp, -, hc, -, -, -, -, hsa, rfl⟩, hg, hd, hcd⟩ :=
      updateProductInfo_spec hs
    exact KeptBy.rewrite ProductInfo.Amends.refl hp
      ⟨hg, hd, hcd, hc, hsa ▸ BitVec.le_refl _, fun _ => hsa⟩
  | updateProductStatus =>
    obtain ⟨_, _, _, _, _, -, -, -, hp, -, -, rfl⟩ := updateProductStatus_ok hs
    exact KeptBy.rewrite ProductInfo.Amends.refl hp ⟨rfl, rfl, rfl, rfl, BitVec.le_refl _, fun _ => rfl⟩
  | updateStock =>
    obtain ⟨_, _, _, _, -, -, -, hp, -, rfl⟩ := updateStock_ok hs
    exact KeptBy.rewrite ProductInfo.Amends.refl hp ⟨rfl, rfl, rfl, rfl, BitVec.le_refl _, fun _ => rfl⟩
  | deleteProduct =>
    obtain ⟨_, _, _, _, -, -, -, -, -, rfl⟩ := deleteProduct_ok hs
    exact KeptBy.erase ProductInfo.Amends.refl
  | purchaseProduct =>
    obtain ⟨_, _, _, _, -, -, -, hp, hst, -, rfl⟩ := purchaseProduct_ok hs
    exact KeptBy.rewrite ProductInfo.Amends.refl hp
      ⟨rfl, rfl, rfl, rfl, le_saturatingAdd _ _, fun hu => absurd (hst.symm.trans hu) (by decide)⟩

/-! ## The log of creations and deletions -/

/-- What an event of `product` says of the product it names. -/
def Event.change : Event T → Change (ProductCode T × InstitutionCode T) T.AccountId
  | .productCreated c i who => .created (c, i) who
  | .productDeleted c i => .deleted (c, i)
  | _ => .other

/-- Every successful call appends the events that turn the creators of the stored products
before it into those after it; `purchase_product` appends none. -/
theorem dispatch_log {s s' : State T} {origin : Origin T.AccountId} {now : Nat} {c : Call}
    (hs : dispatch origin now c s = .ok () s') :
    ∃ evs, s'.events = s.events ++ evs ∧
      applyChanges Event.change (creators ProductInfo.creator s.products) evs =
        creators ProductInfo.creator s'.products := by
  rw [dispatch_ok] at hs
  cases c with
  | createProduct =>
    obtain ⟨_, _, _, _, _, -, -, -, -, -, hc, -, -, -, -, -, -, rfl⟩ := createProduct_ok hs
    exact ⟨_, rfl, by rw [creators_update, Option.map_some', hc]; rfl⟩
  | updateProductInfo =>
    obtain ⟨_, _, _, _, _, -, -, -, hp, -, hc, -, -, -, -, -, rfl⟩ := updateProductInfo_ok hs
    exact ⟨_, rfl, (creators_rewrite _ hp hc).symm⟩
  | updateProductStatus =>
    obtain ⟨_, _, _, _, _, -, -, -, hp, -, -, rfl⟩ := updateProductStatus_ok hs
    exact ⟨_, rfl, (creators_rewrite _ hp (by rfl)).symm⟩
  | updateStock =>
    obtain ⟨_, _, _, _, -, -, -, hp, -, rfl⟩ := updateStock_ok hs
    exact ⟨_, rfl, (creators_rewrite _ hp (by rfl)).symm⟩
  | deleteProduct =>
    obtain ⟨_, code, inst, _, -, -, -, -, -, rfl⟩ := deleteProduct_ok hs
    exact ⟨_, rfl, (creators_update ProductInfo.creator s.products (code, inst) none).symm⟩
  | purchaseProduct =>
    obtain ⟨_, _, _, _, -, -, -, hp, -, -, rfl⟩ := purchaseProduct_ok hs
    exact ⟨[], (List.append_nil _).symm, (creators_rewrite _ hp (by rfl)).symm⟩

/-- The log of every reachable storage replays to each stored pair with its product's creator. -/
theorem creators_replay {s : State T} (h : Reachable step (State.empty T) s) :
    replayChanges Event.change s.events = creators ProductInfo.creator s.products :=
  h.replay rfl fun _ _ _ hs => dispatch_log hs

/-- The product an event names. -/
def Event.key : Event T → ProductCode T × InstitutionCode T
  | .productCreated k i _ | .productUpdated k i | .productStatusUpdated k i _
  | .productStockUpdated k i _ | .productDeleted k i => (k, i)

/-- Every successful call but `purchase_product` writes one product and deposits an event naming
it. -/
theorem dispatch_audited {s s' : State T} {origin : Origin T.AccountId} {now : Nat} {c : Call}
    (hc : ∀ pc ic q, c ≠ .purchaseProduct pc ic q) (hs : dispatch origin now c s = .ok () s') :
    Audited State.products State.events Event.key s s' := by
  rw [dispatch_ok] at hs
  cases c with
  | createProduct =>
    obtain ⟨_, _, _, _, _, -, -, -, -, -, -, -, -, -, -, -, -, rfl⟩ := createProduct_ok hs
    exact audited_update rfl rfl ⟨_, List.mem_cons_self _ _, rfl⟩
  | updateProductInfo =>
    obtain ⟨_, _, _, _, _, -, -, -, -, -, -, -, -, -, -, -, rfl⟩ := updateProductInfo_ok hs
    exact audited_update rfl rfl ⟨_, List.mem_cons_self _ _, rfl⟩
  | updateProductStatus =>
    obtain ⟨_, _, _, _, _, -, -, -, -, -, -, rfl⟩ := updateProductStatus_ok hs
    exact audited_update rfl rfl ⟨_, List.mem_cons_self _ _, rfl⟩
  | updateStock =>
    obtain ⟨_, _, _, _, -, -, -, -, -, rfl⟩ := updateStock_ok hs
    exact audited_update rfl rfl ⟨_, List.mem_cons_self _ _, rfl⟩
  | deleteProduct =>
    obtain ⟨_, _, _, _, -, -, -, -, -, rfl⟩ := deleteProduct_ok hs
    exact audited_update rfl rfl ⟨_, List.mem_cons_self _ _, rfl⟩
  | purchaseProduct => exact absurd rfl (hc _ _ _)

/-- `purchase_product` deposits no event: a successful purchase of a positive quantity lowers the
product's stock, and leaves the log as it was. -/
theorem dispatch_purchase_silent {s s' : State T} {origin : Origin T.AccountId} {now : Nat}
    {pc ic : Bytes} {q : BitVec 32} (hq : q ≠ 0)
    (hs : dispatch origin now (.purchaseProduct pc ic q) s = .ok () s') :
    s'.events = s.events ∧ s'.products ≠ s.products := by
  obtain ⟨_, code, inst, p, -, -, -, hp, -, hle, rfl⟩ := purchaseProduct_ok (dispatch_ok.mp hs)
  refine ⟨rfl, fun h => ?_⟩
  have hk := congrArg (fun m => (m (code, inst)).map ProductInfo.stockQuantity) h
  simp only [Function.update_same, hp, Option.map_some', Option.some.injEq] at hk
  have hsub := toNat_saturatingSub p.stockQuantity q
  rw [hk] at hsub
  have hq' : q.toNat ≠ 0 := fun h0 => hq (BitVec.eq_of_toNat_eq h0)
  have hle' : q.toNat ≤ p.stockQuantity.toNat := hle
  omega

/-! ## Buckets in creation order -/

/-- `InstitutionProducts` lists the codes of each institution's stored products in the order of
`live`. -/
structure ListedIn (live : List (ProductCode T × InstitutionCode T)) (s : State T) : Prop where
  byInstitution :
    ListedBy s.products (fun k _ => k.2) Prod.fst (BoundedVec.lists s.institutionProducts) live

/-- Every successful call appends the events that move the keys the buckets follow. -/
theorem ListedIn.dispatch {live : List (ProductCode T × InstitutionCode T)} {s s' : State T}
    {origin : Origin T.AccountId} {now : Nat} {c : Call} (h : ListedIn live s)
    (hs : dispatch origin now c s = .ok () s') :
    ∃ evs, s'.events = s.events ++ evs ∧ ListedIn (liveKeysFrom Event.change live evs) s' := by
  rw [dispatch_ok] at hs
  cases c with
  | createProduct =>
    obtain ⟨_, _, _, _, _, -, -, -, hk, -, -, -, -, -, -, -, hb, rfl⟩ := createProduct_ok hs
    exact ⟨_, rfl, ⟨h.byInstitution.push hk hb⟩⟩
  | updateProductInfo =>
    obtain ⟨_, _, _, _, _, -, -, -, hp, -, -, -, -, -, -, -, rfl⟩ := updateProductInfo_ok hs
    exact ⟨_, rfl, ⟨h.byInstitution.modify hp rfl⟩⟩
  | updateProductStatus =>
    obtain ⟨_, _, _, _, _, -, -, -, hp, -, -, rfl⟩ := updateProductStatus_ok hs
    exact ⟨_, rfl, ⟨h.byInstitution.modify hp rfl⟩⟩
  | updateStock =>
    obtain ⟨_, _, _, _, -, -, -, hp, -, rfl⟩ := updateStock_ok hs
    exact ⟨_, rfl, ⟨h.byInstitution.modify hp rfl⟩⟩
  | deleteProduct =>
    obtain ⟨_, _, _, _, -, -, -, hp, -, rfl⟩ := deleteProduct_ok hs
    exact ⟨_, rfl, ⟨h.byInstitution.retain keyedBy_pair hp⟩⟩
  | purchaseProduct =>
    obtain ⟨_, _, _, _, -, -, -, hp, -, -, rfl⟩ := purchaseProduct_ok hs
    exact ⟨[], (List.append_nil _).symm, ⟨h.byInstitution.modify hp rfl⟩⟩

/-- In every reachable storage, each institution's bucket lists the codes of its stored products
in the order of their creation events, and the log's live pairs are the stored pairs, once each. -/
theorem ListedIn.reachable {s : State T} (h : Reachable step (State.empty T) s) :
    ListedIn (liveKeys Event.change s.events) s :=
  h.live (P := ListedIn) ⟨.empty⟩ fun _ _ _ _ hl hs => hl.dispatch hs

/-! ## Capacity -/

/-- The bounded bucket of an institution bounds its stored products at 10000. -/
theorem Inv.capacity {s : State T} (h : Inv s) (i : InstitutionCode T) (cs : List (ProductCode T))
    (hnd : cs.Nodup) (hcs : ∀ c ∈ cs, (s.products (c, i)).isSome) : cs.length ≤ 10000 := by
  refine (h.byInstitution.length_le hnd fun c hc => ?_).trans (s.institutionProducts i).length_le
  obtain ⟨p, hp⟩ := Option.isSome_iff_exists.mp (hcs c hc)
  exact ⟨(c, i), p, hp, rfl, rfl⟩

/-! ## Deletion is always open to the creator -/

/-- In every storage, the creator of a product can delete it: the pair then leaves `Products`
and its institution's bucket. -/
theorem deleteProduct_enabled (s : State T) (now : Nat) {k : ProductCode T × InstitutionCode T}
    {p : ProductInfo T} (hp : s.products k = some p) :
    ∃ s', dispatch (.signed p.creator) now (.deleteProduct k.1.toList k.2.toList) s = .ok () s' ∧
      s'.products k = none ∧ k.1 ∉ (s'.institutionProducts k.2).toList := by
  exact ⟨_, dispatch_ok.mpr (by
    simp only [Call.body, deleteProduct, depositEvent, bind_assoc, ensureSigned_bind, okOr_bind,
      BoundedVec.tryFrom_toList_self, get_bind, Prod.mk.eta, hp, ensure_bind, if_true,
      modify_bind, modify_apply]
    rfl), by simp [Function.update_same]⟩

end FissionMall.Product
