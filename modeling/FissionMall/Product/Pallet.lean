import FissionMall.Frame.Dispatch

/-
  pallet `product` (`pallets/product/src/lib.rs`): products keyed by `(product code,
  institution code)` in a double map, and the index `InstitutionProducts` from an institution to
  the bare product codes it sells.

  `create_product` converts its lists of member groups and detail images in `for` loops that
  stop at the first value too long (`List.mapM` over `try_from`), then bounds the lists.
  `update_product_info` sets each field it is given, then checks the two prices as they stand
  after the update. `purchase_product` is open to every signed account, and is the only call
  that deposits no event.

  Not modelled: weights.
-/

namespace FissionMall.Product

/-- `Config`. -/
structure Config extends SystemConfig where
  MaxProductCodeLength : Nat
  MaxInstitutionCodeLength : Nat
  MaxNameLength : Nat
  MaxCategoryLength : Nat
  MaxBrandLength : Nat
  MaxAuthorizedMemberGroup : Nat
  MaxAuthorizedGroups : Nat
  MaxDescriptionLength : Nat
  MaxImageUrlLength : Nat
  MaxDetailImages : Nat

/-- `ProductStatus`. -/
inductive ProductStatus
  | available | unavailable
deriving DecidableEq, Repr

/-- `Error<T>`. -/
inductive Error
  | productAlreadyExists | productNotFound | notAuthorized | stringConversionError
  | tooManyAuthorizedGroups | tooManyDetailImages | invalidPrice | invalidProfitRatio
  | institutionProductListFull | insufficientStock | invalidStatus
deriving DecidableEq, Repr

section Types

variable (T : Config)

abbrev ProductCode := BoundedVec (BitVec 8) T.MaxProductCodeLength
abbrev InstitutionCode := BoundedVec (BitVec 8) T.MaxInstitutionCodeLength

/-- `ProductInfo<T>`. Block numbers are `Nat`. -/
structure ProductInfo where
  productName : BoundedVec (BitVec 8) T.MaxNameLength
  category : BoundedVec (BitVec 8) T.MaxCategoryLength
  brand : BoundedVec (BitVec 8) T.MaxBrandLength
  authorizedMemberGroups :
    BoundedVec (BoundedVec (BitVec 8) T.MaxAuthorizedMemberGroup) T.MaxAuthorizedGroups
  originalPrice : BitVec 64
  currentPrice : BitVec 64
  description : BoundedVec (BitVec 8) T.MaxDescriptionLength
  mainImage : BoundedVec (BitVec 8) T.MaxImageUrlLength
  detailImages : BoundedVec (BoundedVec (BitVec 8) T.MaxImageUrlLength) T.MaxDetailImages
  stockQuantity : BitVec 32
  salesQuantity : BitVec 32
  weight : BitVec 32
  status : ProductStatus
  profitRatio : Perbill
  createdDate : Nat
  creator : T.AccountId

/-- `Event<T>`. -/
inductive Event
  | productCreated (code : ProductCode T) (institution : InstitutionCode T) (who : T.AccountId)
  | productUpdated (code : ProductCode T) (institution : InstitutionCode T)
  | productStatusUpdated (code : ProductCode T) (institution : InstitutionCode T) (status : BitVec 8)
  | productStockUpdated (code : ProductCode T) (institution : InstitutionCode T) (stock : BitVec 32)
  | productDeleted (code : ProductCode T) (institution : InstitutionCode T)

/-- The pallet's storage, and its log of events. `Products` is a double map, read here as
a map on pairs. -/
structure State where
  products : ProductCode T × InstitutionCode T → Option (ProductInfo T)
  institutionProducts : InstitutionCode T → BoundedVec (ProductCode T) 10000
  /-- The list of the pallet's `deposit_event` calls, in order. `frame_system` stores no event
  deposited at block 0, so read at genesis the list holds more than the chain keeps. -/
  events : List (Event T)

/-- Empty storage. -/
def State.empty : State T := ⟨fun _ => none, fun _ => .empty, []⟩

abbrev Body := Dispatch Error (State T) Unit

end Types

variable {T : Config}

/-- The `match status` of `update_product_status`. -/
def decodeStatus (status : BitVec 8) : Option ProductStatus :=
  match status.toNat with
  | 0 => some .available
  | 1 => some .unavailable
  | _ => none

/-- `Self::deposit_event`: the event is appended to the log `State.events`. -/
def depositEvent (e : Event T) : Body T :=
  modify fun s => { s with events := s.events ++ [e] }

/-- `Products::try_mutate(&code, &institution, …)` writing `p` back. -/
def writeProduct (key : ProductCode T × InstitutionCode T) (p : ProductInfo T) : Body T :=
  modify fun s => { s with products := Function.update s.products key (some p) }

/-- `create_product`. -/
def createProduct (origin : Origin T.AccountId) (now : Nat)
    (productCode institutionCode productName category brand : Bytes)
    (authorizedMemberGroups : List Bytes) (originalPrice currentPrice : BitVec 64)
    (description mainImage : Bytes) (detailImages : List Bytes) (stockQuantity weight : BitVec 32)
    (profitRatio : Perbill) : Body T := do
  let who ← ensureSigned origin
  let boundedProductCode ← okOr (BoundedVec.tryFrom productCode) .stringConversionError
  let boundedInstitutionCode ← okOr (BoundedVec.tryFrom institutionCode) .stringConversionError
  ensure ((← get).products (boundedProductCode, boundedInstitutionCode)).isNone
    .productAlreadyExists
  ensure (currentPrice ≤ originalPrice) .invalidPrice
  let boundedProductName ← okOr (BoundedVec.tryFrom productName) .stringConversionError
  let boundedCategory ← okOr (BoundedVec.tryFrom category) .stringConversionError
  let boundedBrand ← okOr (BoundedVec.tryFrom brand) .stringConversionError
  let boundedGroups ← okOr (authorizedMemberGroups.mapM BoundedVec.tryFrom) .stringConversionError
  let boundedAuthorizedGroups ← okOr (BoundedVec.tryFrom boundedGroups) .tooManyAuthorizedGroups
  let boundedDescription ← okOr (BoundedVec.tryFrom description) .stringConversionError
  let boundedMainImage ← okOr (BoundedVec.tryFrom mainImage) .stringConversionError
  let boundedImages ← okOr (detailImages.mapM BoundedVec.tryFrom) .stringConversionError
  let boundedDetailImages ← okOr (BoundedVec.tryFrom boundedImages) .tooManyDetailImages
  let productInfo : ProductInfo T :=
    { productName := boundedProductName, category := boundedCategory, brand := boundedBrand,
      authorizedMemberGroups := boundedAuthorizedGroups, originalPrice := originalPrice,
      currentPrice := currentPrice, description := boundedDescription,
      mainImage := boundedMainImage, detailImages := boundedDetailImages,
      stockQuantity := stockQuantity, salesQuantity := 0, weight := weight,
      status := .available, profitRatio := profitRatio, createdDate := now, creator := who }
  writeProduct (boundedProductCode, boundedInstitutionCode) productInfo
  let products ← okOr (((← get).institutionProducts boundedInstitutionCode).tryPush
    boundedProductCode) .institutionProductListFull
  modify fun s => { s with
    institutionProducts := Function.update s.institutionProducts boundedInstitutionCode products }
  depositEvent (.productCreated boundedProductCode boundedInstitutionCode who)

/-- `update_product_info`. -/
def updateProductInfo (origin : Origin T.AccountId) (productCode institutionCode : Bytes)
    (productName category brand : Option Bytes) (originalPrice currentPrice : Option (BitVec 64))
    (description mainImage : Option Bytes) (weight : Option (BitVec 32))
    (profitRatio : Option Perbill) : Body T := do
  let who ← ensureSigned origin
  let boundedProductCode ← okOr (BoundedVec.tryFrom productCode) .stringConversionError
  let boundedInstitutionCode ← okOr (BoundedVec.tryFrom institutionCode) .stringConversionError
  let product ← okOr ((← get).products (boundedProductCode, boundedInstitutionCode))
    .productNotFound
  ensure (product.creator = who) .notAuthorized
  let name ← okOr (product.productName.tryReplace productName) .stringConversionError
  let cat ← okOr (product.category.tryReplace category) .stringConversionError
  let br ← okOr (product.brand.tryReplace brand) .stringConversionError
  let product := { product with
    productName := name, category := cat, brand := br,
    originalPrice := originalPrice.getD product.originalPrice,
    currentPrice := currentPrice.getD product.currentPrice }
  ensure (product.currentPrice ≤ product.originalPrice) .invalidPrice
  let desc ← okOr (product.description.tryReplace description) .stringConversionError
  let img ← okOr (product.mainImage.tryReplace mainImage) .stringConversionError
  let product := { product with
    description := desc, mainImage := img, weight := weight.getD product.weight,
    profitRatio := profitRatio.getD product.profitRatio }
  depositEvent (.productUpdated boundedProductCode boundedInstitutionCode)
  writeProduct (boundedProductCode, boundedInstitutionCode) product

/-- `update_product_status`. -/
def updateProductStatus (origin : Origin T.AccountId) (productCode institutionCode : Bytes)
    (status : BitVec 8) : Body T := do
  let who ← ensureSigned origin
  let boundedProductCode ← okOr (BoundedVec.tryFrom productCode) .stringConversionError
  let boundedInstitutionCode ← okOr (BoundedVec.tryFrom institutionCode) .stringConversionError
  let product ← okOr ((← get).products (boundedProductCode, boundedInstitutionCode))
    .productNotFound
  ensure (product.creator = who) .notAuthorized
  let newStatus ← okOr (decodeStatus status) .invalidStatus
  depositEvent (.productStatusUpdated boundedProductCode boundedInstitutionCode status)
  writeProduct (boundedProductCode, boundedInstitutionCode) { product with status := newStatus }

/-- `update_stock`. -/
def updateStock (origin : Origin T.AccountId) (productCode institutionCode : Bytes)
    (newStock : BitVec 32) : Body T := do
  let who ← ensureSigned origin
  let boundedProductCode ← okOr (BoundedVec.tryFrom productCode) .stringConversionError
  let boundedInstitutionCode ← okOr (BoundedVec.tryFrom institutionCode) .stringConversionError
  let product ← okOr ((← get).products (boundedProductCode, boundedInstitutionCode))
    .productNotFound
  ensure (product.creator = who) .notAuthorized
  depositEvent (.productStockUpdated boundedProductCode boundedInstitutionCode newStock)
  writeProduct (boundedProductCode, boundedInstitutionCode) { product with stockQuantity := newStock }

/-- `delete_product`. -/
def deleteProduct (origin : Origin T.AccountId) (productCode institutionCode : Bytes) : Body T := do
  let who ← ensureSigned origin
  let boundedProductCode ← okOr (BoundedVec.tryFrom productCode) .stringConversionError
  let boundedInstitutionCode ← okOr (BoundedVec.tryFrom institutionCode) .stringConversionError
  let product ← okOr ((← get).products (boundedProductCode, boundedInstitutionCode))
    .productNotFound
  ensure (product.creator = who) .notAuthorized
  modify fun s => { s with
    institutionProducts := Function.update s.institutionProducts boundedInstitutionCode
      ((s.institutionProducts boundedInstitutionCode).retain (· != boundedProductCode)) }
  modify fun s => { s with
    products := Function.update s.products (boundedProductCode, boundedInstitutionCode) none }
  depositEvent (.productDeleted boundedProductCode boundedInstitutionCode)

/-- `purchase_product`: any signed account; an unavailable product reads as not found. -/
def purchaseProduct (origin : Origin T.AccountId) (productCode institutionCode : Bytes)
    (quantity : BitVec 32) : Body T := do
  let _who ← ensureSigned origin
  let boundedProductCode ← okOr (BoundedVec.tryFrom productCode) .stringConversionError
  let boundedInstitutionCode ← okOr (BoundedVec.tryFrom institutionCode) .stringConversionError
  let product ← okOr ((← get).products (boundedProductCode, boundedInstitutionCode))
    .productNotFound
  ensure (product.status = .available) .productNotFound
  ensure (product.stockQuantity ≥ quantity) .insufficientStock
  writeProduct (boundedProductCode, boundedInstitutionCode) { product with
    stockQuantity := saturatingSub product.stockQuantity quantity,
    salesQuantity := saturatingAdd product.salesQuantity quantity }

/-- The pallet's calls with their arguments (`call_index` 0 to 5). -/
inductive Call
  | createProduct (productCode institutionCode productName category brand : Bytes)
      (authorizedMemberGroups : List Bytes) (originalPrice currentPrice : BitVec 64)
      (description mainImage : Bytes) (detailImages : List Bytes) (stockQuantity weight : BitVec 32)
      (profitRatio : Perbill)
  | updateProductInfo (productCode institutionCode : Bytes) (productName category brand : Option Bytes)
      (originalPrice currentPrice : Option (BitVec 64)) (description mainImage : Option Bytes)
      (weight : Option (BitVec 32)) (profitRatio : Option Perbill)
  | updateProductStatus (productCode institutionCode : Bytes) (status : BitVec 8)
  | updateStock (productCode institutionCode : Bytes) (newStock : BitVec 32)
  | deleteProduct (productCode institutionCode : Bytes)
  | purchaseProduct (productCode institutionCode : Bytes) (quantity : BitVec 32)

/-- The body of a call, from `origin` at block `now`. -/
def Call.body (origin : Origin T.AccountId) (now : Nat) : Call → Body T
  | .createProduct pc ic n c b g op cp d mi di st w pr =>
    Product.createProduct origin now pc ic n c b g op cp d mi di st w pr
  | .updateProductInfo pc ic n c b op cp d mi w pr =>
    Product.updateProductInfo origin pc ic n c b op cp d mi w pr
  | .updateProductStatus pc ic st => Product.updateProductStatus origin pc ic st
  | .updateStock pc ic st => Product.updateStock origin pc ic st
  | .deleteProduct pc ic => Product.deleteProduct origin pc ic
  | .purchaseProduct pc ic q => Product.purchaseProduct origin pc ic q

/-- A call as the runtime dispatches it, inside the storage layer of `#[pallet::call]`. -/
def dispatch (origin : Origin T.AccountId) (now : Nat) (call : Call) : Body T :=
  withStorageLayer (call.body origin now)

/-- One extrinsic: origin, block number and call. -/
def step (x : Origin T.AccountId × Nat × Call) : Body T := dispatch x.1 x.2.1 x.2.2

end FissionMall.Product
