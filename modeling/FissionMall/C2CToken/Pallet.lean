import FissionMall.Frame.Dispatch

/-
  pallet `c2c-token` (`pallets/c2c-token/src/lib.rs`): tokens keyed by `(token code,
  institution code)` in a double map, the index `InstitutionTokens` from an institution to the
  bare token codes it issues, and `UserTokens` from an account to the pairs it holds.

  `create_token` writes `Tokens` and then pushes onto both indexes, either of which may be full.
  `trade_token` is open to every signed account: it moves stock and sales inside the `Tokens`
  closure, and then, for a `Buy` token, adds the pair to the trader's `UserTokens` unless it is
  there already. `delete_token` retains the pair out of the signer's `UserTokens` only; the
  signer is the token's creator.

  Not modelled: weights.
-/

namespace FissionMall.C2CToken

open Function (update)

/-- `Config`. -/
structure Config extends SystemConfig where
  MaxTokenCodeLength : Nat
  MaxInstitutionCodeLength : Nat
  MaxNameLength : Nat
  MaxCategoryLength : Nat

/-- `TokenStatus`. -/
inductive TokenStatus
  | available | unavailable
deriving DecidableEq, Repr

/-- `TokenTradableDirection`. -/
inductive TokenTradableDirection
  | sell | buy
deriving DecidableEq, Repr

/-- `Error<T>`. -/
inductive Error
  | tokenAlreadyExists | tokenNotFound | notAuthorized | stringConversionError
  | institutionTokenListFull | userTokenListFull | insufficientStock | invalidStatus
  | invalidPrice | invalidTradeDirection
deriving DecidableEq, Repr

section Types

variable (T : Config)

abbrev TokenCode := BoundedVec (BitVec 8) T.MaxTokenCodeLength
abbrev InstitutionCode := BoundedVec (BitVec 8) T.MaxInstitutionCodeLength

/-- `TokenInfo<T>`. -/
structure TokenInfo where
  institutionCode : InstitutionCode T
  tokenName : BoundedVec (BitVec 8) T.MaxNameLength
  category : BoundedVec (BitVec 8) T.MaxCategoryLength
  price : BitVec 128
  tokenTradeDirection : TokenTradableDirection
  stockQuantity : BitVec 32
  salesQuantity : BitVec 32
  status : TokenStatus
  creator : T.AccountId

/-- `Event<T>`. -/
inductive Event
  | tokenCreated (code : TokenCode T) (institution : InstitutionCode T) (who : T.AccountId)
  | tokenUpdated (code : TokenCode T) (institution : InstitutionCode T)
  | tokenStatusUpdated (code : TokenCode T) (institution : InstitutionCode T) (status : BitVec 8)
  | tokenPriceUpdated (code : TokenCode T) (institution : InstitutionCode T) (price : BitVec 128)
  | tokenStockUpdated (code : TokenCode T) (institution : InstitutionCode T) (stock : BitVec 32)
  | tokenDeleted (code : TokenCode T) (institution : InstitutionCode T)
  | tokenTraded (code : TokenCode T) (institution : InstitutionCode T) (who : T.AccountId)
      (quantity : BitVec 32)

/-- The pallet's storage, and its log of events. `Tokens` is a double map, read here as a
map on pairs. -/
structure State where
  tokens : TokenCode T × InstitutionCode T → Option (TokenInfo T)
  institutionTokens : InstitutionCode T → BoundedVec (TokenCode T) 10000
  userTokens : T.AccountId → BoundedVec (TokenCode T × InstitutionCode T) 1000
  /-- The list of the pallet's `deposit_event` calls, in order. `frame_system` stores no event
  deposited at block 0, so read at genesis the list holds more than the chain keeps. -/
  events : List (Event T)

/-- Empty storage. -/
def State.empty : State T := ⟨fun _ => none, fun _ => .empty, fun _ => .empty, []⟩

abbrev Body := Dispatch Error (State T) Unit

end Types

variable {T : Config}

/-- The `match token_trade_direction` of `create_token`. -/
def decodeDirection (direction : BitVec 8) : Option TokenTradableDirection :=
  match direction.toNat with
  | 0 => some .sell
  | 1 => some .buy
  | _ => none

/-- The `if let Some(dir)` of `update_token_info`: the decoded direction, or `current` when none
is given. -/
def replaceDirection (current : TokenTradableDirection) :
    Option (BitVec 8) → Option TokenTradableDirection
  | some d => decodeDirection d
  | none => some current

/-- The `match status` of `update_token_status`. -/
def decodeStatus (status : BitVec 8) : Option TokenStatus :=
  match status.toNat with
  | 0 => some .available
  | 1 => some .unavailable
  | _ => none

/-- `Self::deposit_event`: the event is appended to the log `State.events`. -/
def depositEvent (e : Event T) : Body T :=
  modify fun s => { s with events := s.events ++ [e] }

/-- `Tokens::insert`, and `Tokens::try_mutate` writing `t` back. -/
def writeToken (key : TokenCode T × InstitutionCode T) (t : TokenInfo T) : Body T :=
  modify fun s => { s with tokens := update s.tokens key (some t) }

/-- `create_token`. -/
def createToken (origin : Origin T.AccountId) (tokenCode institutionCode tokenName category : Bytes)
    (price : BitVec 128) (tokenTradeDirection : BitVec 8) (stockQuantity : BitVec 32) : Body T := do
  let who ← ensureSigned origin
  let boundedTokenCode ← okOr (BoundedVec.tryFrom tokenCode) .stringConversionError
  let boundedInstitutionCode ← okOr (BoundedVec.tryFrom institutionCode) .stringConversionError
  ensure ((← get).tokens (boundedTokenCode, boundedInstitutionCode)).isNone .tokenAlreadyExists
  ensure (price > 0) .invalidPrice
  let tradeDirection ← okOr (decodeDirection tokenTradeDirection) .invalidTradeDirection
  let boundedTokenName ← okOr (BoundedVec.tryFrom tokenName) .stringConversionError
  let boundedCategory ← okOr (BoundedVec.tryFrom category) .stringConversionError
  let tokenInfo : TokenInfo T :=
    { institutionCode := boundedInstitutionCode, tokenName := boundedTokenName,
      category := boundedCategory, price := price, tokenTradeDirection := tradeDirection,
      stockQuantity := stockQuantity, salesQuantity := 0, status := .available, creator := who }
  writeToken (boundedTokenCode, boundedInstitutionCode) tokenInfo
  let tokens ← okOr (((← get).institutionTokens boundedInstitutionCode).tryPush boundedTokenCode)
    .institutionTokenListFull
  modify fun s => { s with
    institutionTokens := update s.institutionTokens boundedInstitutionCode tokens }
  let tokens ← okOr (((← get).userTokens who).tryPush (boundedTokenCode, boundedInstitutionCode))
    .userTokenListFull
  modify fun s => { s with userTokens := update s.userTokens who tokens }
  depositEvent (.tokenCreated boundedTokenCode boundedInstitutionCode who)

/-- `update_token_info`: each field given is set in turn inside the `Tokens` closure, and a
price given must be positive. -/
def updateTokenInfo (origin : Origin T.AccountId) (tokenCode institutionCode : Bytes)
    (tokenName category : Option Bytes) (price : Option (BitVec 128))
    (tokenTradeDirection : Option (BitVec 8)) : Body T := do
  let who ← ensureSigned origin
  let boundedTokenCode ← okOr (BoundedVec.tryFrom tokenCode) .stringConversionError
  let boundedInstitutionCode ← okOr (BoundedVec.tryFrom institutionCode) .stringConversionError
  let token ← okOr ((← get).tokens (boundedTokenCode, boundedInstitutionCode)) .tokenNotFound
  ensure (token.creator = who) .notAuthorized
  let name ← okOr (token.tokenName.tryReplace tokenName) .stringConversionError
  let cat ← okOr (token.category.tryReplace category) .stringConversionError
  ensure (∀ p ∈ price, p > 0) .invalidPrice
  let dir ← okOr (replaceDirection token.tokenTradeDirection tokenTradeDirection)
    .invalidTradeDirection
  depositEvent (.tokenUpdated boundedTokenCode boundedInstitutionCode)
  writeToken (boundedTokenCode, boundedInstitutionCode) { token with
    tokenName := name, category := cat, price := price.getD token.price,
    tokenTradeDirection := dir }

/-- `update_token_status`. -/
def updateTokenStatus (origin : Origin T.AccountId) (tokenCode institutionCode : Bytes)
    (status : BitVec 8) : Body T := do
  let who ← ensureSigned origin
  let boundedTokenCode ← okOr (BoundedVec.tryFrom tokenCode) .stringConversionError
  let boundedInstitutionCode ← okOr (BoundedVec.tryFrom institutionCode) .stringConversionError
  let token ← okOr ((← get).tokens (boundedTokenCode, boundedInstitutionCode)) .tokenNotFound
  ensure (token.creator = who) .notAuthorized
  let newStatus ← okOr (decodeStatus status) .invalidStatus
  depositEvent (.tokenStatusUpdated boundedTokenCode boundedInstitutionCode status)
  writeToken (boundedTokenCode, boundedInstitutionCode) { token with status := newStatus }

/-- `update_token_price`: the price is checked before the codes are converted. -/
def updateTokenPrice (origin : Origin T.AccountId) (tokenCode institutionCode : Bytes)
    (newPrice : BitVec 128) : Body T := do
  let who ← ensureSigned origin
  ensure (newPrice > 0) .invalidPrice
  let boundedTokenCode ← okOr (BoundedVec.tryFrom tokenCode) .stringConversionError
  let boundedInstitutionCode ← okOr (BoundedVec.tryFrom institutionCode) .stringConversionError
  let token ← okOr ((← get).tokens (boundedTokenCode, boundedInstitutionCode)) .tokenNotFound
  ensure (token.creator = who) .notAuthorized
  depositEvent (.tokenPriceUpdated boundedTokenCode boundedInstitutionCode newPrice)
  writeToken (boundedTokenCode, boundedInstitutionCode) { token with price := newPrice }

/-- `update_stock`. -/
def updateStock (origin : Origin T.AccountId) (tokenCode institutionCode : Bytes)
    (newStock : BitVec 32) : Body T := do
  let who ← ensureSigned origin
  let boundedTokenCode ← okOr (BoundedVec.tryFrom tokenCode) .stringConversionError
  let boundedInstitutionCode ← okOr (BoundedVec.tryFrom institutionCode) .stringConversionError
  let token ← okOr ((← get).tokens (boundedTokenCode, boundedInstitutionCode)) .tokenNotFound
  ensure (token.creator = who) .notAuthorized
  depositEvent (.tokenStockUpdated boundedTokenCode boundedInstitutionCode newStock)
  writeToken (boundedTokenCode, boundedInstitutionCode) { token with stockQuantity := newStock }

/-- `delete_token`: the pair leaves `InstitutionTokens` and the signer's `UserTokens`. -/
def deleteToken (origin : Origin T.AccountId) (tokenCode institutionCode : Bytes) : Body T := do
  let who ← ensureSigned origin
  let boundedTokenCode ← okOr (BoundedVec.tryFrom tokenCode) .stringConversionError
  let boundedInstitutionCode ← okOr (BoundedVec.tryFrom institutionCode) .stringConversionError
  let token ← okOr ((← get).tokens (boundedTokenCode, boundedInstitutionCode)) .tokenNotFound
  ensure (token.creator = who) .notAuthorized
  modify fun s => { s with
    institutionTokens := update s.institutionTokens boundedInstitutionCode
      ((s.institutionTokens boundedInstitutionCode).retain (· != boundedTokenCode)) }
  modify fun s => { s with
    userTokens := update s.userTokens who ((s.userTokens who).retain fun x =>
      x.1 != boundedTokenCode || x.2 != boundedInstitutionCode) }
  modify fun s => { s with
    tokens := update s.tokens (boundedTokenCode, boundedInstitutionCode) none }
  depositEvent (.tokenDeleted boundedTokenCode boundedInstitutionCode)

/-- The `UserTokens::try_mutate` of `trade_token`: push `pair` unless `who` holds it already. -/
def addUserToken (who : T.AccountId) (pair : TokenCode T × InstitutionCode T) : Body T := do
  let tokens := (← get).userTokens who
  if !tokens.contains pair then
    let tokens ← okOr (tokens.tryPush pair) .userTokenListFull
    modify fun s => { s with userTokens := update s.userTokens who tokens }

/-- `trade_token`: any signed account; an unavailable token reads as not found. A `Sell` token
checks and moves stock into sales, a `Buy` token adds to its stock. -/
def tradeToken (origin : Origin T.AccountId) (tokenCode institutionCode : Bytes)
    (quantity : BitVec 32) : Body T := do
  let who ← ensureSigned origin
  let boundedTokenCode ← okOr (BoundedVec.tryFrom tokenCode) .stringConversionError
  let boundedInstitutionCode ← okOr (BoundedVec.tryFrom institutionCode) .stringConversionError
  let token ← okOr ((← get).tokens (boundedTokenCode, boundedInstitutionCode)) .tokenNotFound
  ensure (token.status = .available) .tokenNotFound
  let token ← match token.tokenTradeDirection with
    | .sell => do
      ensure (token.stockQuantity ≥ quantity) .insufficientStock
      pure { token with
        stockQuantity := saturatingSub token.stockQuantity quantity,
        salesQuantity := saturatingAdd token.salesQuantity quantity }
    | .buy => pure { token with stockQuantity := saturatingAdd token.stockQuantity quantity }
  depositEvent (.tokenTraded boundedTokenCode boundedInstitutionCode who quantity)
  writeToken (boundedTokenCode, boundedInstitutionCode) token
  let tokenInfo ← okOr ((← get).tokens (boundedTokenCode, boundedInstitutionCode)) .tokenNotFound
  if tokenInfo.tokenTradeDirection = .buy then
    addUserToken who (boundedTokenCode, boundedInstitutionCode)

/-- The pallet's calls with their arguments (`call_index` 0 to 6). -/
inductive Call
  | createToken (tokenCode institutionCode tokenName category : Bytes) (price : BitVec 128)
      (tokenTradeDirection : BitVec 8) (stockQuantity : BitVec 32)
  | updateTokenInfo (tokenCode institutionCode : Bytes) (tokenName category : Option Bytes)
      (price : Option (BitVec 128)) (tokenTradeDirection : Option (BitVec 8))
  | updateTokenStatus (tokenCode institutionCode : Bytes) (status : BitVec 8)
  | updateTokenPrice (tokenCode institutionCode : Bytes) (newPrice : BitVec 128)
  | updateStock (tokenCode institutionCode : Bytes) (newStock : BitVec 32)
  | deleteToken (tokenCode institutionCode : Bytes)
  | tradeToken (tokenCode institutionCode : Bytes) (quantity : BitVec 32)

/-- The body of a call, from `origin`. -/
def Call.body (origin : Origin T.AccountId) : Call → Body T
  | .createToken tc ic n c p d st => C2CToken.createToken origin tc ic n c p d st
  | .updateTokenInfo tc ic n c p d => C2CToken.updateTokenInfo origin tc ic n c p d
  | .updateTokenStatus tc ic st => C2CToken.updateTokenStatus origin tc ic st
  | .updateTokenPrice tc ic p => C2CToken.updateTokenPrice origin tc ic p
  | .updateStock tc ic st => C2CToken.updateStock origin tc ic st
  | .deleteToken tc ic => C2CToken.deleteToken origin tc ic
  | .tradeToken tc ic q => C2CToken.tradeToken origin tc ic q

/-- A call as the runtime dispatches it, inside the storage layer of `#[pallet::call]`. -/
def dispatch (origin : Origin T.AccountId) (call : Call) : Body T :=
  withStorageLayer (call.body origin)

/-- One extrinsic: origin and call. -/
def step (x : Origin T.AccountId × Call) : Body T := dispatch x.1 x.2

end FissionMall.C2CToken
