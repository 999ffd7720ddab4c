import FissionMall.Frame.Dispatch
import FissionMall.Frame.Index

/-
  pallet `institution-payment-method` (`pallets/institution-payment-method/src/lib.rs`): the
  payment methods of each institution id, four optional strings. The record keeps no creator,
  and no call reads its signer beyond `ensure_signed` (`set_payment_method` puts it in its
  `PaymentMethodCreated` event): `remove_payment_method` and `update_payment_field` do the same
  for every signer (`removePaymentMethod_any_signer`, `updatePaymentField_any_signer`), so any
  account removes or rewrites the methods another account set
  (`other_signer_removes_payment_method`). `NotAuthorized` is declared and never raised.

  `set_payment_method` refuses four `None`s (`AtLeastOnePaymentMethodRequired`), and every call
  but `update_payment_field` with value `None` keeps a method in every stored record
  (`HasMethods.dispatch`). That one call may clear the last method
  (`update_payment_field_clears_every_method`).

  The two read-only helpers `get_payment_method` and `has_payment_method` read the map.

  Not modelled: weights.
-/

set_option linter.dupNamespace false

namespace FissionMall.PaymentMethod

open Function (update)

/-- `Config`. -/
structure Config extends SystemConfig where
  MaxInstitutionIdLength : Nat
  MaxPaymentLength : Nat

/-- `Error<T>`. -/
inductive Error
  | institutionNotFound | paymentMethodAlreadyExists | paymentMethodNotFound | notAuthorized
  | stringConversionError | atLeastOnePaymentMethodRequired
deriving DecidableEq, Repr

section Types

variable (T : Config)

abbrev InstitutionId := BoundedVec (BitVec 8) T.MaxInstitutionIdLength

/-- `PaymentMethod<T>`. -/
structure PaymentMethod where
  wechat : Option (BoundedVec (BitVec 8) T.MaxPaymentLength)
  alipay : Option (BoundedVec (BitVec 8) T.MaxPaymentLength)
  token : Option (BoundedVec (BitVec 8) T.MaxPaymentLength)
  other : Option (BoundedVec (BitVec 8) T.MaxPaymentLength)
deriving DecidableEq

/-- `Event<T>`. -/
inductive Event
  | paymentMethodCreated (id : InstitutionId T) (who : T.AccountId)
  | paymentMethodUpdated (id : InstitutionId T)
  | paymentMethodDeleted (id : InstitutionId T)

/-- The pallet's storage, and its log of events. -/
structure State where
  paymentMethods : InstitutionId T → Option (PaymentMethod T)
  /-- The list of the pallet's `deposit_event` calls, in order. `frame_system` stores no event
  deposited at block 0, so read at genesis the list holds more than the chain keeps. -/
  events : List (Event T)

/-- Empty storage. -/
def State.empty : State T := ⟨fun _ => none, []⟩

abbrev Body := Dispatch Error (State T) Unit

end Types

variable {T : Config}

/-- The condition of `AtLeastOnePaymentMethodRequired`: one of the four methods is given. -/
def atLeastOne {α : Type} (wechat alipay token other : Option α) : Bool :=
  wechat.isSome || alipay.isSome || token.isSome || other.isSome

/-- A stored record with a method set. -/
def PaymentMethod.HasMethod (p : PaymentMethod T) : Prop :=
  atLeastOne p.wechat p.alipay p.token p.other = true

/-- `Self::deposit_event`: the event is appended to the log `State.events`. -/
def depositEvent (e : Event T) : Body T :=
  modify fun s => { s with events := s.events ++ [e] }

/-- `set_payment_method`: inserts the record whether or not the id has one, and deposits
`PaymentMethodUpdated` or `PaymentMethodCreated` accordingly. -/
def setPaymentMethod (origin : Origin T.AccountId) (institutionId : Bytes)
    (wechat alipay token other : Option Bytes) : Body T := do
  let who ← ensureSigned origin
  let boundedId ← okOr (BoundedVec.tryFrom institutionId) .stringConversionError
  ensure (atLeastOne wechat alipay token other = true) .atLeastOnePaymentMethodRequired
  let boundedWechat ← okOr (BoundedVec.tryFromOpt wechat) .stringConversionError
  let boundedAlipay ← okOr (BoundedVec.tryFromOpt alipay) .stringConversionError
  let boundedToken ← okOr (BoundedVec.tryFromOpt token) .stringConversionError
  let boundedOther ← okOr (BoundedVec.tryFromOpt other) .stringConversionError
  let isUpdate := ((← get).paymentMethods boundedId).isSome
  modify fun s => { s with
    paymentMethods := update s.paymentMethods boundedId
      (some ⟨boundedWechat, boundedAlipay, boundedToken, boundedOther⟩) }
  depositEvent (if isUpdate then .paymentMethodUpdated boundedId
    else .paymentMethodCreated boundedId who)

/-- `remove_payment_method`: any signed account. -/
def removePaymentMethod (origin : Origin T.AccountId) (institutionId : Bytes) : Body T := do
  let _who ← ensureSigned origin
  let boundedId ← okOr (BoundedVec.tryFrom institutionId) .stringConversionError
  ensure ((← get).paymentMethods boundedId).isSome .paymentMethodNotFound
  modify fun s => { s with paymentMethods := update s.paymentMethods boundedId none }
  depositEvent (.paymentMethodDeleted boundedId)

/-- The `match field_type` of `update_payment_field`: `none` for a type other than 0 to 3. -/
def setField (payment : PaymentMethod T) (fieldType : BitVec 8)
    (value : Option (BoundedVec (BitVec 8) T.MaxPaymentLength)) : Option (PaymentMethod T) :=
  match fieldType.toNat with
  | 0 => some { payment with wechat := value }
  | 1 => some { payment with alipay := value }
  | 2 => some { payment with token := value }
  | 3 => some { payment with other := value }
  | _ => none

/-- `update_payment_field`: any signed account; an unknown field type fails with
`StringConversionError`. -/
def updatePaymentField (origin : Origin T.AccountId) (institutionId : Bytes) (fieldType : BitVec 8)
    (value : Option Bytes) : Body T := do
  let _who ← ensureSigned origin
  let boundedId ← okOr (BoundedVec.tryFrom institutionId) .stringConversionError
  let boundedValue ← okOr (BoundedVec.tryFromOpt value) .stringConversionError
  let payment ← okOr ((← get).paymentMethods boundedId) .paymentMethodNotFound
  let payment ← okOr (setField payment fieldType boundedValue) .stringConversionError
  modify fun s => { s with paymentMethods := update s.paymentMethods boundedId (some payment) }
  depositEvent (.paymentMethodUpdated boundedId)

/-- The pallet's calls with their arguments (`call_index` 0 to 2). -/
inductive Call
  | setPaymentMethod (institutionId : Bytes) (wechat alipay token other : Option Bytes)
  | removePaymentMethod (institutionId : Bytes)
  | updatePaymentField (institutionId : Bytes) (fieldType : BitVec 8) (value : Option Bytes)

/-- The body of a call, from `origin`. -/
def Call.body (origin : Origin T.AccountId) : Call → Body T
  | .setPaymentMethod id w a t o => PaymentMethod.setPaymentMethod origin id w a t o
  | .removePaymentMethod id => PaymentMethod.removePaymentMethod origin id
  | .updatePaymentField id f v => PaymentMethod.updatePaymentField origin id f v

/-- A call as the runtime dispatches it, inside the storage layer of `#[pallet::call]`. -/
def dispatch (origin : Origin T.AccountId) (call : Call) : Body T :=
  withStorageLayer (call.body origin)

/-- One extrinsic: origin and call. -/
def step (x : Origin T.AccountId × Call) : Body T := dispatch x.1 x.2

/-- `get_payment_method`. -/
def getPaymentMethod (s : State T) (institutionId : InstitutionId T) : Option (PaymentMethod T) :=
  s.paymentMethods institutionId

/-- `has_payment_method`: `PaymentMethods::contains_key`. -/
def hasPaymentMethod (s : State T) (institutionId : InstitutionId T) : Bool :=
  (s.paymentMethods institutionId).isSome

/-! ## Spec lemmas -/

theorem dispatch_ok {origin : Origin T.AccountId} {c : Call} {s s' : State T} :
    dispatch origin c s = .ok () s' ↔ c.body origin s = .ok () s' :=
  withStorageLayer_ok

/-- A failing call leaves the storage as it was. -/
theorem dispatch_error {origin : Origin T.AccountId} {c : Call} {s s' : State T}
    {e : DispatchError Error} (h : dispatch origin c s = .error e s') : s' = s :=
  withStorageLayer_error h

section Calls

variable {origin : Origin T.AccountId} {id : Bytes} {s s' : State T}

theorem setPaymentMethod_ok {w a t o : Option Bytes}
    (h : setPaymentMethod origin id w a t o s = .ok () s') :
    ∃ who key bw ba bt bo, origin = .signed who ∧ BoundedVec.tryFrom id = some key ∧
      atLeastOne w a t o = true ∧ BoundedVec.tryFromOpt w = some bw ∧
      BoundedVec.tryFromOpt a = some ba ∧ BoundedVec.tryFromOpt t = some bt ∧
      BoundedVec.tryFromOpt o = some bo ∧
      s' = { paymentMethods := update s.paymentMethods key (some ⟨bw, ba, bt, bo⟩),
             events := s.events ++ [if (s.paymentMethods key).isSome then .paymentMethodUpdated key
               else .paymentMethodCreated key who] } := by
  simp only [setPaymentMethod, depositEvent, bind_assoc, ensureSigned_bind_eq_ok, okOr_bind_eq_ok,
    get_bind, ensure_bind_eq_ok, modify_bind, modify_apply, result_ok_inj] at h
  obtain ⟨who, rfl, key, hk, h1, bw, hw, ba, ha, bt, ht, bo, ho, -, rfl⟩ := h
  exact ⟨who, key, bw, ba, bt, bo, rfl, hk, h1, hw, ha, ht, ho, rfl⟩

theorem removePaymentMethod_ok (h : removePaymentMethod origin id s = .ok () s') :
    ∃ who key, origin = .signed who ∧ BoundedVec.tryFrom id = some key ∧
      (s.paymentMethods key).isSome ∧
      s' = { paymentMethods := update s.paymentMethods key none,
             events := s.events ++ [.paymentMethodDeleted key] } := by
  simp only [removePaymentMethod, depositEvent, bind_assoc, ensureSigned_bind_eq_ok,
    okOr_bind_eq_ok, get_bind, ensure_bind_eq_ok, modify_bind, modify_apply, result_ok_inj] at h
  obtain ⟨who, rfl, key, hk, h1, -, rfl⟩ := h
  exact ⟨who, key, rfl, hk, h1, rfl⟩

theorem updatePaymentField_ok {f : BitVec 8} {v : Option Bytes}
    (h : updatePaymentField origin id f v s = .ok () s') :
    ∃ who key bv p p', origin = .signed who ∧ BoundedVec.tryFrom id = some key ∧
      BoundedVec.tryFromOpt v = some bv ∧ s.paymentMethods key = some p ∧
      setField p f bv = some p' ∧
      s' = { paymentMethods := update s.paymentMethods key (some p'),
             events := s.events ++ [.paymentMethodUpdated key] } := by
  simp only [updatePaymentField, depositEvent, bind_assoc, ensureSigned_bind_eq_ok,
    okOr_bind_eq_ok, get_bind, ensure_bind_eq_ok, modify_bind, modify_apply, result_ok_inj] at h
  obtain ⟨who, rfl, key, hk, bv, hv, p, hp, p', hp', -, rfl⟩ := h
  exact ⟨who, key, bv, p, p', rfl, hk, hv, hp, hp', rfl⟩

end Calls

/-! ## No owner -/

/-- `remove_payment_method` reads its signer only to check that there is one. -/
theorem removePaymentMethod_any_signer (a b : T.AccountId) (id : Bytes) :
    removePaymentMethod (T := T) (.signed a) id = removePaymentMethod (.signed b) id :=
  rfl

/-- `update_payment_field` reads its signer only to check that there is one. -/
theorem updatePaymentField_any_signer (a b : T.AccountId) (id : Bytes) (f : BitVec 8)
    (v : Option Bytes) :
    updatePaymentField (T := T) (.signed a) id f v = updatePaymentField (.signed b) id f v :=
  rfl

/-! ## Stored records keep a method -/

/-- Every stored record has a method set. -/
def HasMethods (s : State T) : Prop := AllStored PaymentMethod.HasMethod s.paymentMethods

theorem isSome_of_tryFromOpt {n : Nat} {o : Option Bytes} {o' : Option (BoundedVec (BitVec 8) n)}
    (h : BoundedVec.tryFromOpt o = some o') : o'.isSome = o.isSome := by
  cases o with
  | none => cases h; rfl
  | some l =>
    simp only [BoundedVec.tryFromOpt, Option.map_eq_some'] at h
    obtain ⟨_, -, rfl⟩ := h
    rfl

/-- A field set to a value leaves a method in the record. -/
theorem setField_hasMethod {p p' : PaymentMethod T} {f : BitVec 8}
    {x : BoundedVec (BitVec 8) T.MaxPaymentLength} (h : setField p f (some x) = some p') :
    p'.HasMethod := by
  unfold setField at h
  split at h <;> cases h <;> simp [PaymentMethod.HasMethod, atLeastOne]

/-- Every successful call but `update_payment_field` with value `None` keeps a method in every
stored record. -/
theorem HasMethods.dispatch {s s' : State T} {origin : Origin T.AccountId} {c : Call}
    (h : HasMethods s) (hs : dispatch origin c s = .ok () s')
    (hc : ∀ id f, c ≠ .updatePaymentField id f none) : HasMethods s' := by
  rw [dispatch_ok] at hs
  cases c with
  | setPaymentMethod =>
    obtain ⟨_, _, _, _, _, _, -, -, h1, hw, ha, ht, ho, rfl⟩ := setPaymentMethod_ok hs
    refine h.update_some ?_
    simpa only [PaymentMethod.HasMethod, atLeastOne, isSome_of_tryFromOpt hw,
      isSome_of_tryFromOpt ha, isSome_of_tryFromOpt ht, isSome_of_tryFromOpt ho] using h1
  | removePaymentMethod =>
    obtain ⟨_, _, -, -, -, rfl⟩ := removePaymentMethod_ok hs
    exact h.update_none _
  | updatePaymentField id f v =>
    obtain ⟨_, _, bv, _, _, -, -, hv, -, hp', rfl⟩ := updatePaymentField_ok hs
    cases v with
    | none => exact absurd rfl (hc id f)
    | some l =>
      obtain ⟨x, -, rfl⟩ := Option.map_eq_some'.mp hv
      exact h.update_some (setField_hasMethod hp')

theorem HasMethods.empty : HasMethods (State.empty T) := AllStored.empty

/-- Empty storage has no record without a method, and only `update_payment_field` with value
`None` can store one. -/
theorem payment_methods_kept_unless_cleared :
    HasMethods (State.empty T) ∧
    ∀ (s s' : State T) (origin : Origin T.AccountId) (c : Call), HasMethods s →
      dispatch origin c s = .ok () s' → (∀ id f, c ≠ .updatePaymentField id f none) →
        HasMethods s' :=
  ⟨HasMethods.empty, fun _ _ _ _ h hs hc => h.dispatch hs hc⟩

/-! ## Two runs -/

/-- Accounts are `Nat`; ids and methods are one byte long. -/
abbrev Demo : Config :=
  { AccountId := Nat, MaxInstitutionIdLength := 1, MaxPaymentLength := 1 }

/-- The one-byte id `[0]`. -/
def id0 : InstitutionId Demo := ⟨[0], by decide⟩

/-- The one-byte method `[1]`. -/
def method1 : BoundedVec (BitVec 8) 1 := ⟨[1], by decide⟩

/-- Account 0 sets a WeChat method for id `[0]`. -/
def setByZero : List (Origin Nat × Call) :=
  [(.signed 0, .setPaymentMethod [0] (some [1]) none none none)]

/-- Account 1 removes the methods account 0 set: its call succeeds, and the record is gone. -/
theorem other_signer_removes_payment_method :
    (execute step (State.empty Demo) setByZero).paymentMethods id0 = some ⟨some method1, none, none, none⟩ ∧
    step (T := Demo) (.signed 1, .removePaymentMethod [0]) (execute step (State.empty Demo) setByZero) =
      .ok () (execute step (State.empty Demo) (setByZero ++ [(.signed 1, .removePaymentMethod [0])])) ∧
    (execute step (State.empty Demo)
      (setByZero ++ [(.signed 1, .removePaymentMethod [0])])).paymentMethods id0 = none :=
  ⟨by decide, rfl, by decide⟩

/-- After `setByZero`, `update_payment_field` with field type 0 and value `None` clears the only
method: a reachable state stores a record with no method. -/
theorem update_payment_field_clears_every_method :
    Reachable step (State.empty Demo)
      (execute step (State.empty Demo) (setByZero ++ [(.signed 0, .updatePaymentField [0] 0 none)])) ∧
    (execute step (State.empty Demo)
      (setByZero ++ [(.signed 0, .updatePaymentField [0] 0 none)])).paymentMethods id0 =
      some ⟨none, none, none, none⟩ :=
  ⟨reachable_execute (fun _ _ _ _ h => dispatch_error h) .init _, by decide⟩

end FissionMall.PaymentMethod
