import FissionMall.Frame.Ownership

/-
  pallet `institution` (`pallets/institution/src/lib.rs`): institutions keyed by their id, each
  with the account that created it. `create_institution` refuses an id that is taken; the other
  three calls act only for the creator. One spec lemma per call, and `dispatch_ownedStep`: every
  successful call is an `OwnedStep` of its signer on every institution.

  Not modelled: weights.
-/

namespace FissionMall.Institution

open Function (update)

/-- `Config`. -/
structure Config extends SystemConfig where
  MaxInstitutionIdLength : Nat
  MaxNameLength : Nat
  MaxResponsiblePersonLength : Nat
  MaxBusinessScopeLength : Nat
  MaxContractLength : Nat

/-- `InstitutionStatus`. -/
inductive InstitutionStatus
  | certified | notCertified | deactivated
deriving DecidableEq, Repr

/-- `Error<T>`. -/
inductive Error
  | institutionIdAlreadyExists | institutionNotFound | notAuthorized | stringConversionError
  | invalidStatus
deriving DecidableEq, Repr

section Types

variable (T : Config)

abbrev InstitutionId := BoundedVec (BitVec 8) T.MaxInstitutionIdLength

/-- `InstitutionInfo<T>`. Block numbers are `Nat`. -/
structure InstitutionInfo where
  institutionName : BoundedVec (BitVec 8) T.MaxNameLength
  status : InstitutionStatus
  institutionFullName : BoundedVec (BitVec 8) T.MaxNameLength
  licenseImageUrl : BoundedVec (BitVec 8) T.MaxNameLength
  responsiblePerson : BoundedVec (BitVec 8) T.MaxResponsiblePersonLength
  businessScope : BoundedVec (BitVec 8) T.MaxBusinessScopeLength
  profitContract : Option (BoundedVec (BitVec 8) T.MaxContractLength)
  createdDate : Nat
  creator : T.AccountId

/-- `Event<T>`. -/
inductive Event
  | institutionCreated (id : InstitutionId T) (who : T.AccountId)
  | institutionStatusUpdated (id : InstitutionId T) (status : BitVec 8)
  | institutionInfoUpdated (id : InstitutionId T)
  | institutionDeleted (id : InstitutionId T)

/-- The pallet's storage, and its log of events. -/
structure State where
  institutions : InstitutionId T → Option (InstitutionInfo T)
  /-- The list of the pallet's `deposit_event` calls, in order. `frame_system` stores no event
  deposited at block 0, so read at genesis the list holds more than the chain keeps. -/
  events : List (Event T)

/-- Empty storage. -/
def State.empty : State T := ⟨fun _ => none, []⟩

abbrev Body := Dispatch Error (State T) Unit

end Types

variable {T : Config}

/-- The `match status` of `update_institution_status`. -/
def decodeStatus (status : BitVec 8) : Option InstitutionStatus :=
  match status.toNat with
  | 0 => some .certified
  | 1 => some .notCertified
  | 2 => some .deactivated
  | _ => none

/-- `Self::deposit_event`: the event is appended to the log `State.events`. -/
def depositEvent (e : Event T) : Body T :=
  modify fun s => { s with events := s.events ++ [e] }

/-- `Institutions::insert`, and `Institutions::try_mutate` writing `i` back. -/
def writeInstitution (id : InstitutionId T) (i : InstitutionInfo T) : Body T :=
  modify fun s => { s with institutions := update s.institutions id (some i) }

/-- `create_institution`: a new institution is `NotCertified`. -/
def createInstitution (origin : Origin T.AccountId) (now : Nat)
    (institutionId institutionName institutionFullName licenseImageUrl responsiblePerson
      businessScope : Bytes) (profitContract : Option Bytes) : Body T := do
  let who ← ensureSigned origin
  let boundedId ← okOr (BoundedVec.tryFrom institutionId) .stringConversionError
  ensure ((← get).institutions boundedId).isNone .institutionIdAlreadyExists
  let boundedName ← okOr (BoundedVec.tryFrom institutionName) .stringConversionError
  let boundedFullName ← okOr (BoundedVec.tryFrom institutionFullName) .stringConversionError
  let boundedLicenseUrl ← okOr (BoundedVec.tryFrom licenseImageUrl) .stringConversionError
  let boundedResponsible ← okOr (BoundedVec.tryFrom responsiblePerson) .stringConversionError
  let boundedScope ← okOr (BoundedVec.tryFrom businessScope) .stringConversionError
  let boundedContract ← okOr (BoundedVec.tryFromOpt profitContract) .stringConversionError
  writeInstitution boundedId
    { institutionName := boundedName, status := .notCertified,
      institutionFullName := boundedFullName, licenseImageUrl := boundedLicenseUrl,
      responsiblePerson := boundedResponsible, businessScope := boundedScope,
      profitContract := boundedContract, createdDate := now, creator := who }
  depositEvent (.institutionCreated boundedId who)

/-- `update_institution_status`. -/
def updateInstitutionStatus (origin : Origin T.AccountId) (institutionId : Bytes)
    (status : BitVec 8) : Body T := do
  let who ← ensureSigned origin
  let boundedId ← okOr (BoundedVec.tryFrom institutionId) .stringConversionError
  let institution ← okOr ((← get).institutions boundedId) .institutionNotFound
  ensure (institution.creator = who) .notAuthorized
  let newStatus ← okOr (decodeStatus status) .invalidStatus
  depositEvent (.institutionStatusUpdated boundedId status)
  writeInstitution boundedId { institution with status := newStatus }

/-- `update_institution_info`: each field given is set in turn inside the `Institutions`
closure. -/
def updateInstitutionInfo (origin : Origin T.AccountId) (institutionId : Bytes)
    (institutionName institutionFullName licenseImageUrl responsiblePerson businessScope
      profitContract : Option Bytes) : Body T := do
  let who ← ensureSigned origin
  let boundedId ← okOr (BoundedVec.tryFrom institutionId) .stringConversionError
  let institution ← okOr ((← get).institutions boundedId) .institutionNotFound
  ensure (institution.creator = who) .notAuthorized
  let name ← okOr (institution.institutionName.tryReplace institutionName) .stringConversionError
  let fullName ← okOr (institution.institutionFullName.tryReplace institutionFullName)
    .stringConversionError
  let licenseUrl ← okOr (institution.licenseImageUrl.tryReplace licenseImageUrl)
    .stringConversionError
  let responsible ← okOr (institution.responsiblePerson.tryReplace responsiblePerson)
    .stringConversionError
  let scope ← okOr (institution.businessScope.tryReplace businessScope) .stringConversionError
  let contract ← okOr (BoundedVec.tryReplaceSome institution.profitContract profitContract)
    .stringConversionError
  depositEvent (.institutionInfoUpdated boundedId)
  writeInstitution boundedId { institution with
    institutionName := name, institutionFullName := fullName, licenseImageUrl := licenseUrl,
    responsiblePerson := responsible, businessScope := scope, profitContract := contract }

/-- `delete_institution`. -/
def deleteInstitution (origin : Origin T.AccountId) (institutionId : Bytes) : Body T := do
  let who ← ensureSigned origin
  let boundedId ← okOr (BoundedVec.tryFrom institutionId) .stringConversionError
  let institution ← okOr ((← get).institutions boundedId) .institutionNotFound
  ensure (institution.creator = who) .notAuthorized
  modify fun s => { s with institutions := update s.institutions boundedId none }
  depositEvent (.institutionDeleted boundedId)

/-- The pallet's calls with their arguments (`call_index` 0 to 3). -/
inductive Call
  | createInstitution (institutionId institutionName institutionFullName licenseImageUrl
      responsiblePerson businessScope : Bytes) (profitContract : Option Bytes)
  | updateInstitutionStatus (institutionId : Bytes) (status : BitVec 8)
  | updateInstitutionInfo (institutionId : Bytes)
      (institutionName institutionFullName licenseImageUrl responsiblePerson businessScope
        profitContract : Option Bytes)
  | deleteInstitution (institutionId : Bytes)

/-- The body of a call, from `origin` at block `now`. -/
def Call.body (origin : Origin T.AccountId) (now : Nat) : Call → Body T
  | .createInstitution id n fn l r b c => Institution.createInstitution origin now id n fn l r b c
  | .updateInstitutionStatus id st => Institution.updateInstitutionStatus origin id st
  | .updateInstitutionInfo id n fn l r b c => Institution.updateInstitutionInfo origin id n fn l r b c
  | .deleteInstitution id => Institution.deleteInstitution origin id

/-- A call as the runtime dispatches it, inside the storage layer of `#[pallet::call]`. -/
def dispatch (origin : Origin T.AccountId) (now : Nat) (call : Call) : Body T :=
  withStorageLayer (call.body origin now)

/-- One extrinsic: origin, block number and call. -/
def step (x : Origin T.AccountId × Nat × Call) : Body T := dispatch x.1 x.2.1 x.2.2

/-! ## Spec lemmas -/

/-- Institution `id` rewritten as `i`, and the event `e` deposited. -/
def State.rewriteInstitution (s : State T) (id : InstitutionId T) (i : InstitutionInfo T)
    (e : Event T) : State T :=
  { institutions := update s.institutions id (some i), events := s.events ++ [e] }

theorem dispatch_ok {origin : Origin T.AccountId} {now : Nat} {c : Call} {s s' : State T} :
    dispatch origin now c s = .ok () s' ↔ c.body origin now s = .ok () s' :=
  withStorageLayer_ok

/-- A failing call leaves the storage as it was. -/
theorem dispatch_error {origin : Origin T.AccountId} {now : Nat} {c : Call} {s s' : State T}
    {e : DispatchError Error} (h : dispatch origin now c s = .error e s') : s' = s :=
  withStorageLayer_error h

section Calls

variable {origin : Origin T.AccountId} {id : Bytes} {s s' : State T}

theorem createInstitution_ok {now : Nat} {n fn l r b : Bytes} {c : Option Bytes}
    (h : createInstitution origin now id n fn l r b c s = .ok () s') :
    ∃ who key i, origin = .signed who ∧ BoundedVec.tryFrom id = some key ∧
      s.institutions key = none ∧ i.creator = who ∧ i.status = .notCertified ∧
      i.createdDate = now ∧ s' = s.rewriteInstitution key i (.institutionCreated key who) := by
  simp only [createInstitution, writeInstitution, depositEvent, bind_assoc,
    ensureSigned_bind_eq_ok, okOr_bind_eq_ok, get_bind, ensure_bind_eq_ok, modify_bind,
    modify_apply, result_ok_inj, Option.isNone_iff_eq_none] at h
  obtain ⟨who, rfl, key, hk, h1, _, -, _, -, _, -, _, -, _, -, _, -, -, rfl⟩ := h
  exact ⟨who, key, _, rfl, hk, h1, rfl, rfl, rfl, rfl⟩

theorem updateInstitutionStatus_ok {st : BitVec 8}
    (h : updateInstitutionStatus origin id st s = .ok () s') :
    ∃ who key i new, origin = .signed who ∧ BoundedVec.tryFrom id = some key ∧
      s.institutions key = some i ∧ i.creator = who ∧ decodeStatus st = some new ∧
      s' = s.rewriteInstitution key { i with status := new } (.institutionStatusUpdated key st) := by
  simp only [updateInstitutionStatus, writeInstitution, depositEvent, bind_assoc,
    ensureSigned_bind_eq_ok, okOr_bind_eq_ok, get_bind, ensure_bind_eq_ok, modify_bind,
    modify_apply, result_ok_inj] at h
  obtain ⟨who, rfl, key, hk, i, hi, h1, new, hn, -, rfl⟩ := h
  exact ⟨who, key, i, new, rfl, hk, hi, h1, hn, rfl⟩

/-- What a successful `update_institution_info` checked and wrote; a profit contract it finds
set stays set. -/
theorem updateInstitutionInfo_spec {n fn l r b c : Option Bytes}
    (h : updateInstitutionInfo origin id n fn l r b c s = .ok () s') :
    ∃ who key i i', (origin = .signed who ∧ BoundedVec.tryFrom id = some key ∧
      s.institutions key = some i ∧ i.creator = who ∧ i'.creator = i.creator ∧
      i'.status = i.status ∧ i'.createdDate = i.createdDate ∧
      s' = s.rewriteInstitution key i' (.institutionInfoUpdated key)) ∧
      (i.profitContract.isSome → i'.profitContract.isSome) := by
  simp only [updateInstitutionInfo, writeInstitution, depositEvent, bind_assoc,
    ensureSigned_bind_eq_ok, okOr_bind_eq_ok, get_bind, ensure_bind_eq_ok, modify_bind,
    modify_apply, result_ok_inj] at h
  obtain ⟨who, rfl, key, hk, i, hi, h1, _, -, _, -, _, -, _, -, _, -, _, hct, -, rfl⟩ := h
  refine ⟨who, key, i, _, ⟨rfl, hk, hi, h1, ?_, ?_, ?_, rfl⟩, BoundedVec.isSome_tryReplaceSome hct⟩ <;>
    rfl

theorem updateInstitutionInfo_ok {n fn l r b c : Option Bytes}
    (h : updateInstitutionInfo origin id n fn l r b c s = .ok () s') :
    ∃ who key i i', origin = .signed who ∧ BoundedVec.tryFrom id = some key ∧
      s.institutions key = some i ∧ i.creator = who ∧ i'.creator = i.creator ∧
      i'.status = i.status ∧ i'.createdDate = i.createdDate ∧
      s' = s.rewriteInstitution key i' (.institutionInfoUpdated key) :=
  let ⟨who, key, i, i', h, _⟩ := updateInstitutionInfo_spec h
  ⟨who, key, i, i', h⟩

theorem deleteInstitution_ok (h : deleteInstitution origin id s = .ok () s') :
    ∃ who key i, origin = .signed who ∧ BoundedVec.tryFrom id = some key ∧
      s.institutions key = some i ∧ i.creator = who ∧
      s' = { institutions := update s.institutions key none,
             events := s.events ++ [.institutionDeleted key] } := by
  simp only [deleteInstitution, depositEvent, bind_assoc, ensureSigned_bind_eq_ok,
    okOr_bind_eq_ok, get_bind, ensure_bind_eq_ok, modify_bind, modify_apply, result_ok_inj] at h
  obtain ⟨who, rfl, key, hk, i, hi, h1, -, rfl⟩ := h
  exact ⟨who, key, i, rfl, hk, hi, h1, rfl⟩

end Calls

/-! ## Ownership -/

/-- Accounts are `Nat`, and every id and text is one byte long. -/
abbrev Demo : Config :=
  { AccountId := Nat, MaxInstitutionIdLength := 1, MaxNameLength := 1,
    MaxResponsiblePersonLength := 1, MaxBusinessScopeLength := 1, MaxContractLength := 1 }

/-- The one-byte id `[0]`. -/
def id0 : InstitutionId Demo := ⟨[0], by decide⟩

/-- Account 0 creates institution `[0]` at block 1 and certifies it at block 2. -/
def certifyRun : List (Origin Nat × Nat × Call) :=
  [(.signed 0, 1, .createInstitution [0] [] [] [] [] [] none),
   (.signed 0, 2, .updateInstitutionStatus [0] 0)]

end FissionMall.Institution
