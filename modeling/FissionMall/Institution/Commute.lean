import FissionMall.Frame.Local
import FissionMall.Institution.Errors

/-
  Calls on different keys commute. Each call of `institution`, `institution-freight-template` and
  `institution-payment-method` reads and writes its storage map only under the key it names
  (`body_runs`: one term per call, which follows its body statement by statement), so under the
  storage layer it is an effect on that one record (`dispatch_onKey`), and the pallet is keyed
  (`keyed`). Two successful calls naming different keys then succeed in the other order too,
  leave the same map, and deposit the same events, each call's in the other place
  (`dispatch_comm`, from `MapLog.Keyed.comm`): the order in which a block holds such calls changes
  no record. `calls_on_other_keys_commute` states it for the three pallets. Over whole runs
  (`MapLog.Keyed.store_execute`): the record under a key after any run is the one that the calls
  naming that key alone leave, whatever calls on other keys are interleaved with them
  (`records_ignore_calls_on_other_keys`).

  The two order pallets and `c2c-token` also write index buckets that several keys share, and are
  not read here; `product` is local to the institution a call names (`Product.Commute`).
-/

namespace FissionMall

/-! ## `institution` -/

namespace Institution

variable {T : Config}

/-- The storage of `institution`: the map `Institutions` and the log. -/
def storage : MapLog (State T) (InstitutionId T) (Option (InstitutionInfo T)) (Event T) :=
  ⟨State.mk, State.institutions, State.events, fun _ _ => rfl, fun _ _ => rfl⟩

/-- Each call reads and writes `Institutions` only under the id it names. -/
theorem body_runs {origin : Origin T.AccountId} {now : Nat} {c : Call} {k : InstitutionId T}
    (hk : BoundedVec.tryFrom c.institutionId = some k) :
    ∃ f, storage.Runs k (c.body origin now) f := by
  cases c with
  | createInstitution =>
    exact ⟨_, .signed fun _ => .key hk <| .absent id <| .okOr fun _ => .okOr fun _ =>
      .okOr fun _ => .okOr fun _ => .okOr fun _ => .okOr fun _ => .write _ <| .depositLast _⟩
  | updateInstitutionStatus =>
    exact ⟨_, .signed fun _ => .key hk <| .lookup id fun _ => .ensure <| .okOr fun _ =>
      .deposit _ <| .writeLast _⟩
  | updateInstitutionInfo =>
    exact ⟨_, .signed fun _ => .key hk <| .lookup id fun _ => .ensure <| .okOr fun _ =>
      .okOr fun _ => .okOr fun _ => .okOr fun _ => .okOr fun _ => .okOr fun _ =>
      .deposit _ <| .writeLast _⟩
  | deleteInstitution =>
    exact ⟨_, .signed fun _ => .key hk <| .lookup id fun _ => .ensure <| .write _ <| .depositLast _⟩

theorem dispatch_onKey (origin : Origin T.AccountId) (now : Nat) {c : Call} {k : InstitutionId T}
    (hk : BoundedVec.tryFrom c.institutionId = some k) :
    ∃ f, dispatch origin now c = storage.onKey k f :=
  (body_runs hk).imp fun _ h => h.withStorageLayer_eq

theorem dispatch_key {origin : Origin T.AccountId} {now : Nat} {c : Call} {s s' : State T}
    (hs : dispatch origin now c s = .ok () s') :
    ∃ k : InstitutionId T, BoundedVec.tryFrom c.institutionId = some k := by
  rw [dispatch_ok] at hs
  cases c <;> exact key_of_ok hs

/-- Every call is an effect on the record under the institution id it names. -/
theorem keyed :
    (storage (T := T)).Keyed step fun x : Origin T.AccountId × Nat × Call =>
      BoundedVec.tryFrom x.2.2.institutionId :=
  .of_key (fun x _ hk => dispatch_onKey x.1 x.2.1 hk) (fun _ _ _ hs => dispatch_key hs)
    fun _ _ _ _ h => dispatch_error h

end Institution

/-! ## `institution-freight-template` -/

namespace FreightTemplate

variable {T : Config}

/-- The storage of `institution-freight-template`: the map `FreightTemplates` and the log. -/
def storage : MapLog (State T) (Area T) (Option (FreightTemplate T)) (Event T) :=
  ⟨State.mk, State.freightTemplates, State.events, fun _ _ => rfl, fun _ _ => rfl⟩

/-- Each call reads and writes `FreightTemplates` only under the area it names. -/
theorem body_runs {origin : Origin T.AccountId} {c : Call} {k : Area T}
    (hk : BoundedVec.tryFrom c.area = some k) : ∃ f, storage.Runs k (c.body origin) f := by
  cases c with
  | createFreightTemplate =>
    exact ⟨_, .signed fun _ => .key hk <| .absent id <| .write _ <| .depositLast _⟩
  | updateFreightTemplate =>
    exact ⟨_, .signed fun _ => .key hk <| .lookup id fun _ => .ensure <| .deposit _ <| .writeLast _⟩
  | deleteFreightTemplate =>
    exact ⟨_, .signed fun _ => .key hk <| .lookup id fun _ => .ensure <| .write _ <| .depositLast _⟩

theorem dispatch_onKey (origin : Origin T.AccountId) {c : Call} {k : Area T}
    (hk : BoundedVec.tryFrom c.area = some k) : ∃ f, dispatch origin c = storage.onKey k f :=
  (body_runs hk).imp fun _ h => h.withStorageLayer_eq

theorem dispatch_key {origin : Origin T.AccountId} {c : Call} {s s' : State T}
    (hs : dispatch origin c s = .ok () s') : ∃ k : Area T, BoundedVec.tryFrom c.area = some k := by
  rw [dispatch_ok] at hs
  cases c <;> exact key_of_ok hs

/-- Every call is an effect on the record under the area it names. -/
theorem keyed :
    (storage (T := T)).Keyed step fun x : Origin T.AccountId × Call =>
      BoundedVec.tryFrom x.2.area :=
  .of_key (fun x _ hk => dispatch_onKey x.1 hk) (fun _ _ _ hs => dispatch_key hs)
    fun _ _ _ _ h => dispatch_error h

end FreightTemplate

/-! ## `institution-payment-method` -/

namespace PaymentMethod

variable {T : Config}

/-- The storage of `institution-payment-method`: the map `PaymentMethods` and the log. -/
def storage : MapLog (State T) (InstitutionId T) (Option (PaymentMethod T)) (Event T) :=
  ⟨State.mk, State.paymentMethods, State.events, fun _ _ => rfl, fun _ _ => rfl⟩

/-- Each call reads and writes `PaymentMethods` only under the id it names: `set_payment_method`
reads the record there to choose its event, and `remove_payment_method` to check it exists. -/
theorem body_runs {origin : Origin T.AccountId} {c : Call} {k : InstitutionId T}
    (hk : BoundedVec.tryFrom c.institutionId = some k) : ∃ f, storage.Runs k (c.body origin) f := by
  cases c with
  | setPaymentMethod =>
    exact ⟨_, .signed fun _ => .key hk <| .ensure <| .okOr fun _ => .okOr fun _ => .okOr fun _ =>
      .okOr fun _ => .get (fun _ => .write _ <| .depositLast _) fun s t hst => by
        simp only [storage] at hst; simp only [hst]⟩
  | removePaymentMethod =>
    exact ⟨_, .signed fun _ => .key hk <| .get (fun _ => .ensure <| .write _ <| .depositLast _)
      fun s t hst => by simp only [storage] at hst; simp only [hst]⟩
  | updatePaymentField =>
    exact ⟨_, .signed fun _ => .key hk <| .okOr fun _ => .lookup id fun _ => .okOr fun _ =>
      .write _ <| .depositLast _⟩

theorem dispatch_onKey (origin : Origin T.AccountId) {c : Call} {k : InstitutionId T}
    (hk : BoundedVec.tryFrom c.institutionId = some k) :
    ∃ f, dispatch origin c = storage.onKey k f :=
  (body_runs hk).imp fun _ h => h.withStorageLayer_eq

theorem dispatch_key {origin : Origin T.AccountId} {c : Call} {s s' : State T}
    (hs : dispatch origin c s = .ok () s') :
    ∃ k : InstitutionId T, BoundedVec.tryFrom c.institutionId = some k := by
  rw [dispatch_ok] at hs
  cases c <;> exact key_of_ok hs

/-- Every call is an effect on the record under the institution id it names. -/
theorem keyed :
    (storage (T := T)).Keyed step fun x : Origin T.AccountId × Call =>
      BoundedVec.tryFrom x.2.institutionId :=
  .of_key (fun x _ hk => dispatch_onKey x.1 hk) (fun _ _ _ hs => dispatch_key hs)
    fun _ _ _ _ h => dispatch_error h

end PaymentMethod

/-- In each of the three institution pallets, the record under a key after any run is the one that
the calls naming that key alone leave, run in their order from the same storage: calls on other
keys, interleaved with them, change nothing of it. -/
theorem records_ignore_calls_on_other_keys {T₁ : Institution.Config}
    {T₂ : FreightTemplate.Config} {T₃ : PaymentMethod.Config} :
    (∀ (s : Institution.State T₁) (calls : List (Origin T₁.AccountId × Nat × Institution.Call))
      (k : Institution.InstitutionId T₁), (execute Institution.step s calls).institutions k =
        (execute Institution.step s (calls.filter fun x =>
          decide (BoundedVec.tryFrom x.2.2.institutionId = some k))).institutions k) ∧
    (∀ (s : FreightTemplate.State T₂) (calls : List (Origin T₂.AccountId × FreightTemplate.Call))
      (k : FreightTemplate.Area T₂), (execute FreightTemplate.step s calls).freightTemplates k =
        (execute FreightTemplate.step s (calls.filter fun x =>
          decide (BoundedVec.tryFrom x.2.area = some k))).freightTemplates k) ∧
    (∀ (s : PaymentMethod.State T₃) (calls : List (Origin T₃.AccountId × PaymentMethod.Call))
      (k : PaymentMethod.InstitutionId T₃), (execute PaymentMethod.step s calls).paymentMethods k =
        (execute PaymentMethod.step s (calls.filter fun x =>
          decide (BoundedVec.tryFrom x.2.institutionId = some k))).paymentMethods k) :=
  ⟨Institution.keyed.store_execute, FreightTemplate.keyed.store_execute,
    PaymentMethod.keyed.store_execute⟩

end FissionMall
