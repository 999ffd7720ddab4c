import FissionMall.Institution.Institution
import FissionMall.Institution.FreightTemplate
import FissionMall.Institution.PaymentMethod
import FissionMall.Frame.Records

/-
  What the calls of the three institution pallets do to their records, over every run.

  `institution`: a successful call keeps the creation date and the creator of every institution
  it keeps, and never clears a profit contract it finds set: `update_institution_info` can only
  replace it (`Institution.dispatch_amends`).

  `institution-freight-template`: a successful call changes a template it keeps in its three
  fees only (`FreightTemplate.dispatch_amends`), and every stored template carries the area it is
  stored under (`FreightTemplate.Areas.reachable`).

  The logs. `InstitutionCreated(id, who)` and `FreightTemplateCreated(area, who)` create a record
  for `who`, the `Deleted` events remove it, and a log replays to each stored key with its
  creator. `PaymentMethodCreated` and `PaymentMethodDeleted` replay to the ids with a stored
  record: `set_payment_method` deposits `PaymentMethodCreated` exactly when the id had none. So
  `has_payment_method` answers as the log does (`PaymentMethod.hasPaymentMethod_replay`). In all
  three, every successful call deposits an event naming the record it writes (`dispatch_audited`).

  `deleteInstitution_enabled`, `deleteFreightTemplate_enabled`: in every storage, the creator of
  a record can delete it.
-/

set_option linter.dupNamespace false

namespace FissionMall

open Function (update)

/-! ## `institution` -/

namespace Institution

variable {T : Config}

/-- What a successful call may change of an institution it keeps. -/
structure InstitutionInfo.Amends (i i' : InstitutionInfo T) : Prop where
  createdDate_eq : i'.createdDate = i.createdDate
  creator_eq : i'.creator = i.creator
  contract_kept : i.profitContract.isSome → i'.profitContract.isSome

theorem InstitutionInfo.Amends.refl (i : InstitutionInfo T) : i.Amends i := ⟨rfl, rfl, id⟩

/-- A successful call keeps the creation date and the creator of every institution it keeps, and
a profit contract once set. -/
theorem dispatch_amends {s s' : State T} {origin : Origin T.AccountId} {now : Nat} {c : Call}
    (hs : dispatch origin now c s = .ok () s') :
    KeptBy InstitutionInfo.Amends s.institutions s'.institutions := by
  rw [dispatch_ok] at hs
  cases c with
  | createInstitution =>
    obtain ⟨_, _, _, -, -, hk, -, -, -, rfl⟩ := createInstitution_ok hs
    exact KeptBy.create InstitutionInfo.Amends.refl hk _
  | updateInstitutionStatus =>
    obtain ⟨_, _, _, _, -, -, hi, -, -, rfl⟩ := updateInstitutionStatus_ok hs
    exact KeptBy.rewrite InstitutionInfo.Amends.refl hi ⟨rfl, rfl, id⟩
  | updateInstitutionInfo =>
    obtain ⟨_, _, _, _, ⟨-, -, hi, -, hc, -, hd, rfl⟩, hct⟩ := updateInstitutionInfo_spec hs
    exact KeptBy.rewrite InstitutionInfo.Amends.refl hi ⟨hd, hc, hct⟩
  | deleteInstitution =>
    obtain ⟨_, _, _, -, -, -, -, rfl⟩ := deleteInstitution_ok hs
    exact KeptBy.erase InstitutionInfo.Amends.refl

/-- What an event of `institution` says of the institution it names. -/
def Event.change : Event T → Change (InstitutionId T) T.AccountId
  | .institutionCreated id who => .created id who
  | .institutionDeleted id => .deleted id
  | _ => .other

theorem dispatch_log {s s' : State T} {origin : Origin T.AccountId} {now : Nat} {c : Call}
    (hs : dispatch origin now c s = .ok () s') :
    ∃ evs, s'.events = s.events ++ evs ∧
      applyChanges Event.change (creators InstitutionInfo.creator s.institutions) evs =
        creators InstitutionInfo.creator s'.institutions := by
  rw [dispatch_ok] at hs
  cases c with
  | createInstitution =>
    obtain ⟨_, _, _, -, -, -, hc, -, -, rfl⟩ := createInstitution_ok hs
    exact ⟨_, rfl, by rw [State.rewriteInstitution, creators_update, Option.map_some', hc]; rfl⟩
  | updateInstitutionStatus =>
    obtain ⟨_, _, _, _, -, -, hi, -, -, rfl⟩ := updateInstitutionStatus_ok hs
    exact ⟨_, rfl, (creators_rewrite _ hi (by rfl)).symm⟩
  | updateInstitutionInfo =>
    obtain ⟨_, _, _, _, -, -, hi, -, hc, -, -, rfl⟩ := updateInstitutionInfo_ok hs
    exact ⟨_, rfl, (creators_rewrite _ hi hc).symm⟩
  | deleteInstitution =>
    obtain ⟨_, key, _, -, -, -, -, rfl⟩ := deleteInstitution_ok hs
    exact ⟨_, rfl, (creators_update InstitutionInfo.creator s.institutions key none).symm⟩

/-- The log of every reachable storage replays to each stored id with its creator. -/
theorem creators_replay {s : State T} (h : Reachable step (State.empty T) s) :
    replayChanges Event.change s.events = creators InstitutionInfo.creator s.institutions :=
  h.replay rfl fun _ _ _ hs => dispatch_log hs

/-- The institution an event names. -/
def Event.key : Event T → InstitutionId T
  | .institutionCreated id _ | .institutionStatusUpdated id _ | .institutionInfoUpdated id
  | .institutionDeleted id => id

/-- Every successful call writes one institution and deposits an event naming it. -/
theorem dispatch_audited {s s' : State T} {origin : Origin T.AccountId} {now : Nat} {c : Call}
    (hs : dispatch origin now c s = .ok () s') :
    Audited State.institutions State.events Event.key s s' := by
  rw [dispatch_ok] at hs
  cases c with
  | createInstitution =>
    obtain ⟨_, _, _, -, -, -, -, -, -, rfl⟩ := createInstitution_ok hs
    exact audited_update rfl rfl ⟨_, List.mem_cons_self _ _, rfl⟩
  | updateInstitutionStatus =>
    obtain ⟨_, _, _, _, -, -, -, -, -, rfl⟩ := updateInstitutionStatus_ok hs
    exact audited_update rfl rfl ⟨_, List.mem_cons_self _ _, rfl⟩
  | updateInstitutionInfo =>
    obtain ⟨_, _, _, _, -, -, -, -, -, -, -, rfl⟩ := updateInstitutionInfo_ok hs
    exact audited_update rfl rfl ⟨_, List.mem_cons_self _ _, rfl⟩
  | deleteInstitution =>
    obtain ⟨_, _, _, -, -, -, -, rfl⟩ := deleteInstitution_ok hs
    exact audited_update rfl rfl ⟨_, List.mem_cons_self _ _, rfl⟩

/-- In every storage, the creator of an institution can delete it. -/
theorem deleteInstitution_enabled (s : State T) (now : Nat) {k : InstitutionId T}
    {i : InstitutionInfo T} (hi : s.institutions k = some i) :
    ∃ s', dispatch (.signed i.creator) now (.deleteInstitution k.toList) s = .ok () s' ∧
      s'.institutions k = none := by
  exact ⟨_, dispatch_ok.mpr (by
    simp only [Call.body, deleteInstitution, depositEvent, bind_assoc, ensureSigned_bind,
      okOr_bind, BoundedVec.tryFrom_toList_self, get_bind, hi, ensure_bind, if_true, modify_bind,
      modify_apply]
    rfl), Function.update_same _ _ _⟩

end Institution

/-! ## `institution-freight-template` -/

namespace FreightTemplate

variable {T : Config}

/-- `t'` is `t` with at most its three fees changed. -/
def FreightTemplate.Amends (t t' : FreightTemplate T) : Prop :=
  t' = { t with firstWeight := t'.firstWeight, firstWeightFee := t'.firstWeightFee,
                additionalWeightFee := t'.additionalWeightFee }

theorem FreightTemplate.Amends.refl (t : FreightTemplate T) : t.Amends t := rfl

/-- A successful call changes a template it keeps in its three fees only. -/
theorem dispatch_amends {s s' : State T} {origin : Origin T.AccountId} {c : Call}
    (hs : dispatch origin c s = .ok () s') :
    KeptBy FreightTemplate.Amends s.freightTemplates s'.freightTemplates := by
  rw [dispatch_ok] at hs
  cases c with
  | createFreightTemplate =>
    obtain ⟨_, _, -, -, hk, rfl⟩ := createFreightTemplate_ok hs
    exact KeptBy.create FreightTemplate.Amends.refl hk _
  | updateFreightTemplate =>
    obtain ⟨_, _, _, -, -, ht, -, rfl⟩ := updateFreightTemplate_ok hs
    exact KeptBy.rewrite FreightTemplate.Amends.refl ht rfl
  | deleteFreightTemplate =>
    obtain ⟨_, _, _, -, -, -, -, rfl⟩ := deleteFreightTemplate_ok hs
    exact KeptBy.erase FreightTemplate.Amends.refl

/-- Every stored template carries the area it is stored under. -/
def Areas (s : State T) : Prop := StoredAt (fun k t => t.area = k) s.freightTemplates

theorem Areas.dispatch {s s' : State T} {origin : Origin T.AccountId} {c : Call} (h : Areas s)
    (hs : dispatch origin c s = .ok () s') : Areas s' := by
  rw [dispatch_ok] at hs
  cases c with
  | createFreightTemplate =>
    obtain ⟨_, _, -, -, -, rfl⟩ := createFreightTemplate_ok hs
    exact h.update fun _ hv => by cases hv; rfl
  | updateFreightTemplate =>
    obtain ⟨_, k, t, -, -, ht, -, rfl⟩ := updateFreightTemplate_ok hs
    exact h.update fun _ hv => by cases hv; exact h k t ht
  | deleteFreightTemplate =>
    obtain ⟨_, _, _, -, -, -, -, rfl⟩ := deleteFreightTemplate_ok hs
    exact h.update fun _ hv => by cases hv

theorem Areas.reachable {s : State T} (h : Reachable step (State.empty T) s) : Areas s :=
  h.inv (fun _ _ h => by cases h) fun _ _ _ ha hs => ha.dispatch hs

/-- What an event of `institution-freight-template` says of the template it names. -/
def Event.change : Event T → Change (Area T) T.AccountId
  | .freightTemplateCreated area who => .created area who
  | .freightTemplateDeleted area => .deleted area
  | _ => .other

theorem dispatch_log {s s' : State T} {origin : Origin T.AccountId} {c : Call}
    (hs : dispatch origin c s = .ok () s') :
    ∃ evs, s'.events = s.events ++ evs ∧
      applyChanges Event.change (creators FreightTemplate.creator s.freightTemplates) evs =
        creators FreightTemplate.creator s'.freightTemplates := by
  rw [dispatch_ok] at hs
  cases c with
  | createFreightTemplate =>
    obtain ⟨_, _, -, -, -, rfl⟩ := createFreightTemplate_ok hs
    exact ⟨_, rfl, by rw [creators_update]; rfl⟩
  | updateFreightTemplate =>
    obtain ⟨_, _, _, -, -, ht, -, rfl⟩ := updateFreightTemplate_ok hs
    exact ⟨_, rfl, (creators_rewrite _ ht (by rfl)).symm⟩
  | deleteFreightTemplate =>
    obtain ⟨_, key, _, -, -, -, -, rfl⟩ := deleteFreightTemplate_ok hs
    exact ⟨_, rfl, (creators_update FreightTemplate.creator s.freightTemplates key none).symm⟩

/-- The log of every reachable storage replays to each stored area with its creator. -/
theorem creators_replay {s : State T} (h : Reachable step (State.empty T) s) :
    replayChanges Event.change s.events = creators FreightTemplate.creator s.freightTemplates :=
  h.replay rfl fun _ _ _ hs => dispatch_log hs

/-- The area an event names. -/
def Event.key : Event T → Area T
  | .freightTemplateCreated a _ | .freightTemplateUpdated a | .freightTemplateDeleted a => a

/-- Every successful call writes one template and deposits an event naming its area. -/
theorem dispatch_audited {s s' : State T} {origin : Origin T.AccountId} {c : Call}
    (hs : dispatch origin c s = .ok () s') :
    Audited State.freightTemplates State.events Event.key s s' := by
  rw [dispatch_ok] at hs
  cases c with
  | createFreightTemplate =>
    obtain ⟨_, _, -, -, -, rfl⟩ := createFreightTemplate_ok hs
    exact audited_update rfl rfl ⟨_, List.mem_cons_self _ _, rfl⟩
  | updateFreightTemplate =>
    obtain ⟨_, _, _, -, -, -, -, rfl⟩ := updateFreightTemplate_ok hs
    exact audited_update rfl rfl ⟨_, List.mem_cons_self _ _, rfl⟩
  | deleteFreightTemplate =>
    obtain ⟨_, _, _, -, -, -, -, rfl⟩ := deleteFreightTemplate_ok hs
    exact audited_update rfl rfl ⟨_, List.mem_cons_self _ _, rfl⟩

/-- In every storage, the creator of a template can delete it. -/
theorem deleteFreightTemplate_enabled (s : State T) {k : Area T} {t : FreightTemplate T}
    (ht : s.freightTemplates k = some t) :
    ∃ s', dispatch (.signed t.creator) (.deleteFreightTemplate k.toList) s = .ok () s' ∧
      s'.freightTemplates k = none := by
  exact ⟨_, dispatch_ok.mpr (by
    simp only [Call.body, deleteFreightTemplate, depositEvent, bind_assoc, ensureSigned_bind,
      okOr_bind, BoundedVec.tryFrom_toList_self, get_bind, ht, ensure_bind, if_true, modify_bind,
      modify_apply]
    rfl), Function.update_same _ _ _⟩

end FreightTemplate

/-! ## `institution-payment-method` -/

namespace PaymentMethod

variable {T : Config}

/-- What an event of `institution-payment-method` says of the record it names. -/
def Event.change : Event T → Change (InstitutionId T) Unit
  | .paymentMethodCreated id _ => .created id ()
  | .paymentMethodDeleted id => .deleted id
  | _ => .other

/-- The ids with a stored record. -/
abbrev stored (s : State T) : InstitutionId T → Option Unit :=
  creators (fun _ => ()) s.paymentMethods

theorem dispatch_log {s s' : State T} {origin : Origin T.AccountId} {c : Call}
    (hs : dispatch origin c s = .ok () s') :
    ∃ evs, s'.events = s.events ++ evs ∧ applyChanges Event.change (stored s) evs = stored s' := by
  rw [dispatch_ok] at hs
  cases c with
  | setPaymentMethod =>
    obtain ⟨_, key, _, _, _, _, -, -, -, -, -, -, -, rfl⟩ := setPaymentMethod_ok hs
    refine ⟨_, rfl, ?_⟩
    cases hk : s.paymentMethods key with
    | none =>
      simp only [hk, Option.isSome_none, Bool.false_eq_true, if_false]
      exact (creators_update (fun _ => ()) s.paymentMethods key (some _)).symm
    | some p =>
      simp only [hk, Option.isSome_some, if_true]
      exact (creators_rewrite (fun _ => ()) hk (by rfl)).symm
  | removePaymentMethod =>
    obtain ⟨_, key, -, -, -, rfl⟩ := removePaymentMethod_ok hs
    exact ⟨_, rfl, (creators_update _ s.paymentMethods key none).symm⟩
  | updatePaymentField =>
    obtain ⟨_, _, _, _, _, -, -, -, hp, -, rfl⟩ := updatePaymentField_ok hs
    exact ⟨_, rfl, (creators_rewrite (fun _ => ()) hp (by rfl)).symm⟩

/-- The log of every reachable storage replays to the ids with a stored record. -/
theorem stored_replay {s : State T} (h : Reachable step (State.empty T) s) :
    replayChanges Event.change s.events = stored s :=
  h.replay rfl fun _ _ _ hs => dispatch_log hs

/-- The institution id an event names. -/
def Event.key : Event T → InstitutionId T
  | .paymentMethodCreated id _ | .paymentMethodUpdated id | .paymentMethodDeleted id => id

/-- Every successful call writes one record and deposits an event naming its id. -/
theorem dispatch_audited {s s' : State T} {origin : Origin T.AccountId} {c : Call}
    (hs : dispatch origin c s = .ok () s') :
    Audited State.paymentMethods State.events Event.key s s' := by
  rw [dispatch_ok] at hs
  cases c with
  | setPaymentMethod =>
    obtain ⟨_, _, _, _, _, _, -, -, -, -, -, -, -, rfl⟩ := setPaymentMethod_ok hs
    exact audited_update rfl rfl ⟨_, List.mem_cons_self _ _, by split <;> rfl⟩
  | removePaymentMethod =>
    obtain ⟨_, _, -, -, -, rfl⟩ := removePaymentMethod_ok hs
    exact audited_update rfl rfl ⟨_, List.mem_cons_self _ _, rfl⟩
  | updatePaymentField =>
    obtain ⟨_, _, _, _, _, -, -, -, -, -, rfl⟩ := updatePaymentField_ok hs
    exact audited_update rfl rfl ⟨_, List.mem_cons_self _ _, rfl⟩

/-- In every reachable storage, `has_payment_method` answers as the replayed log does. -/
theorem hasPaymentMethod_replay {s : State T} (h : Reachable step (State.empty T) s)
    (id : InstitutionId T) : hasPaymentMethod s id = (replayChanges Event.change s.events id).isSome := by
  rw [stored_replay h, stored, creators, hasPaymentMethod]
  cases s.paymentMethods id <;> rfl

end PaymentMethod

end FissionMall
