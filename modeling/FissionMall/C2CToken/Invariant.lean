import FissionMall.C2CToken.Spec
import FissionMall.Frame.Index
import FissionMall.Frame.Ownership

/-
  What holds of the `c2c-token` indexes in every reachable state, and what does not.

  `Inv`: `InstitutionTokens` indexes `Tokens` by the institution half of the key, as
  `InstitutionProducts` does for products. `HeldByCreator`: every token's pair is in its
  creator's `UserTokens`. `PriceValid`: every stored price is positive, the check of
  `create_token`, `update_token_info` and `update_token_price`.

  `UserTokens` is not an index of `Tokens`. `trade_token` on a `Buy` token adds the pair to the
  trader's bucket, and `delete_token` retains it out of the signer's bucket only, so after the
  creator deletes the token a trader's bucket still names it, and once that trader creates the
  pair again it names it twice (`userTokens_stale_after_delete`).
-/

namespace FissionMall.C2CToken

open Function (update)

variable {T : Config}

section Effects

variable {origin : Origin T.AccountId} {s s' : State T}

/-- What `trade_token` changes: the stock and sales of one stored token, and the buckets of
`UserTokens`, which only grow. -/
theorem tradeToken_effect {tc ic : Bytes} {q : BitVec 32}
    (h : tradeToken origin tc ic q s = .ok () s') :
    ∃ key t st sa, s.tokens key = some t ∧
      s'.tokens = update s.tokens key (some { t with stockQuantity := st, salesQuantity := sa }) ∧
      s'.institutionTokens = s.institutionTokens ∧
      ∀ a x, x ∈ (s.userTokens a).toList → x ∈ (s'.userTokens a).toList := by
  obtain ⟨who, code, inst, t, -, -, -, ht, -, ⟨-, -, rfl⟩ | ⟨-, h⟩⟩ := tradeToken_ok h
  · exact ⟨_, t, _, _, ht, rfl, rfl, fun _ _ hx => hx⟩
  · rcases addUserToken_ok.mp h with ⟨-, rfl⟩ | ⟨-, b, hb, rfl⟩
    · exact ⟨_, t, _, _, ht, rfl, rfl, fun _ _ hx => hx⟩
    · exact ⟨_, t, _, _, ht, rfl, rfl, fun _ _ hx => BoundedVec.mem_update_tryPush hb hx⟩

/-- A token map rewritten at `k` without a change of creator. -/
theorem tokens_update_creator {k : TokenCode T × InstitutionCode T} {t t' : TokenInfo T}
    (ht : s.tokens k = some t) (hc : t'.creator = t.creator) (k' : TokenCode T × InstitutionCode T)
    (t'' : TokenInfo T) (h : update s.tokens k (some t') k' = some t'') :
    ∃ t₀, s.tokens k' = some t₀ ∧ t''.creator = t₀.creator := by
  by_cases hk : k' = k
  · subst hk
    rw [Function.update_same, Option.some_inj] at h
    exact ⟨t, ht, h ▸ hc⟩
  · rw [Function.update_noteq hk] at h
    exact ⟨t'', h, rfl⟩

end Effects

/-! ## The institution index -/

/-- `InstitutionTokens` indexes `Tokens` by institution code. -/
structure Inv (s : State T) : Prop where
  byInstitution :
    IndexedBy s.tokens (fun k _ => k.2) Prod.fst (BoundedVec.lists s.institutionTokens)

theorem Inv.empty : Inv (State.empty T) := ⟨.empty⟩

theorem Inv.rewriteToken {s : State T} {k : TokenCode T × InstitutionCode T} {t t' : TokenInfo T}
    {evs : List (Event T)} (h : Inv s) (ht : s.tokens k = some t) : Inv (s.rewriteToken k t' evs) :=
  ⟨h.byInstitution.modify ht rfl⟩

/-- Every successful call keeps the institution index. -/
theorem Inv.dispatch {s s' : State T} {origin : Origin T.AccountId} {c : Call}
    (h : Inv s) (hs : dispatch origin c s = .ok () s') : Inv s' := by
  rw [dispatch_ok] at hs
  cases c with
  | createToken =>
    obtain ⟨_, _, _, _, _, _, _, _, -, -, -, hk, -, -, -, -, hbi, -, rfl⟩ := createToken_ok hs
    exact ⟨h.byInstitution.push keyedBy_pair hk hbi⟩
  | updateTokenInfo =>
    obtain ⟨_, _, _, _, _, _, _, -, -, -, ht, -, -, -, -, -, rfl⟩ := updateTokenInfo_ok hs
    exact h.rewriteToken ht
  | updateTokenStatus =>
    obtain ⟨_, _, _, _, _, -, -, -, ht, -, -, rfl⟩ := updateTokenStatus_ok hs
    exact h.rewriteToken ht
  | updateTokenPrice =>
    obtain ⟨_, _, _, _, -, -, -, -, ht, -, rfl⟩ := updateTokenPrice_ok hs
    exact h.rewriteToken ht
  | updateStock =>
    obtain ⟨_, _, _, _, -, -, -, ht, -, rfl⟩ := updateStock_ok hs
    exact h.rewriteToken ht
  | deleteToken =>
    obtain ⟨_, _, _, _, -, -, -, ht, -, rfl⟩ := deleteToken_ok hs
    exact ⟨h.byInstitution.retain keyedBy_pair ht⟩
  | tradeToken =>
    obtain ⟨_, _, _, _, ht, htok, hinst, -⟩ := tradeToken_effect hs
    exact ⟨by rw [htok, hinst]; exact h.byInstitution.modify ht rfl⟩

theorem Inv.reachable {s : State T} (h : Reachable step (State.empty T) s) : Inv s :=
  h.inv Inv.empty fun _ _ _ hi hs => hi.dispatch hs

/-! ## Every token is held by its creator -/

/-- Every token's pair is in its creator's `UserTokens`. -/
def HeldByCreator (s : State T) : Prop :=
  ∀ k t, s.tokens k = some t → k ∈ (s.userTokens t.creator).toList

theorem HeldByCreator.empty : HeldByCreator (State.empty T) := fun _ _ h => by cases h

/-- Tokens that keep their creators, and buckets that keep their entries, keep the pairs held. -/
theorem HeldByCreator.of_grow {s s' : State T} (h : HeldByCreator s)
    (htok : ∀ k t', s'.tokens k = some t' → ∃ t, s.tokens k = some t ∧ t'.creator = t.creator)
    (hU : ∀ a x, x ∈ (s.userTokens a).toList → x ∈ (s'.userTokens a).toList) :
    HeldByCreator s' := fun k t' h' => by
  obtain ⟨t, ht, hc⟩ := htok k t' h'
  exact hc ▸ hU _ _ (h k t ht)

theorem HeldByCreator.rewriteToken {s : State T} {k : TokenCode T × InstitutionCode T}
    {t t' : TokenInfo T} {evs : List (Event T)} (h : HeldByCreator s) (ht : s.tokens k = some t)
    (hc : t'.creator = t.creator) : HeldByCreator (s.rewriteToken k t' evs) :=
  h.of_grow (tokens_update_creator ht hc) fun _ _ hx => hx

theorem HeldByCreator.dispatch {s s' : State T} {origin : Origin T.AccountId} {c : Call}
    (h : HeldByCreator s) (hs : dispatch origin c s = .ok () s') : HeldByCreator s' := by
  rw [dispatch_ok] at hs
  cases c with
  | createToken =>
    obtain ⟨who, code, inst, _, _, _, _, _, -, -, -, -, -, -, -, -, -, hbu, rfl⟩ := createToken_ok hs
    intro k t' h'
    by_cases hk : k = (code, inst)
    · subst hk
      simp only [Function.update_same, Option.some_inj] at h'
      subst h'
      simp only [Function.update_same]
      exact (BoundedVec.mem_tryPush hbu).mpr (.inr rfl)
    · simp only [Function.update_noteq hk] at h'
      exact BoundedVec.mem_update_tryPush hbu (h k t' h')
  | updateTokenInfo =>
    obtain ⟨_, _, _, _, _, _, _, -, -, -, ht, -, -, -, -, -, rfl⟩ := updateTokenInfo_ok hs
    exact h.rewriteToken ht rfl
  | updateTokenStatus =>
    obtain ⟨_, _, _, _, _, -, -, -, ht, -, -, rfl⟩ := updateTokenStatus_ok hs
    exact h.rewriteToken ht rfl
  | updateTokenPrice =>
    obtain ⟨_, _, _, _, -, -, -, -, ht, -, rfl⟩ := updateTokenPrice_ok hs
    exact h.rewriteToken ht rfl
  | updateStock =>
    obtain ⟨_, _, _, _, -, -, -, ht, -, rfl⟩ := updateStock_ok hs
    exact h.rewriteToken ht rfl
  | deleteToken =>
    obtain ⟨who, code, inst, _, -, -, -, -, -, rfl⟩ := deleteToken_ok hs
    intro k t' h'
    have hk : k ≠ (code, inst) := by rintro rfl; simp at h'
    simp only [Function.update_noteq hk] at h'
    have hmem := h k t' h'
    by_cases ha : t'.creator = who
    · subst ha
      simp only [Function.update_same, BoundedVec.retain_toList, List.mem_filter]
      refine ⟨hmem, ?_⟩
      simpa [Prod.ext_iff, or_iff_not_imp_left] using hk
    · simpa only [Function.update_noteq ha] using hmem
  | tradeToken =>
    obtain ⟨_, _, _, _, ht, htok, -, hU⟩ := tradeToken_effect hs
    exact h.of_grow (htok ▸ tokens_update_creator ht rfl) hU

theorem HeldByCreator.reachable {s : State T} (h : Reachable step (State.empty T) s) :
    HeldByCreator s :=
  h.inv HeldByCreator.empty fun _ _ _ hi hs => hi.dispatch hs

/-- The index facts of `c2c-token` that do hold: `InstitutionTokens` indexes `Tokens`, and every
token is in its creator's `UserTokens`, kept by every successful call and true in every reachable
state. -/
theorem token_indexes_hold :
    (∀ (s s' : State T) (origin : Origin T.AccountId) (c : Call), Inv s ∧ HeldByCreator s →
      dispatch origin c s = .ok () s' → Inv s' ∧ HeldByCreator s') ∧
    (∀ s : State T, Reachable step (State.empty T) s → Inv s ∧ HeldByCreator s) :=
  ⟨fun _ _ _ _ h hs => ⟨h.1.dispatch hs, h.2.dispatch hs⟩,
    fun _ h => ⟨Inv.reachable h, HeldByCreator.reachable h⟩⟩

/-! ## Prices -/

/-- Every stored token has a positive price. -/
def PriceValid (s : State T) : Prop :=
  AllStored (fun t : TokenInfo T => 0 < t.price) s.tokens

theorem PriceValid.dispatch {s s' : State T} {origin : Origin T.AccountId} {c : Call}
    (h : PriceValid s) (hs : dispatch origin c s = .ok () s') : PriceValid s' := by
  rw [dispatch_ok] at hs
  cases c with
  | createToken =>
    obtain ⟨_, _, _, _, _, _, _, _, -, -, -, -, hp, -, -, -, -, -, rfl⟩ := createToken_ok hs
    exact h.update_some hp
  | updateTokenInfo _ _ _ _ p =>
    obtain ⟨_, _, _, t, _, _, _, -, -, -, ht, -, -, -, hp, -, rfl⟩ := updateTokenInfo_ok hs
    refine h.update_some ?_
    cases p with
    | none => exact h _ t ht
    | some x => exact hp x rfl
  | updateTokenStatus =>
    obtain ⟨_, _, _, t, _, -, -, -, ht, -, -, rfl⟩ := updateTokenStatus_ok hs
    exact h.update_some (h _ t ht)
  | updateTokenPrice =>
    obtain ⟨_, _, _, _, -, hp, -, -, -, -, rfl⟩ := updateTokenPrice_ok hs
    exact h.update_some hp
  | updateStock =>
    obtain ⟨_, _, _, t, -, -, -, ht, -, rfl⟩ := updateStock_ok hs
    exact h.update_some (h _ t ht)
  | deleteToken =>
    obtain ⟨_, _, _, _, -, -, -, -, -, rfl⟩ := deleteToken_ok hs
    exact h.update_none _
  | tradeToken =>
    obtain ⟨_, t, _, _, ht, htok, -, -⟩ := tradeToken_effect hs
    unfold PriceValid
    rw [htok]
    exact h.update_some (h _ t ht)

theorem PriceValid.reachable {s : State T} (h : Reachable step (State.empty T) s) :
    PriceValid s :=
  h.inv AllStored.empty fun _ _ _ hi hs => PriceValid.dispatch hi hs

/-! ## Ownership -/

/-- `t'` is `t` with other stock and sales quantities: the change `trade_token` makes. -/
def TokenInfo.SameButQuantities (t t' : TokenInfo T) : Prop :=
  t' = { t with stockQuantity := t'.stockQuantity, salesQuantity := t'.salesQuantity }

theorem TokenInfo.SameButQuantities.creator_eq {t t' : TokenInfo T}
    (h : t.SameButQuantities t') : t'.creator = t.creator := by
  unfold TokenInfo.SameButQuantities at h
  rw [h]

/-- Accounts are `Nat`, and every code is one byte long. -/
abbrev Demo : Config :=
  { AccountId := Nat, MaxTokenCodeLength := 1, MaxInstitutionCodeLength := 1, MaxNameLength := 1,
    MaxCategoryLength := 1 }

/-- The one-byte code `[0]`. -/
def code0 : BoundedVec (BitVec 8) 1 := ⟨[0], by decide⟩

/-- Account 0 creates the `Buy` token `([0], [0])`, account 1 trades it, account 0 deletes it. -/
def tradeThenDeleteRun : List (Origin Nat × Call) :=
  [(.signed 0, .createToken [0] [0] [] [] 1 1 5), (.signed 1, .tradeToken [0] [0] 1),
   (.signed 0, .deleteToken [0] [0])]

/-- After `tradeThenDeleteRun` the deleted pair is still in account 1's `UserTokens`; once
account 1 creates the pair again, its bucket holds it twice. -/
theorem userTokens_stale_after_delete :
    Reachable step (State.empty Demo) (execute step (State.empty Demo) tradeThenDeleteRun) ∧
    ((execute step (State.empty Demo) tradeThenDeleteRun).tokens (code0, code0)).isNone ∧
    (code0, code0) ∈ ((execute step (State.empty Demo) tradeThenDeleteRun).userTokens 1).toList ∧
    ((execute step (State.empty Demo)
      (tradeThenDeleteRun ++ [(.signed 1, .createToken [0] [0] [] [] 1 1 5)])).userTokens 1).toList.count
      (code0, code0) = 2 :=
  ⟨reachable_execute (fun _ _ _ _ h => dispatch_error h) .init _, by decide, by decide, by decide⟩

end FissionMall.C2CToken
