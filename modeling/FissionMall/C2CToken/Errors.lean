import FissionMall.C2CToken.Stock

/-
  What a failing call of `c2c-token` reports about the storage it ran on (`KeyErrors`). Every call
  names one pair (token code, institution code): `BadOrigin` reports that the call was not
  signed, `TokenNotFound` that no token is stored under the pair, `TokenAlreadyExists` that one
  is, and `NotAuthorized` that one is and another account created it. `trade_token` raises
  `TokenNotFound` for a stored token that is not `Available` too, and reads the token once more
  after writing it, a read that cannot fail; past its status check it fails only on stock
  (`InsufficientStock`) or on a full `UserTokens` (`addUserToken_error`).

  One lemma per call (`createToken_reports`, …); `dispatch_reports` collects them.
-/

namespace FissionMall.C2CToken

variable {T : Config}

/-- Whether a call reads an unavailable token as absent: `trade_token` does. -/
def Call.isTrade : Call → Bool
  | .tradeToken .. => true
  | _ => false

/-- What an error of the call `c`, signed by `origin`, reports about the token stored in `s` under
the pair `c` names. -/
abbrev Reports (origin : Origin T.AccountId) (c : Call) (s : State T) : DispatchError Error → Prop :=
  KeyErrors .tokenNotFound .tokenAlreadyExists .notAuthorized s.tokens TokenInfo.creator
    (fun t => c.isTrade ∧ t.status ≠ .available) origin (keyOf c.codes.1 c.codes.2)

section Calls

variable {origin : Origin T.AccountId} {tc ic : Bytes} {s s' : State T} {e : DispatchError Error}

/-- `addUserToken` fails only on a full `UserTokens`. -/
theorem addUserToken_error {who : T.AccountId} {pair : TokenCode T × InstitutionCode T}
    (h : addUserToken who pair s = .error e s') : e = .module .userTokenListFull := by
  simp only [addUserToken, bind_assoc, get_bind] at h
  split at h
  · cases hb : (s.userTokens who).tryPush pair with
    | none => simp only [hb, okOr_bind] at h; exact (EStateM.Result.error.inj h).1.symm
    | some b => simp only [hb, okOr_bind, modify_apply] at h; exact absurd h ok_ne_error
  · exact absurd h ok_ne_error

theorem createToken_reports {n c : Bytes} {p : BitVec 128} {d : BitVec 8} {st : BitVec 32}
    (h : createToken origin tc ic n c p d st s = .error e s') :
    Reports origin (.createToken tc ic n c p d st) s e := by
  simp only [createToken, writeToken, depositEvent, bind_assoc, ensureSigned_bind_eq_error,
    okOr_bind_eq_error, get_bind, ensure_bind_eq_error, ensure_apply_eq_error, modify_bind,
    modify_apply, ok_ne_error, and_false, false_or, or_false] at h
  refine ⟨?badOrigin, ?notFound, ?found, ?notAuthorized⟩ <;> rintro rfl <;>
    simp only [reduceCtorEq, DispatchError.module.injEq, false_and, and_false, exists_false,
      or_false, false_or, and_true] at h
  case badOrigin => exact h.1
  case found =>
    obtain ⟨-, -, a, ha, b, hb, hn, -⟩ := h
    exact ⟨_, keyOf_eq ha hb, by simpa using hn⟩

theorem updateTokenInfo_reports {n c : Option Bytes} {p : Option (BitVec 128)}
    {d : Option (BitVec 8)} (h : updateTokenInfo origin tc ic n c p d s = .error e s') :
    Reports origin (.updateTokenInfo tc ic n c p d) s e := by
  simp only [updateTokenInfo, writeToken, depositEvent, bind_assoc, ensureSigned_bind_eq_error,
    okOr_bind_eq_error, get_bind, ensure_bind_eq_error, ensure_apply_eq_error, modify_bind,
    modify_apply, ok_ne_error, and_false, false_or, or_false] at h
  refine ⟨?badOrigin, ?notFound, ?found, ?notAuthorized⟩ <;> rintro rfl <;>
    simp only [reduceCtorEq, DispatchError.module.injEq, false_and, and_false, exists_false,
      or_false, false_or, and_true] at h
  case badOrigin => exact h.1
  case notFound =>
    obtain ⟨-, -, a, ha, b, hb, ht, -⟩ := h
    exact ⟨_, keyOf_eq ha hb, .inl ht⟩
  case notAuthorized =>
    obtain ⟨who, rfl, a, ha, b, hb, t, ht, hc, -⟩ := h
    exact ⟨who, _, t, rfl, keyOf_eq ha hb, ht, hc⟩

theorem updateTokenStatus_reports {st : BitVec 8}
    (h : updateTokenStatus origin tc ic st s = .error e s') :
    Reports origin (.updateTokenStatus tc ic st) s e := by
  simp only [updateTokenStatus, writeToken, depositEvent, bind_assoc, ensureSigned_bind_eq_error,
    okOr_bind_eq_error, get_bind, ensure_bind_eq_error, ensure_apply_eq_error, modify_bind,
    modify_apply, ok_ne_error, and_false, false_or, or_false] at h
  refine ⟨?badOrigin, ?notFound, ?found, ?notAuthorized⟩ <;> rintro rfl <;>
    simp only [reduceCtorEq, DispatchError.module.injEq, false_and, and_false, exists_false,
      or_false, false_or, and_true] at h
  case badOrigin => exact h.1
  case notFound =>
    obtain ⟨-, -, a, ha, b, hb, ht, -⟩ := h
    exact ⟨_, keyOf_eq ha hb, .inl ht⟩
  case notAuthorized =>
    obtain ⟨who, rfl, a, ha, b, hb, t, ht, hc, -⟩ := h
    exact ⟨who, _, t, rfl, keyOf_eq ha hb, ht, hc⟩

/-- `update_token_price` checks the price before it converts the codes. -/
theorem updateTokenPrice_reports {p : BitVec 128}
    (h : updateTokenPrice origin tc ic p s = .error e s') :
    Reports origin (.updateTokenPrice tc ic p) s e := by
  simp only [updateTokenPrice, writeToken, depositEvent, bind_assoc, ensureSigned_bind_eq_error,
    okOr_bind_eq_error, get_bind, ensure_bind_eq_error, ensure_apply_eq_error, modify_bind,
    modify_apply, ok_ne_error, and_false, false_or, or_false] at h
  refine ⟨?badOrigin, ?notFound, ?found, ?notAuthorized⟩ <;> rintro rfl <;>
    simp only [reduceCtorEq, DispatchError.module.injEq, false_and, and_false, exists_false,
      or_false, false_or, and_true] at h
  case badOrigin => exact h.1
  case notFound =>
    obtain ⟨-, -, -, a, ha, b, hb, ht, -⟩ := h
    exact ⟨_, keyOf_eq ha hb, .inl ht⟩
  case notAuthorized =>
    obtain ⟨who, rfl, -, a, ha, b, hb, t, ht, hc, -⟩ := h
    exact ⟨who, _, t, rfl, keyOf_eq ha hb, ht, hc⟩

theorem updateStock_reports {st : BitVec 32} (h : updateStock origin tc ic st s = .error e s') :
    Reports origin (.updateStock tc ic st) s e := by
  simp only [updateStock, writeToken, depositEvent, bind_assoc, ensureSigned_bind_eq_error,
    okOr_bind_eq_error, get_bind, ensure_bind_eq_error, ensure_apply_eq_error, modify_bind,
    modify_apply, ok_ne_error, and_false, false_or, or_false] at h
  refine ⟨?badOrigin, ?notFound, ?found, ?notAuthorized⟩ <;> rintro rfl <;>
    simp only [reduceCtorEq, DispatchError.module.injEq, false_and, and_false, exists_false,
      or_false, false_or, and_true] at h
  case badOrigin => exact h.1
  case notFound =>
    obtain ⟨-, -, a, ha, b, hb, ht, -⟩ := h
    exact ⟨_, keyOf_eq ha hb, .inl ht⟩
  case notAuthorized =>
    obtain ⟨who, rfl, a, ha, b, hb, t, ht, hc, -⟩ := h
    exact ⟨who, _, t, rfl, keyOf_eq ha hb, ht, hc⟩

theorem deleteToken_reports (h : deleteToken origin tc ic s = .error e s') :
    Reports origin (.deleteToken tc ic) s e := by
  simp only [deleteToken, depositEvent, bind_assoc, ensureSigned_bind_eq_error,
    okOr_bind_eq_error, get_bind, ensure_bind_eq_error, ensure_apply_eq_error, modify_bind,
    modify_apply, ok_ne_error, and_false, false_or, or_false] at h
  refine ⟨?badOrigin, ?notFound, ?found, ?notAuthorized⟩ <;> rintro rfl <;>
    simp only [reduceCtorEq, DispatchError.module.injEq, false_and, and_false, exists_false,
      or_false, false_or, and_true] at h
  case badOrigin => exact h.1
  case notFound =>
    obtain ⟨-, -, a, ha, b, hb, ht, -⟩ := h
    exact ⟨_, keyOf_eq ha hb, .inl ht⟩
  case notAuthorized =>
    obtain ⟨who, rfl, a, ha, b, hb, t, ht, hc, -⟩ := h
    exact ⟨who, _, t, rfl, keyOf_eq ha hb, ht, hc⟩

/-- `trade_token` raises `TokenNotFound` for a missing token and for an unavailable one; past its
status check it fails only on stock or on a full `UserTokens`. -/
theorem tradeToken_reports {q : BitVec 32} (h : tradeToken origin tc ic q s = .error e s') :
    Reports origin (.tradeToken tc ic q) s e := by
  simp only [tradeToken, writeToken, depositEvent, bind_assoc, ensureSigned_bind_eq_error,
    okOr_bind_eq_error, get_bind, ensure_bind_eq_error, ensure_apply_eq_error, modify_bind,
    modify_apply, ok_ne_error, and_false, false_or, or_false] at h
  rcases h with ⟨hb, rfl, -⟩ | ⟨who, rfl, ⟨-, rfl, -⟩ | ⟨a, ha, ⟨-, rfl, -⟩ |
    ⟨b, hb, ⟨ht, rfl, -⟩ | ⟨t, ht, ⟨hst, rfl, -⟩ | ⟨-, h⟩⟩⟩⟩⟩
  · exact ⟨fun _ => hb, nofun, nofun, nofun⟩
  · exact ⟨nofun, nofun, nofun, nofun⟩
  · exact ⟨nofun, nofun, nofun, nofun⟩
  · exact ⟨nofun, fun _ => ⟨_, keyOf_eq ha hb, .inl ht⟩, nofun, nofun⟩
  · exact ⟨nofun, fun _ => ⟨_, keyOf_eq ha hb, .inr ⟨t, ht, rfl, hst⟩⟩, nofun, nofun⟩
  · have he : e = .module .insufficientStock ∨ e = .module .userTokenListFull := by
      cases hd : t.tokenTradeDirection with
      | sell =>
        simp only [hd, ensure_bind_eq_error, pure_bind, modify_bind, get_bind, okOr_bind_eq_error,
          Function.update_same, reduceCtorEq, false_and, false_or, Option.some.injEq,
          exists_eq_left', if_false, pure_apply, ok_ne_error, and_false, or_false] at h
        exact .inl h.2.1
      | buy =>
        simp only [hd, pure_bind, modify_bind, get_bind, okOr_bind_eq_error, Function.update_same,
          reduceCtorEq, false_and, false_or, Option.some.injEq, exists_eq_left', if_true] at h
        exact .inr (addUserToken_error h)
    rcases he with rfl | rfl <;> exact ⟨nofun, nofun, nofun, nofun⟩

end Calls

/-- Every failing call reports the truth about the token stored under the pair it names. -/
theorem dispatch_reports {origin : Origin T.AccountId} {c : Call} {s s' : State T}
    {e : DispatchError Error} (h : dispatch origin c s = .error e s') : Reports origin c s e := by
  obtain ⟨_, h⟩ := withStorageLayer_error_body h
  cases c with
  | createToken => exact createToken_reports h
  | updateTokenInfo => exact updateTokenInfo_reports h
  | updateTokenStatus => exact updateTokenStatus_reports h
  | updateTokenPrice => exact updateTokenPrice_reports h
  | updateStock => exact updateStock_reports h
  | deleteToken => exact deleteToken_reports h
  | tradeToken => exact tradeToken_reports h

end FissionMall.C2CToken
