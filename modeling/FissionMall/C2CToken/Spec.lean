import FissionMall.C2CToken.Pallet

/-
  One spec lemma per call of `c2c-token`. Every call but `create_token` and `delete_token`
  rewrites one stored token in place (`State.rewriteToken`) and leaves `InstitutionTokens` alone;
  `trade_token` on a `Buy` token then runs `addUserToken` on the trader's `UserTokens`.
-/

namespace FissionMall.C2CToken

open Function (update)

variable {T : Config}

/-- Token `key` rewritten as `t`, and the events `evs` deposited. -/
def State.rewriteToken (s : State T) (key : TokenCode T × InstitutionCode T) (t : TokenInfo T)
    (evs : List (Event T)) : State T :=
  { s with tokens := update s.tokens key (some t), events := s.events ++ evs }

theorem dispatch_ok {origin : Origin T.AccountId} {c : Call} {s s' : State T} :
    dispatch origin c s = .ok () s' ↔ c.body origin s = .ok () s' :=
  withStorageLayer_ok

/-- A failing call leaves the storage as it was. -/
theorem dispatch_error {origin : Origin T.AccountId} {c : Call} {s s' : State T}
    {e : DispatchError Error} (h : dispatch origin c s = .error e s') : s' = s :=
  withStorageLayer_error h

section Calls

variable {origin : Origin T.AccountId} {tc ic : Bytes} {s s' : State T}

theorem createToken_ok {n c : Bytes} {p : BitVec 128} {d : BitVec 8} {st : BitVec 32}
    (h : createToken origin tc ic n c p d st s = .ok () s') :
    ∃ who code inst name cat dir bi bu, origin = .signed who ∧ BoundedVec.tryFrom tc = some code ∧
      BoundedVec.tryFrom ic = some inst ∧ s.tokens (code, inst) = none ∧ 0 < p ∧
      decodeDirection d = some dir ∧ BoundedVec.tryFrom n = some name ∧
      BoundedVec.tryFrom c = some cat ∧ (s.institutionTokens inst).tryPush code = some bi ∧
      (s.userTokens who).tryPush (code, inst) = some bu ∧
      s' = { tokens := update s.tokens (code, inst)
               (some ⟨inst, name, cat, p, dir, st, 0, .available, who⟩),
             institutionTokens := update s.institutionTokens inst bi,
             userTokens := update s.userTokens who bu,
             events := s.events ++ [.tokenCreated code inst who] } := by
  simp only [createToken, writeToken, depositEvent, bind_assoc, ensureSigned_bind_eq_ok,
    okOr_bind_eq_ok, get_bind, ensure_bind_eq_ok, modify_bind, modify_apply, result_ok_inj,
    Option.isNone_iff_eq_none] at h
  obtain ⟨who, rfl, code, hc, inst, hi, h1, h2, dir, hd, name, hn, cat, hcat, bi, hbi, bu, hbu, -,
    rfl⟩ := h
  exact ⟨who, code, inst, name, cat, dir, bi, bu, rfl, hc, hi, h1, h2, hd, hn, hcat, hbi, hbu, rfl⟩

theorem updateTokenInfo_ok {n c : Option Bytes} {p : Option (BitVec 128)}
    {d : Option (BitVec 8)} (h : updateTokenInfo origin tc ic n c p d s = .ok () s') :
    ∃ who code inst t name cat dir, origin = .signed who ∧ BoundedVec.tryFrom tc = some code ∧
      BoundedVec.tryFrom ic = some inst ∧ s.tokens (code, inst) = some t ∧ t.creator = who ∧
      t.tokenName.tryReplace n = some name ∧ t.category.tryReplace c = some cat ∧
      (∀ x ∈ p, x > 0) ∧ replaceDirection t.tokenTradeDirection d = some dir ∧
      s' = s.rewriteToken (code, inst) { t with
        tokenName := name, category := cat, price := p.getD t.price, tokenTradeDirection := dir }
        [.tokenUpdated code inst] := by
  simp only [updateTokenInfo, writeToken, depositEvent, bind_assoc, ensureSigned_bind_eq_ok,
    okOr_bind_eq_ok, get_bind, ensure_bind_eq_ok, modify_bind, modify_apply, result_ok_inj] at h
  obtain ⟨who, rfl, code, hc, inst, hi, t, ht, h1, name, hn, cat, hcat, hp, dir, hd, -, rfl⟩ := h
  exact ⟨who, code, inst, t, name, cat, dir, rfl, hc, hi, ht, h1, hn, hcat, hp, hd, rfl⟩

theorem updateTokenStatus_ok {st : BitVec 8} (h : updateTokenStatus origin tc ic st s = .ok () s') :
    ∃ who code inst t new, origin = .signed who ∧ BoundedVec.tryFrom tc = some code ∧
      BoundedVec.tryFrom ic = some inst ∧ s.tokens (code, inst) = some t ∧ t.creator = who ∧
      decodeStatus st = some new ∧
      s' = s.rewriteToken (code, inst) { t with status := new } [.tokenStatusUpdated code inst st] := by
  simp only [updateTokenStatus, writeToken, depositEvent, bind_assoc, ensureSigned_bind_eq_ok,
    okOr_bind_eq_ok, get_bind, ensure_bind_eq_ok, modify_bind, modify_apply, result_ok_inj] at h
  obtain ⟨who, rfl, code, hc, inst, hi, t, ht, h1, new, hn, -, rfl⟩ := h
  exact ⟨who, code, inst, t, new, rfl, hc, hi, ht, h1, hn, rfl⟩

theorem updateTokenPrice_ok {p : BitVec 128} (h : updateTokenPrice origin tc ic p s = .ok () s') :
    ∃ who code inst t, origin = .signed who ∧ p > 0 ∧ BoundedVec.tryFrom tc = some code ∧
      BoundedVec.tryFrom ic = some inst ∧ s.tokens (code, inst) = some t ∧ t.creator = who ∧
      s' = s.rewriteToken (code, inst) { t with price := p } [.tokenPriceUpdated code inst p] := by
  simp only [updateTokenPrice, writeToken, depositEvent, bind_assoc, ensureSigned_bind_eq_ok,
    okOr_bind_eq_ok, get_bind, ensure_bind_eq_ok, modify_bind, modify_apply, result_ok_inj] at h
  obtain ⟨who, rfl, hp, code, hc, inst, hi, t, ht, h1, -, rfl⟩ := h
  exact ⟨who, code, inst, t, rfl, hp, hc, hi, ht, h1, rfl⟩

theorem updateStock_ok {st : BitVec 32} (h : updateStock origin tc ic st s = .ok () s') :
    ∃ who code inst t, origin = .signed who ∧ BoundedVec.tryFrom tc = some code ∧
      BoundedVec.tryFrom ic = some inst ∧ s.tokens (code, inst) = some t ∧ t.creator = who ∧
      s' = s.rewriteToken (code, inst) { t with stockQuantity := st }
        [.tokenStockUpdated code inst st] := by
  simp only [updateStock, writeToken, depositEvent, bind_assoc, ensureSigned_bind_eq_ok,
    okOr_bind_eq_ok, get_bind, ensure_bind_eq_ok, modify_bind, modify_apply, result_ok_inj] at h
  obtain ⟨who, rfl, code, hc, inst, hi, t, ht, h1, -, rfl⟩ := h
  exact ⟨who, code, inst, t, rfl, hc, hi, ht, h1, rfl⟩

theorem deleteToken_ok (h : deleteToken origin tc ic s = .ok () s') :
    ∃ who code inst t, origin = .signed who ∧ BoundedVec.tryFrom tc = some code ∧
      BoundedVec.tryFrom ic = some inst ∧ s.tokens (code, inst) = some t ∧ t.creator = who ∧
      s' = { tokens := update s.tokens (code, inst) none,
             institutionTokens := update s.institutionTokens inst
               ((s.institutionTokens inst).retain (· != code)),
             userTokens := update s.userTokens who
               ((s.userTokens who).retain fun x => x.1 != code || x.2 != inst),
             events := s.events ++ [.tokenDeleted code inst] } := by
  simp only [deleteToken, depositEvent, bind_assoc, ensureSigned_bind_eq_ok, okOr_bind_eq_ok,
    get_bind, ensure_bind_eq_ok, modify_bind, modify_apply, result_ok_inj] at h
  obtain ⟨who, rfl, code, hc, inst, hi, t, ht, h1, -, rfl⟩ := h
  exact ⟨who, code, inst, t, rfl, hc, hi, ht, h1, rfl⟩

/-- `addUserToken` leaves the storage as it is when `who` holds `pair`, and pushes it otherwise. -/
theorem addUserToken_ok {who : T.AccountId} {pair : TokenCode T × InstitutionCode T} :
    addUserToken who pair s = .ok () s' ↔
      ((s.userTokens who).contains pair = true ∧ s' = s) ∨
      ((s.userTokens who).contains pair = false ∧ ∃ b, (s.userTokens who).tryPush pair = some b ∧
        s' = { s with userTokens := update s.userTokens who b }) := by
  simp only [addUserToken, bind_assoc, get_bind]
  cases (s.userTokens who).contains pair with
  | true => simp [result_ok_inj, eq_comm]
  | false => cases (s.userTokens who).tryPush pair <;> simp [okOr_bind, result_ok_inj, eq_comm]

theorem tradeToken_ok {q : BitVec 32} (h : tradeToken origin tc ic q s = .ok () s') :
    ∃ who code inst t, origin = .signed who ∧ BoundedVec.tryFrom tc = some code ∧
      BoundedVec.tryFrom ic = some inst ∧ s.tokens (code, inst) = some t ∧
      t.status = .available ∧
      ((t.tokenTradeDirection = .sell ∧ q ≤ t.stockQuantity ∧
        s' = s.rewriteToken (code, inst) { t with
          stockQuantity := saturatingSub t.stockQuantity q,
          salesQuantity := saturatingAdd t.salesQuantity q } [.tokenTraded code inst who q]) ∨
       (t.tokenTradeDirection = .buy ∧
        addUserToken who (code, inst) (s.rewriteToken (code, inst)
          { t with stockQuantity := saturatingAdd t.stockQuantity q }
          [.tokenTraded code inst who q]) = .ok () s')) := by
  simp only [tradeToken, writeToken, depositEvent, bind_assoc, ensureSigned_bind_eq_ok,
    okOr_bind_eq_ok, get_bind, ensure_bind_eq_ok, modify_bind, modify_apply, result_ok_inj] at h
  obtain ⟨who, rfl, code, hc, inst, hi, t, ht, hst, h⟩ := h
  refine ⟨who, code, inst, t, rfl, hc, hi, ht, hst, ?_⟩
  cases hd : t.tokenTradeDirection with
  | sell =>
    simp only [hd, bind_assoc, ensure_bind_eq_ok, pure_bind, modify_bind, get_bind,
      okOr_bind_eq_ok, Function.update_same, Option.some.injEq, exists_eq_left', reduceCtorEq,
      if_false, pure_apply, result_ok_inj, true_and] at h
    obtain ⟨hq, rfl⟩ := h
    exact .inl ⟨rfl, hq, by simp only [State.rewriteToken, hd]⟩
  | buy =>
    simp only [hd, bind_assoc, pure_bind, modify_bind, get_bind, okOr_bind_eq_ok,
      Function.update_same, Option.some.injEq, exists_eq_left', if_true] at h
    exact .inr ⟨rfl, by simpa only [State.rewriteToken, hd] using h⟩

end Calls

end FissionMall.C2CToken
