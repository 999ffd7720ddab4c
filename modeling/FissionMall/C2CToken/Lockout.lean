import FissionMall.C2CToken.Invariant

/-
  An account that buys a thousand tokens of others can never create a token again.

  `UserTokens[a]` holds at most 1000 pairs. `create_token` pushes the new pair onto its creator's
  bucket and fails with `UserTokenListFull` when the bucket is full. `trade_token` on a `Buy` token
  pushes the traded pair onto the trader's bucket unless it is there already. Only `delete_token`
  takes pairs out, and only out of the bucket of the signer, who must have created the token. So a
  full bucket of an account that created no stored token is never emptied.

  Proved:
  * `Stuck.dispatch`: when `a`'s bucket is full and no stored token is `a`'s (`Stuck a`), every
    successful call, whoever signs it, keeps that and leaves `a`'s bucket as it is; `Stuck.run`
    lifts it to every run, and `Stuck.createToken_fails` says what it costs `a`.
  * `buy_run_reachable`: from empty storage, account `b` creates token `twoByteCode i` of
    institution `[0]` as `Buy` and `a` trades it, for `i < n`, and after these `2 n` successful
    calls `a`'s bucket lists the `n` pairs (`Bought`).
  * `bought_tokens_lock_out_creation`: after the thousandth round no run lets `a` create a token
    or changes `a`'s bucket, though `a` only ever traded.
-/

namespace FissionMall.C2CToken

open Function (update)

variable {T : Config}

/-! ## A full bucket and no token of one's own -/

/-- `a`'s `UserTokens` bucket is full, and no stored token was created by `a`. -/
structure Stuck (a : T.AccountId) (s : State T) : Prop where
  full : (s.userTokens a).toList.length = 1000
  notOwn : ∀ k t, s.tokens k = some t → t.creator ≠ a

section Stuck

variable {a : T.AccountId} {s s' : State T}

/-- A full bucket takes no more pairs: every push that succeeds is onto another account's. -/
theorem Stuck.ne_of_push (h : Stuck a s) {who : T.AccountId}
    {x : TokenCode T × InstitutionCode T} {v : BoundedVec (TokenCode T × InstitutionCode T) 1000}
    (hv : (s.userTokens who).tryPush x = some v) : who ≠ a := by
  rintro rfl
  rw [BoundedVec.tryPush_eq_none.mpr h.full.ge] at hv
  cases hv

/-- A storage with `a`'s bucket as before and no token of `a`'s. -/
theorem Stuck.of_bucket (h : Stuck a s) (hu : s'.userTokens a = s.userTokens a)
    (ho : ∀ k t, s'.tokens k = some t → t.creator ≠ a) :
    Stuck a s' ∧ s'.userTokens a = s.userTokens a :=
  ⟨⟨hu ▸ h.full, ho⟩, hu⟩

/-- A rewrite of a stored token that keeps its creator keeps `Stuck`. -/
theorem Stuck.rewriteToken (h : Stuck a s) {k : TokenCode T × InstitutionCode T}
    {t t' : TokenInfo T} (ht : s.tokens k = some t) (hc : t'.creator = t.creator)
    (evs : List (Event T)) :
    Stuck a (s.rewriteToken k t' evs) ∧ (s.rewriteToken k t' evs).userTokens a = s.userTokens a :=
  h.of_bucket rfl fun k' t'' h' =>
    let ⟨t₀, h₀, hc₀⟩ := tokens_update_creator ht hc k' t'' h'
    hc₀ ▸ h.notOwn k' t₀ h₀

/-- Every successful call, whoever signs it, keeps `Stuck a` and leaves `a`'s bucket as it is:
a push onto `a`'s bucket finds it full, and a deletion is by the token's creator, not `a`. -/
theorem Stuck.dispatch (h : Stuck a s) {origin : Origin T.AccountId} {c : Call}
    (hs : dispatch origin c s = .ok () s') : Stuck a s' ∧ s'.userTokens a = s.userTokens a := by
  rw [dispatch_ok] at hs
  cases c with
  | createToken =>
    obtain ⟨who, code, inst, _, _, _, _, _, -, -, -, -, -, -, -, -, -, hbu, rfl⟩ := createToken_ok hs
    have hne := h.ne_of_push hbu
    refine h.of_bucket (Function.update_noteq hne.symm _ _) fun k t hk => ?_
    by_cases hk' : k = (code, inst)
    · subst hk'
      simp only [Function.update_same, Option.some_inj] at hk
      exact hk ▸ hne
    · exact h.notOwn k t ((Function.update_noteq hk' _ _).symm.trans hk)
  | updateTokenInfo =>
    obtain ⟨_, _, _, _, _, _, _, -, -, -, ht, -, -, -, -, -, rfl⟩ := updateTokenInfo_ok hs
    exact h.rewriteToken ht (by rfl) _
  | updateTokenStatus =>
    obtain ⟨_, _, _, _, _, -, -, -, ht, -, -, rfl⟩ := updateTokenStatus_ok hs
    exact h.rewriteToken ht (by rfl) _
  | updateTokenPrice =>
    obtain ⟨_, _, _, _, -, -, -, -, ht, -, rfl⟩ := updateTokenPrice_ok hs
    exact h.rewriteToken ht (by rfl) _
  | updateStock =>
    obtain ⟨_, _, _, _, -, -, -, ht, -, rfl⟩ := updateStock_ok hs
    exact h.rewriteToken ht (by rfl) _
  | deleteToken =>
    obtain ⟨who, code, inst, t, -, -, -, ht, hc, rfl⟩ := deleteToken_ok hs
    have hne : who ≠ a := hc ▸ h.notOwn _ t ht
    refine h.of_bucket (Function.update_noteq hne.symm _ _) fun k t' hk => ?_
    by_cases hk' : k = (code, inst)
    · subst hk'
      simp only [Function.update_same, reduceCtorEq] at hk
    · exact h.notOwn k t' ((Function.update_noteq hk' _ _).symm.trans hk)
  | tradeToken _ _ q =>
    obtain ⟨who, code, inst, t, -, -, -, ht, -, ⟨-, -, rfl⟩ | ⟨-, hadd⟩⟩ := tradeToken_ok hs
    · exact h.rewriteToken ht (by rfl) _
    · rcases addUserToken_ok.mp hadd with ⟨-, rfl⟩ | ⟨-, v, hv, rfl⟩
      · exact h.rewriteToken ht (by rfl) _
      · have h₀ : Stuck a (s.rewriteToken (code, inst)
            { t with stockQuantity := saturatingAdd t.stockQuantity q } [.tokenTraded code inst who q]) :=
          (h.rewriteToken ht (by rfl) _).1
        exact h₀.of_bucket (Function.update_noteq (h₀.ne_of_push hv).symm _ _) h₀.notOwn

/-- From a storage where `a` is stuck, every run keeps `a` stuck with the same bucket. -/
theorem Stuck.run (h : Stuck a s) (calls : List (Origin T.AccountId × Call)) :
    Stuck a (execute step s calls) ∧ (execute step s calls).userTokens a = s.userTokens a :=
  execute_inv (P := fun u => Stuck a u ∧ u.userTokens a = s.userTokens a)
    (fun _ _ _ _ he => dispatch_error he)
    (fun _ _ _ _ hp hs => ⟨(hp.1.dispatch hs).1, (hp.1.dispatch hs).2.trans hp.2⟩) ⟨h, rfl⟩
    fun _ _ => trivial

/-- A stuck account cannot create a token: its push finds its bucket full. -/
theorem Stuck.createToken_fails (h : Stuck a s) (tc ic n c : Bytes) (p : BitVec 128)
    (d : BitVec 8) (st : BitVec 32) (s' : State T) :
    C2CToken.dispatch (.signed a) (.createToken tc ic n c p d st) s ≠ .ok () s' := fun hs => by
  obtain ⟨_, _, _, _, _, _, _, _, hw, -, -, -, -, -, -, -, -, hbu, -⟩ :=
    createToken_ok (dispatch_ok.mp hs)
  cases hw
  exact h.ne_of_push hbu rfl

end Stuck

/-! ## Buying a thousand tokens -/

section Run

variable (hc : 2 ≤ T.MaxTokenCodeLength) (hi : 1 ≤ T.MaxInstitutionCodeLength)

/-- Round `n`: `b` creates token `twoByteCode n` of institution `[0]` as `Buy`, with price 1, and
`a` trades one unit of it. -/
def buyRound (a b : T.AccountId) (n : Nat) : List (Origin T.AccountId × Call) :=
  [(.signed b, .createToken (twoByteCode n) [0] [] [] 1 1 0),
   (.signed a, .tradeToken (twoByteCode n) [0] 1)]

/-- The first `n` rounds. -/
def buyRun (a b : T.AccountId) : Nat → List (Origin T.AccountId × Call)
  | 0 => []
  | n + 1 => buyRun a b n ++ buyRound a b n

/-- In the run, `a` signs only `trade_token` calls. -/
theorem buyRun_signed_trades {a b : T.AccountId} (hab : a ≠ b) (n : Nat) :
    ∀ x ∈ buyRun a b n, x.1 = .signed a → ∃ tc ic q, x.2 = .tradeToken tc ic q := by
  induction n with
  | zero => exact fun x hx => absurd hx (List.not_mem_nil x)
  | succ n ih =>
    intro x hx hxa
    rcases List.mem_append.mp hx with hx | hx
    · exact ih x hx hxa
    · simp only [buyRound, List.mem_cons, List.mem_singleton, List.not_mem_nil, or_false] at hx
      rcases hx with rfl | rfl
      · exact absurd (Origin.signed.inj hxa).symm hab
      · exact ⟨_, _, _, rfl⟩

/-- The pair of round `i`: token `twoByteCode i` of institution `[0]`. -/
abbrev boughtPair (i : Nat) : TokenCode T × InstitutionCode T := (⟨twoByteCode i, hc⟩, ⟨[0], hi⟩)

theorem boughtPair_ne {i j : Nat} (hi' : i < 65536) (hj : j < 65536) (hij : i ≠ j) :
    boughtPair hc hi i ≠ boughtPair hc hi j := fun he =>
  ne_of_twoByteCode hi' hj hij (tryFrom_twoByteCode hc i) (tryFrom_twoByteCode hc j)
    (congrArg Prod.fst he)

/-- After `n` rounds: `a`'s bucket lists the pairs traded, in order; `b` created `n` tokens, all of
institution `[0]`; every stored token is `b`'s; the codes of the later rounds are unused. -/
structure Bought (a b : T.AccountId) (n : Nat) (s : State T) : Prop where
  held : (s.userTokens a).toList = (List.range n).map (boughtPair hc hi)
  created : (s.userTokens b).toList.length = n
  listed : (s.institutionTokens ⟨[0], hi⟩).toList.length = n
  creators : ∀ k t, s.tokens k = some t → t.creator = b
  fresh : ∀ j, n ≤ j → j < 1000 → s.tokens (boughtPair hc hi j) = none

theorem Bought.empty (a b : T.AccountId) : Bought hc hi a b 0 (State.empty T) :=
  ⟨rfl, rfl, rfl, fun _ _ h => Option.noConfusion h, fun _ _ _ => rfl⟩

/-- Both calls of round `n < 1000` succeed after the first `n` rounds, and `a`'s bucket gains
pair `n`. -/
theorem Bought.round {a b : T.AccountId} (hab : a ≠ b) {n : Nat} {s : State T}
    (h : Bought hc hi a b n s) (hn : n < 1000) :
    ∃ s₁ s₂, dispatch (.signed b) (.createToken (twoByteCode n) [0] [] [] 1 1 0) s = .ok () s₁ ∧
      dispatch (.signed a) (.tradeToken (twoByteCode n) [0] 1) s₁ = .ok () s₂ ∧
      Bought hc hi a b (n + 1) s₂ := by
  have hk := tryFrom_twoByteCode hc n
  have hi0 : BoundedVec.tryFrom [0] = some (⟨[0], hi⟩ : InstitutionCode T) := dif_pos hi
  have he : ∀ {m}, (BoundedVec.tryFrom [] : Option (BoundedVec (BitVec 8) m)) = some .empty :=
    dif_pos (Nat.zero_le _)
  have hp : (1 : BitVec 128) > 0 := by decide
  have hd : decodeDirection (1 : BitVec 8) = some .buy := rfl
  have hbi := (s.institutionTokens ⟨[0], hi⟩).tryPush_of_lt ⟨twoByteCode n, hc⟩
    (by rw [h.listed]; omega)
  have hbu := (s.userTokens b).tryPush_of_lt (boughtPair hc hi n) (by rw [h.created]; omega)
  have hba := (s.userTokens a).tryPush_of_lt (boughtPair hc hi n)
    (by rw [h.held, List.length_map, List.length_range]; omega)
  have hnot : (s.userTokens a).contains (boughtPair hc hi n) = false := by
    simp only [BoundedVec.contains, List.contains, List.elem_eq_mem, decide_eq_false_iff_not, h.held,
      List.mem_map, List.mem_range, not_exists, not_and]
    exact fun i hin => boughtPair_ne hc hi (by omega) (by omega) (by omega)
  refine ⟨_, _, dispatch_ok.mpr (by
    simp only [Call.body, createToken, writeToken, depositEvent, bind_assoc, ensureSigned_bind,
      okOr_bind, hk, hi0, he, get_bind, ensure_bind, h.fresh n le_rfl hn, Option.isNone_none,
      hp, if_true, hd, modify_bind, modify_apply, Function.update_same, hbi, hbu]
    rfl), dispatch_ok.mpr (by
    simp only [Call.body, tradeToken, writeToken, depositEvent, addUserToken, bind_assoc,
      ensureSigned_bind, okOr_bind, hk, hi0, get_bind, ensure_bind, Function.update_same,
      if_true, pure_bind, modify_bind, modify_apply, ↓reduceIte, Function.update_noteq hab, hnot,
      Bool.not_false, hba]
    rfl), ⟨?held, ?created, ?listed, ?creators, ?fresh⟩⟩
  case held =>
    simp only [Function.update_same, h.held, List.range_succ, List.map_append, List.map_singleton]
  case created =>
    simp only [Function.update_noteq hab.symm, Function.update_same, List.length_append, h.created,
      List.length_singleton]
  case listed => simp only [Function.update_same, List.length_append, h.listed, List.length_singleton]
  case creators =>
    intro k t hk
    by_cases hk' : k = boughtPair hc hi n
    · subst hk'
      simp only [Function.update_same, Option.some_inj] at hk
      rw [← hk]
    · simp only [Function.update_noteq hk'] at hk
      exact h.creators k t hk
  case fresh =>
    intro j hj hj'
    simp only [Function.update_noteq (boughtPair_ne hc hi (i := j) (j := n) (by omega) (by omega)
      (by omega))]
    exact h.fresh j (by omega) hj'

/-- Every call of the first `n ≤ 1000` rounds succeeds from empty storage. -/
theorem buy_run_reachable {a b : T.AccountId} (hab : a ≠ b) :
    ∀ n ≤ 1000, Reachable step (State.empty T) (execute step (State.empty T) (buyRun a b n)) ∧
      Bought hc hi a b n (execute step (State.empty T) (buyRun a b n))
  | 0, _ => ⟨.init, Bought.empty hc hi a b⟩
  | n + 1, hn => by
    obtain ⟨hr, h⟩ := buy_run_reachable hab n (by omega)
    obtain ⟨s₁, s₂, h₁, h₂, h'⟩ := h.round hc hi hab (by omega)
    have he : execute step (State.empty T) (buyRun a b (n + 1)) = s₂ := by
      rw [buyRun, execute_append]
      simp only [buyRound, execute, step, h₁, h₂, afterCall]
    rw [he]
    exact ⟨.step (.signed a, .tradeToken (twoByteCode n) [0] 1)
      (.step (.signed b, .createToken (twoByteCode n) [0] [] [] 1 1 0) hr h₁) h₂, h'⟩

include hc hi in
/-- When token codes may hold two bytes: in the run where `b` creates a thousand `Buy` tokens and
`a`, signing only trades, buys one unit of each, every call succeeds and `a`'s bucket fills. After
it no run changes `a`'s bucket or stores a token of `a`'s, and `a` cannot create a token. -/
theorem bought_tokens_lock_out_creation {a b : T.AccountId} (hab : a ≠ b) :
    (∀ x ∈ buyRun a b 1000, x.1 = .signed a → ∃ tc ic q, x.2 = .tradeToken tc ic q) ∧
    Reachable step (State.empty T) (execute step (State.empty T) (buyRun a b 1000)) ∧
    ((execute step (State.empty T) (buyRun a b 1000)).userTokens a).toList.length = 1000 ∧
    ∀ calls : List (Origin T.AccountId × Call),
      (execute step (State.empty T) (buyRun a b 1000 ++ calls)).userTokens a =
        (execute step (State.empty T) (buyRun a b 1000)).userTokens a ∧
      (∀ k t, (execute step (State.empty T) (buyRun a b 1000 ++ calls)).tokens k = some t →
        t.creator ≠ a) ∧
      ∀ tc ic n c p d st s', dispatch (.signed a) (.createToken tc ic n c p d st)
        (execute step (State.empty T) (buyRun a b 1000 ++ calls)) ≠ .ok () s' := by
  obtain ⟨hr, h⟩ := buy_run_reachable hc hi hab 1000 le_rfl
  have hs : Stuck a (execute step (State.empty T) (buyRun a b 1000)) :=
    ⟨by rw [h.held, List.length_map, List.length_range],
      fun k t hk => h.creators k t hk ▸ hab.symm⟩
  refine ⟨buyRun_signed_trades hab 1000, hr, hs.full, fun calls => ?_⟩
  rw [execute_append]
  obtain ⟨hs', hu⟩ := hs.run calls
  exact ⟨hu, hs'.notOwn, hs'.createToken_fails⟩

end Run

/-- Accounts are `Nat`, token codes hold two bytes, and the other codes one. -/
abbrev LockDemo : Config :=
  { AccountId := Nat, MaxTokenCodeLength := 2, MaxInstitutionCodeLength := 1, MaxNameLength := 1,
    MaxCategoryLength := 1 }

/-- After account 1 buys the thousand tokens account 0 creates, account 1 cannot create one. -/
theorem buyer_cannot_create_token :
    2 ≤ LockDemo.MaxTokenCodeLength ∧ 1 ≤ LockDemo.MaxInstitutionCodeLength ∧ (1 : Nat) ≠ 0 ∧
    ((execute step (State.empty LockDemo) (buyRun 1 0 1000)).userTokens 1).toList.length = 1000 ∧
    ∀ tc ic n c p d st s', dispatch (T := LockDemo) (.signed 1) (.createToken tc ic n c p d st)
      (execute step (State.empty LockDemo) (buyRun 1 0 1000)) ≠ .ok () s' :=
  have h := bought_tokens_lock_out_creation (T := LockDemo) le_rfl le_rfl (a := 1) (b := 0)
    Nat.one_ne_zero
  ⟨le_rfl, le_rfl, by decide, h.2.2.1, by simpa only [List.append_nil] using (h.2.2.2 []).2.2⟩

end FissionMall.C2CToken
