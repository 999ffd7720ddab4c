import FissionMall.C2CToken.Invariant
import FissionMall.Frame.Listing

/-
  What the calls of `c2c-token` do to stored tokens, over every run.

  `dispatch_amends`: a successful call keeps the institution code and the creator of every
  token it keeps, and its sales never fall; while a token is `Unavailable` its sales do not move
  at all, since `trade_token` refuses an unavailable token and no other call writes the sales
  (`TokenInfo.Amends`). `create_token` records the institution of the key it stores the token
  under, so every stored token names its own institution (`InstitutionCodes.reachable`).

  The log: `TokenCreated(c, i, who)` creates `(c, i)` for `who` and `TokenDeleted(c, i)` deletes
  it; `TokenTraded` and the four update events change no token's existence. Replaying a log gives
  each stored pair with its creator (`creators_replay`); every successful call deposits an event
  naming the token it writes (`dispatch_audited`), and `InstitutionTokens` lists the codes
  of an institution's stored tokens in the order of their `TokenCreated` events
  (`ListedIn.reachable`). `UserTokens` follows no such order: `trade_token` adds pairs to it, and
  `delete_token` leaves them there.

  `capacity`: at most 10000 stored tokens of one institution (`InstitutionTokens`), and at most
  1000 created by one account (`UserTokens`, which holds every token of its creator).

  `deleteToken_enabled`: in every storage, the creator of a token can delete it; the pair then
  leaves `Tokens`, its institution's bucket and its creator's `UserTokens`.
-/

namespace FissionMall.C2CToken

open Function (update)

variable {T : Config}

/-! ## What a call may change of a token -/

/-- What a successful call may change of a token it keeps. -/
structure TokenInfo.Amends (t t' : TokenInfo T) : Prop where
  institutionCode_eq : t'.institutionCode = t.institutionCode
  creator_eq : t'.creator = t.creator
  sales_le : t.salesQuantity ≤ t'.salesQuantity
  sales_frozen : t.status = .unavailable → t'.salesQuantity = t.salesQuantity

theorem TokenInfo.Amends.refl (t : TokenInfo T) : t.Amends t :=
  ⟨rfl, rfl, BitVec.le_refl _, fun _ => rfl⟩

/-- `addUserToken` touches neither `Tokens` nor the log. -/
theorem addUserToken_frame {who : T.AccountId} {pair : TokenCode T × InstitutionCode T}
    {s s' : State T} (h : addUserToken who pair s = .ok () s') :
    s'.tokens = s.tokens ∧ s'.events = s.events := by
  rcases addUserToken_ok.mp h with ⟨-, rfl⟩ | ⟨-, _, -, rfl⟩ <;> exact ⟨rfl, rfl⟩

/-- What a successful `trade_token` writes to `Tokens` and to the log: one stored, available
token with new quantities and sales no lower, and one `TokenTraded` event. -/
theorem tradeToken_writes {origin : Origin T.AccountId} {tc ic : Bytes} {q : BitVec 32}
    {s s' : State T} (h : tradeToken origin tc ic q s = .ok () s') :
    ∃ who key t st sa, s.tokens key = some t ∧ t.status = .available ∧ t.salesQuantity ≤ sa ∧
      s'.tokens = update s.tokens key (some { t with stockQuantity := st, salesQuantity := sa }) ∧
      s'.events = s.events ++ [.tokenTraded key.1 key.2 who q] := by
  obtain ⟨who, code, inst, t, -, -, -, ht, hst, ⟨-, -, rfl⟩ | ⟨-, h⟩⟩ := tradeToken_ok h
  · exact ⟨who, _, t, _, _, ht, hst, le_saturatingAdd _ _, rfl, rfl⟩
  · obtain ⟨htok, hev⟩ := addUserToken_frame h
    exact ⟨who, _, t, _, _, ht, hst, BitVec.le_refl _, htok, hev⟩

/-- A successful call keeps the institution code and creator of every token it keeps; its sales
never fall, and stay as they were when it was unavailable. -/
theorem dispatch_amends {s s' : State T} {origin : Origin T.AccountId} {c : Call}
    (hs : dispatch origin c s = .ok () s') : KeptBy TokenInfo.Amends s.tokens s'.tokens := by
  rw [dispatch_ok] at hs
  cases c with
  | createToken =>
    obtain ⟨_, _, _, _, _, _, _, _, -, -, -, hk, -, -, -, -, -, -, rfl⟩ := createToken_ok hs
    exact KeptBy.create TokenInfo.Amends.refl hk _
  | updateTokenInfo =>
    obtain ⟨_, _, _, _, _, _, _, -, -, -, ht, -, -, -, -, -, rfl⟩ := updateTokenInfo_ok hs
    exact KeptBy.rewrite TokenInfo.Amends.refl ht ⟨rfl, rfl, BitVec.le_refl _, fun _ => rfl⟩
  | updateTokenStatus =>
    obtain ⟨_, _, _, _, _, -, -, -, ht, -, -, rfl⟩ := updateTokenStatus_ok hs
    exact KeptBy.rewrite TokenInfo.Amends.refl ht ⟨rfl, rfl, BitVec.le_refl _, fun _ => rfl⟩
  | updateTokenPrice =>
    obtain ⟨_, _, _, _, -, -, -, -, ht, -, rfl⟩ := updateTokenPrice_ok hs
    exact KeptBy.rewrite TokenInfo.Amends.refl ht ⟨rfl, rfl, BitVec.le_refl _, fun _ => rfl⟩
  | updateStock =>
    obtain ⟨_, _, _, _, -, -, -, ht, -, rfl⟩ := updateStock_ok hs
    exact KeptBy.rewrite TokenInfo.Amends.refl ht ⟨rfl, rfl, BitVec.le_refl _, fun _ => rfl⟩
  | deleteToken =>
    obtain ⟨_, _, _, _, -, -, -, -, -, rfl⟩ := deleteToken_ok hs
    exact KeptBy.erase TokenInfo.Amends.refl
  | tradeToken =>
    obtain ⟨_, _, _, _, _, ht, hst, hle, htok, -⟩ := tradeToken_writes hs
    rw [htok]
    exact KeptBy.rewrite TokenInfo.Amends.refl ht
      ⟨rfl, rfl, hle, fun hu => absurd (hst.symm.trans hu) (by decide)⟩

/-- Every stored token names the institution it is stored under. -/
def InstitutionCodes (s : State T) : Prop := StoredAt (fun k t => t.institutionCode = k.2) s.tokens

theorem InstitutionCodes.rewriteToken {s : State T} {k : TokenCode T × InstitutionCode T}
    {t t' : TokenInfo T} {evs : List (Event T)} (h : InstitutionCodes s) (ht : s.tokens k = some t)
    (hi : t'.institutionCode = t.institutionCode) : InstitutionCodes (s.rewriteToken k t' evs) :=
  h.update fun _ hv => by cases hv; exact hi.trans (h k t ht)

theorem InstitutionCodes.dispatch {s s' : State T} {origin : Origin T.AccountId} {c : Call}
    (h : InstitutionCodes s) (hs : dispatch origin c s = .ok () s') : InstitutionCodes s' := by
  rw [dispatch_ok] at hs
  cases c with
  | createToken =>
    obtain ⟨_, _, _, _, _, _, _, _, -, -, -, -, -, -, -, -, -, -, rfl⟩ := createToken_ok hs
    exact h.update fun _ hv => by cases hv; rfl
  | updateTokenInfo =>
    obtain ⟨_, _, _, _, _, _, _, -, -, -, ht, -, -, -, -, -, rfl⟩ := updateTokenInfo_ok hs
    exact h.rewriteToken ht rfl
  | updateTokenStatus =>
    obtain ⟨_, _, _, _, _, -, -, -, ht, -, -, rfl⟩ := updateTokenStatus_ok hs
    exact h.rewriteToken ht rfl
  | updateTokenPrice =>
    obtain ⟨_, _, _, _, -, -, -, -, ht, -, rfl⟩ := updateTokenPrice_ok hs
    exact h.rewriteToken ht rfl
  | updateStock =>
    obtain ⟨_, _, _, _, -, -, -, ht, -, rfl⟩ := updateStock_ok hs
    exact h.rewriteToken ht rfl
  | deleteToken =>
    obtain ⟨_, _, _, _, -, -, -, -, -, rfl⟩ := deleteToken_ok hs
    exact h.update fun _ hv => by cases hv
  | tradeToken =>
    obtain ⟨_, _, t, _, _, ht, -, -, htok, -⟩ := tradeToken_writes hs
    unfold InstitutionCodes
    rw [htok]
    exact h.update fun _ hv => by cases hv; exact h _ t ht

theorem InstitutionCodes.reachable {s : State T} (h : Reachable step (State.empty T) s) :
    InstitutionCodes s :=
  h.inv (fun _ _ h => by cases h) fun _ _ _ hc hs => hc.dispatch hs

/-! ## The log of creations and deletions -/

/-- What an event of `c2c-token` says of the token it names. -/
def Event.change : Event T → Change (TokenCode T × InstitutionCode T) T.AccountId
  | .tokenCreated c i who => .created (c, i) who
  | .tokenDeleted c i => .deleted (c, i)
  | _ => .other

/-- Every successful call appends the events that turn the creators of the stored tokens before
it into those after it. -/
theorem dispatch_log {s s' : State T} {origin : Origin T.AccountId} {c : Call}
    (hs : dispatch origin c s = .ok () s') :
    ∃ evs, s'.events = s.events ++ evs ∧
      applyChanges Event.change (creators TokenInfo.creator s.tokens) evs =
        creators TokenInfo.creator s'.tokens := by
  rw [dispatch_ok] at hs
  cases c with
  | createToken =>
    obtain ⟨_, _, _, _, _, _, _, _, -, -, -, -, -, -, -, -, -, -, rfl⟩ := createToken_ok hs
    exact ⟨_, rfl, by rw [creators_update]; rfl⟩
  | updateTokenInfo =>
    obtain ⟨_, _, _, _, _, _, _, -, -, -, ht, -, -, -, -, -, rfl⟩ := updateTokenInfo_ok hs
    exact ⟨_, rfl, (creators_rewrite _ ht (by rfl)).symm⟩
  | updateTokenStatus =>
    obtain ⟨_, _, _, _, _, -, -, -, ht, -, -, rfl⟩ := updateTokenStatus_ok hs
    exact ⟨_, rfl, (creators_rewrite _ ht (by rfl)).symm⟩
  | updateTokenPrice =>
    obtain ⟨_, _, _, _, -, -, -, -, ht, -, rfl⟩ := updateTokenPrice_ok hs
    exact ⟨_, rfl, (creators_rewrite _ ht (by rfl)).symm⟩
  | updateStock =>
    obtain ⟨_, _, _, _, -, -, -, ht, -, rfl⟩ := updateStock_ok hs
    exact ⟨_, rfl, (creators_rewrite _ ht (by rfl)).symm⟩
  | deleteToken =>
    obtain ⟨_, code, inst, _, -, -, -, -, -, rfl⟩ := deleteToken_ok hs
    exact ⟨_, rfl, (creators_update TokenInfo.creator s.tokens (code, inst) none).symm⟩
  | tradeToken =>
    obtain ⟨_, _, _, _, _, ht, -, -, htok, hev⟩ := tradeToken_writes hs
    exact ⟨_, hev, by rw [htok]; exact (creators_rewrite _ ht (by rfl)).symm⟩

/-- The log of every reachable storage replays to each stored pair with its token's creator. -/
theorem creators_replay {s : State T} (h : Reachable step (State.empty T) s) :
    replayChanges Event.change s.events = creators TokenInfo.creator s.tokens :=
  h.replay rfl fun _ _ _ hs => dispatch_log hs

/-- The token an event names. -/
def Event.key : Event T → TokenCode T × InstitutionCode T
  | .tokenCreated k i _ | .tokenUpdated k i | .tokenStatusUpdated k i _ | .tokenPriceUpdated k i _
  | .tokenStockUpdated k i _ | .tokenDeleted k i | .tokenTraded k i _ _ => (k, i)

/-- Every successful call writes one token and deposits an event naming it. -/
theorem dispatch_audited {s s' : State T} {origin : Origin T.AccountId} {c : Call}
    (hs : dispatch origin c s = .ok () s') : Audited State.tokens State.events Event.key s s' := by
  rw [dispatch_ok] at hs
  cases c with
  | createToken =>
    obtain ⟨_, _, _, _, _, _, _, _, -, -, -, -, -, -, -, -, -, -, rfl⟩ := createToken_ok hs
    exact audited_update rfl rfl ⟨_, List.mem_cons_self _ _, rfl⟩
  | updateTokenInfo =>
    obtain ⟨_, _, _, _, _, _, _, -, -, -, -, -, -, -, -, -, rfl⟩ := updateTokenInfo_ok hs
    exact audited_update rfl rfl ⟨_, List.mem_cons_self _ _, rfl⟩
  | updateTokenStatus =>
    obtain ⟨_, _, _, _, _, -, -, -, -, -, -, rfl⟩ := updateTokenStatus_ok hs
    exact audited_update rfl rfl ⟨_, List.mem_cons_self _ _, rfl⟩
  | updateTokenPrice =>
    obtain ⟨_, _, _, _, -, -, -, -, -, -, rfl⟩ := updateTokenPrice_ok hs
    exact audited_update rfl rfl ⟨_, List.mem_cons_self _ _, rfl⟩
  | updateStock =>
    obtain ⟨_, _, _, _, -, -, -, -, -, rfl⟩ := updateStock_ok hs
    exact audited_update rfl rfl ⟨_, List.mem_cons_self _ _, rfl⟩
  | deleteToken =>
    obtain ⟨_, _, _, _, -, -, -, -, -, rfl⟩ := deleteToken_ok hs
    exact audited_update rfl rfl ⟨_, List.mem_cons_self _ _, rfl⟩
  | tradeToken =>
    obtain ⟨_, _, _, _, _, -, -, -, htok, hev⟩ := tradeToken_writes hs
    exact audited_update htok hev ⟨_, List.mem_cons_self _ _, rfl⟩

/-! ## Buckets in creation order -/

/-- `InstitutionTokens` lists the codes of each institution's stored tokens in the order of
`live`. -/
structure ListedIn (live : List (TokenCode T × InstitutionCode T)) (s : State T) : Prop where
  byInstitution :
    ListedBy s.tokens (fun k _ => k.2) Prod.fst (BoundedVec.lists s.institutionTokens) live

theorem ListedIn.rewriteToken {live : List (TokenCode T × InstitutionCode T)} {s : State T}
    {k : TokenCode T × InstitutionCode T} {t t' : TokenInfo T} {evs : List (Event T)}
    (h : ListedIn live s) (ht : s.tokens k = some t) : ListedIn live (s.rewriteToken k t' evs) :=
  ⟨h.byInstitution.modify ht rfl⟩

/-- Every successful call appends the events that move the keys the buckets follow. -/
theorem ListedIn.dispatch {live : List (TokenCode T × InstitutionCode T)} {s s' : State T}
    {origin : Origin T.AccountId} {c : Call} (h : ListedIn live s)
    (hs : dispatch origin c s = .ok () s') :
    ∃ evs, s'.events = s.events ++ evs ∧ ListedIn (liveKeysFrom Event.change live evs) s' := by
  rw [dispatch_ok] at hs
  cases c with
  | createToken =>
    obtain ⟨_, _, _, _, _, _, _, _, -, -, -, hk, -, -, -, -, hbi, -, rfl⟩ := createToken_ok hs
    exact ⟨_, rfl, ⟨h.byInstitution.push hk hbi⟩⟩
  | updateTokenInfo =>
    obtain ⟨_, _, _, _, _, _, _, -, -, -, ht, -, -, -, -, -, rfl⟩ := updateTokenInfo_ok hs
    exact ⟨_, rfl, h.rewriteToken ht⟩
  | updateTokenStatus =>
    obtain ⟨_, _, _, _, _, -, -, -, ht, -, -, rfl⟩ := updateTokenStatus_ok hs
    exact ⟨_, rfl, h.rewriteToken ht⟩
  | updateTokenPrice =>
    obtain ⟨_, _, _, _, -, -, -, -, ht, -, rfl⟩ := updateTokenPrice_ok hs
    exact ⟨_, rfl, h.rewriteToken ht⟩
  | updateStock =>
    obtain ⟨_, _, _, _, -, -, -, ht, -, rfl⟩ := updateStock_ok hs
    exact ⟨_, rfl, h.rewriteToken ht⟩
  | deleteToken =>
    obtain ⟨_, _, _, _, -, -, -, ht, -, rfl⟩ := deleteToken_ok hs
    exact ⟨_, rfl, ⟨h.byInstitution.retain keyedBy_pair ht⟩⟩
  | tradeToken =>
    obtain ⟨_, _, _, _, ht, htok, hinst, -⟩ := tradeToken_effect hs
    obtain ⟨_, _, _, _, _, -, -, -, -, hev⟩ := tradeToken_writes hs
    exact ⟨_, hev, ⟨by rw [htok, hinst]; exact h.byInstitution.modify ht rfl⟩⟩

/-- In every reachable storage, each institution's bucket lists the codes of its stored tokens in
the order of their creation events, and the log's live pairs are the stored pairs, once each. -/
theorem ListedIn.reachable {s : State T} (h : Reachable step (State.empty T) s) :
    ListedIn (liveKeys Event.change s.events) s :=
  h.live (P := ListedIn) ⟨.empty⟩ fun _ _ _ _ hl hs => hl.dispatch hs

/-! ## Capacity -/

/-- The bounded buckets bound the tokens stored at once: 10000 of one institution, and 1000
created by one account. -/
theorem capacity {s : State T} (h : Inv s) (hheld : HeldByCreator s) :
    (∀ i (cs : List (TokenCode T)), cs.Nodup → (∀ c ∈ cs, (s.tokens (c, i)).isSome) →
      cs.length ≤ 10000) ∧
    (∀ a (ks : List (TokenCode T × InstitutionCode T)), ks.Nodup →
      (∀ k ∈ ks, ∃ t, s.tokens k = some t ∧ t.creator = a) → ks.length ≤ 1000) := by
  refine ⟨fun i cs hnd hcs => ?_, fun a ks hnd hks => ?_⟩
  · refine (h.byInstitution.length_le hnd fun c hc => ?_).trans (s.institutionTokens i).length_le
    obtain ⟨t, ht⟩ := Option.isSome_iff_exists.mp (hcs c hc)
    exact ⟨(c, i), t, ht, rfl, rfl⟩
  · refine (List.subperm_of_subset hnd fun k hk => ?_).length_le.trans (s.userTokens a).length_le
    obtain ⟨t, ht, rfl⟩ := hks k hk
    exact hheld k t ht

/-! ## Deletion is always open to the creator -/

/-- In every storage, the creator of a token can delete it: the pair then leaves `Tokens`, its
institution's bucket and its creator's `UserTokens`. -/
theorem deleteToken_enabled (s : State T) {k : TokenCode T × InstitutionCode T} {t : TokenInfo T}
    (ht : s.tokens k = some t) :
    ∃ s', dispatch (.signed t.creator) (.deleteToken k.1.toList k.2.toList) s = .ok () s' ∧
      s'.tokens k = none ∧ k.1 ∉ (s'.institutionTokens k.2).toList ∧
      k ∉ (s'.userTokens t.creator).toList := by
  exact ⟨_, dispatch_ok.mpr (by
    simp only [Call.body, deleteToken, depositEvent, bind_assoc, ensureSigned_bind, okOr_bind,
      BoundedVec.tryFrom_toList_self, get_bind, Prod.mk.eta, ht, ensure_bind, if_true,
      modify_bind, modify_apply]
    rfl), by simp [Function.update_same]⟩

end FissionMall.C2CToken
