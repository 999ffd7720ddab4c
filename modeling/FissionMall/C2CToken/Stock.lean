import Mathlib.Algebra.Order.Ring.Nat
import Mathlib.Algebra.BigOperators.Group.List
import FissionMall.C2CToken.Invariant
import FissionMall.Frame.History

/-
  Stock and sales of a token along a run. `create_token` sets `stock_quantity` and no
  `sales_quantity`; `trade_token` on a `Sell` token checks `stock_quantity >= quantity` and moves
  the quantity from stock to sales, with `saturating_sub` and `saturating_add`, and on a `Buy`
  token adds the quantity to the stock with `saturating_add`; `update_stock` overwrites the stock;
  no other call changes either field, though `update_token_info` may turn the direction
  (`StockStep`, `dispatch_stockStep`).

  `stockLedger k hs` reads the successful calls `hs` of a run for token `k`: the stock its most
  recent creation set, and the quantities traded since while the token was `Buy` and while it was
  `Sell`, unless `update_stock` has succeeded on it since. No trade invents units: stock plus
  sales stays at most the initial stock plus the units bought, and the sales at most the units
  sold. Units are lost only to saturation: while the initial stock plus the units bought fit in
  a `u32`, both laws hold with equality (`trades_conserve_stock_below_max`). A `Buy` trade at a
  stock of `u32::MAX` keeps the stock there and the unit is gone
  (`buy_at_max_stock_loses_units`).
-/

namespace FissionMall.C2CToken

open Function (update)

variable {T : Config}

/-! ## What the calls of a run say of one token -/

/-- The token codes a call passes. -/
def Call.codes : Call → Bytes × Bytes
  | .createToken tc ic .. | .updateTokenInfo tc ic .. | .updateTokenStatus tc ic _
  | .updateTokenPrice tc ic _ | .updateStock tc ic _ | .deleteToken tc ic | .tradeToken tc ic _ =>
    (tc, ic)

/-- The stock a `create_token` of `k` sets. -/
def Call.createdStock (k : TokenCode T × InstitutionCode T) : Call → Option (BitVec 32)
  | .createToken tc ic _ _ _ _ stockQuantity =>
    if keyOf tc ic = some k then some stockQuantity else none
  | _ => none

/-- Whether a call is an `update_stock` of `k`. -/
def Call.restocks (k : TokenCode T × InstitutionCode T) : Call → Bool
  | .updateStock tc ic _ => keyOf tc ic = some k
  | _ => false

/-- The quantity a `trade_token` of `k` trades, and 0 for every other call. -/
def Call.traded (k : TokenCode T × InstitutionCode T) : Call → Nat
  | .tradeToken tc ic quantity => if keyOf tc ic = some k then quantity.toNat else 0
  | _ => 0

/-- A call that names another token creates nothing under `k` and trades nothing of it. -/
theorem Call.of_ne {c : Call} {k : TokenCode T × InstitutionCode T}
    (h : keyOf c.codes.1 c.codes.2 ≠ some k) : c.createdStock k = none ∧ c.traded k = 0 := by
  cases c <;> simp_all [Call.codes, Call.createdStock, Call.traded]

/-- One successful extrinsic with the storage it ran on, as `history` keeps them. -/
abbrev Entry (T : Config) := (Origin T.AccountId × Call) × State T

/-- The quantity entry `x` trades of token `k` while the token's direction is `d`. -/
def tradedIn (k : TokenCode T × InstitutionCode T) (d : TokenTradableDirection) (x : Entry T) :
    Nat :=
  if (x.2.tokens k).map (·.tokenTradeDirection) = some d then x.1.2.traded k else 0

/-- What the successful calls of a run say of one token since its most recent creation. -/
structure StockLedger where
  initialStock : Nat
  bought : Nat
  sold : Nat
deriving DecidableEq, Repr

/-- For token `k` and the successful calls `hs` of a run: the stock the most recent
`create_token` of `k` set, and the quantities of the `trade_token`s of `k` since, made while it
was `Buy` and while it was `Sell`; `none` when `k` was never created, or an `update_stock` of `k`
has succeeded since. -/
def stockLedger (k : TokenCode T × InstitutionCode T) (hs : List (Entry T)) :
    Option StockLedger :=
  match sinceLast (fun x => (x.1.2.createdStock k).isSome) hs with
  | none => none
  | some (created, since) =>
    if since.any fun x => x.1.2.restocks k then none
    else (created.1.2.createdStock k).map fun s0 =>
      ⟨s0.toNat, (since.map (tradedIn k .buy)).sum, (since.map (tradedIn k .sell)).sum⟩

/-- The ledger of `k` after one more successful entry `x`. -/
def StockLedger.step (k : TokenCode T × InstitutionCode T) (x : Entry T)
    (l : Option StockLedger) : Option StockLedger :=
  match x.1.2.createdStock k with
  | some s0 => some ⟨s0.toNat, 0, 0⟩
  | none =>
    if x.1.2.restocks k then none
    else l.map fun l => ⟨l.initialStock, l.bought + tradedIn k .buy x, l.sold + tradedIn k .sell x⟩

theorem stockLedger_append (k : TokenCode T × InstitutionCode T) (hs : List (Entry T))
    (x : Entry T) : stockLedger k (hs ++ [x]) = StockLedger.step k x (stockLedger k hs) := by
  unfold stockLedger StockLedger.step
  rw [sinceLast_append]
  cases hc : x.1.2.createdStock k with
  | some s0 => simp [hc]
  | none =>
    cases sinceLast (fun x => (x.1.2.createdStock k).isSome) hs with
    | none => cases x.1.2.restocks k <;> simp [hc]
    | some r =>
      simp only [hc, Option.isSome_none, Bool.false_eq_true, if_false, Option.map_some',
        List.any_append, List.any_cons, List.any_nil, Bool.or_false, List.map_append,
        List.map_cons, List.map_nil, List.sum_append, List.sum_cons, List.sum_nil, Nat.add_zero]
      cases x.1.2.restocks k <;> cases r.2.any fun x => x.1.2.restocks k <;>
        simp [Function.comp_def]

/-! ## What one call does to the stock and sales of a token -/

/-- What one successful call `c` may do to the stock and sales of token `k`: create it with the
stock `c` names and no sales, let `update_stock` write it, remove it, or keep it with the quantity
`c` trades moved from stock to sales while it is `Sell`, or added to the stock while it is
`Buy`. -/
inductive StockStep (k : TokenCode T × InstitutionCode T) (c : Call) :
    Option (TokenInfo T) → Option (TokenInfo T) → Prop
  | create (o : Option (TokenInfo T)) (t' : TokenInfo T) :
      c.createdStock k = some t'.stockQuantity → t'.salesQuantity = 0 → StockStep k c o (some t')
  | restock (o o' : Option (TokenInfo T)) :
      c.createdStock k = none → c.restocks k = true → StockStep k c o o'
  | remove (o : Option (TokenInfo T)) : StockStep k c o none
  | sell (t t' : TokenInfo T) : c.createdStock k = none → t.tokenTradeDirection = .sell →
      c.traded k ≤ t.stockQuantity.toNat →
      t'.stockQuantity.toNat = t.stockQuantity.toNat - c.traded k →
      t'.salesQuantity.toNat = min (t.salesQuantity.toNat + c.traded k) (2 ^ 32 - 1) →
      StockStep k c (some t) (some t')
  | buy (t t' : TokenInfo T) : c.createdStock k = none → t.tokenTradeDirection = .buy →
      t'.stockQuantity.toNat = min (t.stockQuantity.toNat + c.traded k) (2 ^ 32 - 1) →
      t'.salesQuantity = t.salesQuantity → StockStep k c (some t) (some t')

section Steps

variable {k : TokenCode T × InstitutionCode T} {c : Call}

/-- A rewrite that keeps both quantities, by a call that trades nothing, whatever the
direction. -/
theorem StockStep.rewrite {t t' : TokenInfo T} (hc : c.createdStock k = none)
    (hq : c.traded k = 0) (hst : t'.stockQuantity = t.stockQuantity)
    (hsa : t'.salesQuantity = t.salesQuantity) : StockStep k c (some t) (some t') := by
  have := t.stockQuantity.isLt
  have := t.salesQuantity.isLt
  cases hd : t.tokenTradeDirection with
  | sell => exact .sell t t' hc hd (by omega) (by rw [hst, hq]; rfl) (by rw [hsa, hq]; omega)
  | buy => exact .buy t t' hc hd (by rw [hst, hq]; omega) hsa

/-- A call that creates nothing under `k` and trades nothing of it may leave the token as it is. -/
theorem StockStep.frame (hc : c.createdStock k = none) (hq : c.traded k = 0)
    (o : Option (TokenInfo T)) : StockStep k c o o := by
  cases o with
  | none => exact .remove none
  | some t => exact .rewrite hc hq rfl rfl

/-- A step on the token the call names is a step on every token. -/
theorem stockStep_update {m : TokenCode T × InstitutionCode T → Option (TokenInfo T)}
    {k₀ : TokenCode T × InstitutionCode T} {o : Option (TokenInfo T)}
    (hkey : keyOf c.codes.1 c.codes.2 = some k₀) (h : StockStep k₀ c (m k₀) o)
    (k : TokenCode T × InstitutionCode T) : StockStep k c (m k) (update m k₀ o k) := by
  by_cases hk : k = k₀
  · subst hk
    rwa [Function.update_same]
  · rw [Function.update_noteq hk]
    obtain ⟨hc, hq⟩ := Call.of_ne (k := k) (hkey ▸ fun h => hk (Option.some_inj.mp h).symm)
    exact .frame hc hq _

end Steps

/-- The push of `trade_token` onto the trader's `UserTokens` leaves the tokens alone. -/
theorem addUserToken_tokens {who : T.AccountId} {pair : TokenCode T × InstitutionCode T}
    {s s' : State T} (h : addUserToken who pair s = .ok () s') : s'.tokens = s.tokens := by
  rcases addUserToken_ok.mp h with ⟨-, rfl⟩ | ⟨-, _, -, rfl⟩ <;> rfl

/-- What every successful call does to the stock and sales of every token. -/
theorem dispatch_stockStep {origin : Origin T.AccountId} {c : Call} {s s' : State T}
    (hs : dispatch origin c s = .ok () s') (k : TokenCode T × InstitutionCode T) :
    StockStep k c (s.tokens k) (s'.tokens k) := by
  rw [dispatch_ok] at hs
  cases c with
  | createToken tc ic _ _ _ _ st =>
    obtain ⟨_, code, inst, _, _, _, _, _, -, hc, hi, -, -, -, -, -, -, -, rfl⟩ := createToken_ok hs
    refine stockStep_update (by exact keyOf_eq hc hi) (.create _ _ ?_ rfl) k
    simp only [Call.createdStock, keyOf_eq hc hi, if_true]
  | updateTokenInfo =>
    obtain ⟨_, _, _, _, _, _, _, -, hc, hi, ht, -, -, -, -, -, rfl⟩ := updateTokenInfo_ok hs
    exact stockStep_update (by exact keyOf_eq hc hi) (ht ▸ .rewrite rfl rfl rfl rfl) k
  | updateTokenStatus =>
    obtain ⟨_, _, _, _, _, -, hc, hi, ht, -, -, rfl⟩ := updateTokenStatus_ok hs
    exact stockStep_update (by exact keyOf_eq hc hi) (ht ▸ .rewrite rfl rfl rfl rfl) k
  | updateTokenPrice =>
    obtain ⟨_, _, _, _, -, -, hc, hi, ht, -, rfl⟩ := updateTokenPrice_ok hs
    exact stockStep_update (by exact keyOf_eq hc hi) (ht ▸ .rewrite rfl rfl rfl rfl) k
  | updateStock =>
    obtain ⟨_, _, _, _, -, hc, hi, -, -, rfl⟩ := updateStock_ok hs
    exact stockStep_update (by exact keyOf_eq hc hi)
      (by exact .restock _ _ rfl (by simp only [Call.restocks, keyOf_eq hc hi, decide_True])) k
  | deleteToken =>
    obtain ⟨_, _, _, _, -, hc, hi, -, -, rfl⟩ := deleteToken_ok hs
    exact stockStep_update (by exact keyOf_eq hc hi) (.remove _) k
  | tradeToken tc ic q =>
    obtain ⟨_, code, inst, t, -, hc, hi, ht, -, h⟩ := tradeToken_ok hs
    have hq : Call.traded (code, inst) (.tradeToken tc ic q) = q.toNat := by
      simp only [Call.traded, keyOf_eq hc hi, if_true]
    rcases h with ⟨hd, hle, rfl⟩ | ⟨hd, h⟩
    · refine stockStep_update (by exact keyOf_eq hc hi) (ht ▸ .sell t _ rfl hd ?_ ?_ ?_) k
      · rw [hq]; exact hle
      · rw [hq, toNat_saturatingSub]
      · rw [hq, toNat_saturatingAdd]
    · rw [addUserToken_tokens h]
      refine stockStep_update (by exact keyOf_eq hc hi) (ht ▸ .buy t _ rfl hd ?_ rfl) k
      rw [hq, toNat_saturatingAdd]

/-! ## Stock and sales along a run -/

/-- Token `t` against ledger `l`: stock plus sales at most the initial stock plus the units
bought, sales at most the units sold, and both equal while the initial stock plus the units
bought fit in a `u32`. -/
structure Conserves (l : StockLedger) (t : TokenInfo T) : Prop where
  total_le : t.stockQuantity.toNat + t.salesQuantity.toNat ≤ l.initialStock + l.bought
  sales_le : t.salesQuantity.toNat ≤ l.sold
  exact : l.initialStock + l.bought ≤ 2 ^ 32 - 1 →
    t.stockQuantity.toNat + t.salesQuantity.toNat = l.initialStock + l.bought ∧
      t.salesQuantity.toNat = l.sold

section Conserves

variable {l : StockLedger} {t t' : TokenInfo T} {q : Nat}

/-- A new token holds what a fresh ledger of its stock says. -/
theorem Conserves.create (h0 : t'.salesQuantity = 0) :
    Conserves ⟨t'.stockQuantity.toNat, 0, 0⟩ t' := by
  have h0' : t'.salesQuantity.toNat = 0 := by rw [h0]; rfl
  exact ⟨show _ ≤ t'.stockQuantity.toNat + 0 by omega, show _ ≤ 0 by omega,
    fun _ => ⟨show _ = t'.stockQuantity.toNat + 0 by omega, h0'⟩⟩

/-- A `Sell` trade of `q` moves it from stock to sales; the ledger counts it sold. -/
theorem Conserves.sell (h : Conserves l t) (hq : q ≤ t.stockQuantity.toNat)
    (hst : t'.stockQuantity.toNat = t.stockQuantity.toNat - q)
    (hsa : t'.salesQuantity.toNat = min (t.salesQuantity.toNat + q) (2 ^ 32 - 1)) :
    Conserves ⟨l.initialStock, l.bought, l.sold + q⟩ t' := by
  obtain ⟨hle, hsle, hex⟩ := h
  refine ⟨show _ ≤ l.initialStock + l.bought by omega, show _ ≤ l.sold + q by omega,
    fun (hfit : l.initialStock + l.bought ≤ 2 ^ 32 - 1) => ?_⟩
  obtain ⟨htot, hsales⟩ := hex hfit
  exact ⟨show _ = l.initialStock + l.bought by omega, show _ = l.sold + q by omega⟩

/-- A `Buy` trade of `q` adds it to the stock; the ledger counts it bought. -/
theorem Conserves.buy (h : Conserves l t)
    (hst : t'.stockQuantity.toNat = min (t.stockQuantity.toNat + q) (2 ^ 32 - 1))
    (hsa : t'.salesQuantity = t.salesQuantity) :
    Conserves ⟨l.initialStock, l.bought + q, l.sold⟩ t' := by
  obtain ⟨hle, hsle, hex⟩ := h
  have hsa' := congrArg BitVec.toNat hsa
  refine ⟨show _ ≤ l.initialStock + (l.bought + q) by omega, show _ ≤ l.sold by omega,
    fun (hfit : l.initialStock + (l.bought + q) ≤ 2 ^ 32 - 1) => ?_⟩
  obtain ⟨htot, hsales⟩ := hex (by omega)
  exact ⟨show _ = l.initialStock + (l.bought + q) by omega, show _ = l.sold by omega⟩

end Conserves

/-- A ledger step on an entry that creates nothing: unless it restocks, the counts grow by what
it trades in each direction. -/
theorem StockLedger.step_of_none {k : TokenCode T × InstitutionCode T} {x : Entry T}
    {L : Option StockLedger} {l' : StockLedger} (hc : x.1.2.createdStock k = none)
    (h : StockLedger.step k x L = some l') :
    ∃ l, L = some l ∧ l' = ⟨l.initialStock, l.bought + tradedIn k .buy x, l.sold + tradedIn k .sell x⟩ := by
  cases hr : x.1.2.restocks k <;> simp only [StockLedger.step, hc, hr, if_true] at h
  · obtain ⟨l, hl, rfl⟩ := Option.map_eq_some'.mp h
    exact ⟨l, hl, rfl⟩
  · cases h

/-- One successful entry keeps every token holding what its ledger says. -/
theorem StockStep.conserves {k : TokenCode T × InstitutionCode T} {x : Entry T}
    {o o' : Option (TokenInfo T)} {L : Option StockLedger} (h : StockStep k x.1.2 o o')
    (ho : x.2.tokens k = o) (hinv : ∀ t l, o = some t → L = some l → Conserves l t) :
    ∀ t' l', o' = some t' → StockLedger.step k x L = some l' → Conserves l' t' := by
  intro t' l' ht' hl'
  cases h with
  | create o t' hc h0 =>
    cases ht'
    simp only [StockLedger.step, hc, Option.some.injEq] at hl'
    exact hl' ▸ .create h0
  | restock o o' hc hr => simp [StockLedger.step, hc, hr] at hl'
  | remove => cases ht'
  | sell t t' hc hd hq hst hsa =>
    cases ht'
    obtain ⟨l, hl, rfl⟩ := StockLedger.step_of_none hc hl'
    have hb : tradedIn k .buy x = 0 := by simp [tradedIn, ho, hd]
    have hs : tradedIn k .sell x = x.1.2.traded k := by simp [tradedIn, ho, hd]
    rw [hb, hs, Nat.add_zero]
    exact (hinv t l rfl hl).sell hq hst hsa
  | buy t t' hc hd hst hsa =>
    cases ht'
    obtain ⟨l, hl, rfl⟩ := StockLedger.step_of_none hc hl'
    have hb : tradedIn k .buy x = x.1.2.traded k := by simp [tradedIn, ho, hd]
    have hs : tradedIn k .sell x = 0 := by simp [tradedIn, ho, hd]
    rw [hb, hs, Nat.add_zero]
    exact (hinv t l rfl hl).buy hst hsa

/-- Every token `k` holds what its ledger says. -/
def StockInv (k : TokenCode T × InstitutionCode T) (s : State T) (hs : List (Entry T)) : Prop :=
  ∀ t l, s.tokens k = some t → stockLedger k hs = some l → Conserves l t

theorem StockInv.step {k : TokenCode T × InstitutionCode T} {s s' : State T}
    {hs : List (Entry T)} {x : Origin T.AccountId × Call} (h : StockInv k s hs)
    (hstep : step x s = .ok () s') : StockInv k s' (hs ++ [(x, s)]) := fun t' l' ht' hl' => by
  rw [stockLedger_append] at hl'
  exact (dispatch_stockStep hstep k).conserves (x := (x, s)) rfl h t' l' ht' hl'

/-- In every state of every run from empty storage, every token holds at most its initial stock
plus the units bought, split into stock and sales, with the sales at most the units sold, and
exactly these while the initial stock plus the units bought fit in a `u32`: all since its most
recent creation, unless `update_stock` has succeeded on it since. -/
theorem trades_conserve_stock_below_max (calls : List (Origin T.AccountId × Call)) (n : Nat)
    (k : TokenCode T × InstitutionCode T) (t : TokenInfo T) (l : StockLedger)
    (ht : (execute step (State.empty T) (calls.take n)).tokens k = some t)
    (hl : stockLedger k (history step (State.empty T) (calls.take n)) = some l) :
    t.stockQuantity.toNat + t.salesQuantity.toNat ≤ l.initialStock + l.bought ∧
      t.salesQuantity.toNat ≤ l.sold ∧
      (l.initialStock + l.bought ≤ 2 ^ 32 - 1 →
        t.stockQuantity.toNat + t.salesQuantity.toNat = l.initialStock + l.bought ∧
          t.salesQuantity.toNat = l.sold) :=
  let h := execute_history_nil (P := StockInv k) (fun _ _ _ _ h => dispatch_error h)
    (fun _ _ _ _ h hs => h.step hs) (fun _ _ h => by cases h) (calls.take n) t l ht hl
  ⟨h.total_le, h.sales_le, h.exact⟩

/-- Account 0 creates token `([0], [0])` as `Buy` with 5 in stock; account 1 buys 3. -/
def tradeRun : List (Origin Nat × Call) :=
  [(.signed 0, .createToken [0] [0] [] [] 1 1 5), (.signed 1, .tradeToken [0] [0] 3)]

theorem trade_run_conserves_stock :
    ∃ t l, (execute step (State.empty Demo) (tradeRun.take 2)).tokens (code0, code0) = some t ∧
      stockLedger (code0, code0) (history step (State.empty Demo) (tradeRun.take 2)) = some l ∧
      t.stockQuantity.toNat + t.salesQuantity.toNat ≤ l.initialStock + l.bought ∧
      t.salesQuantity.toNat ≤ l.sold ∧
      (l.initialStock + l.bought ≤ 2 ^ 32 - 1 →
        t.stockQuantity.toNat + t.salesQuantity.toNat = l.initialStock + l.bought ∧
          t.salesQuantity.toNat = l.sold) :=
  let ⟨t, ht⟩ := Option.isSome_iff_exists.mp (by decide :
    ((execute step (State.empty Demo) (tradeRun.take 2)).tokens (code0, code0)).isSome)
  have hl : stockLedger (code0, code0) (history step (State.empty Demo) (tradeRun.take 2)) =
      some ⟨5, 3, 0⟩ := by decide
  ⟨t, _, ht, hl, trades_conserve_stock_below_max tradeRun 2 (code0, code0) t _ ht hl⟩

/-- Account 0 creates token `([0], [0])` as `Buy` with `u32::MAX` in stock; account 1 buys 1. -/
def fullStockRun : List (Origin Nat × Call) :=
  [(.signed 0, .createToken [0] [0] [] [] 1 1 4294967295), (.signed 1, .tradeToken [0] [0] 1)]

/-- After that run the token holds `u32::MAX` units where its ledger counts `u32::MAX + 1`. -/
theorem buy_at_max_stock_loses_units :
    ∃ t l, (execute step (State.empty Demo) fullStockRun).tokens (code0, code0) = some t ∧
      stockLedger (code0, code0) (history step (State.empty Demo) fullStockRun) = some l ∧
      t.stockQuantity.toNat + t.salesQuantity.toNat ≠ l.initialStock + l.bought := by
  obtain ⟨t, ht⟩ := Option.isSome_iff_exists.mp (by decide :
    ((execute step (State.empty Demo) fullStockRun).tokens (code0, code0)).isSome)
  have hsum : ((execute step (State.empty Demo) fullStockRun).tokens (code0, code0)).map
      (fun t => t.stockQuantity.toNat + t.salesQuantity.toNat) = some 4294967295 := by decide
  rw [ht, Option.map_some', Option.some_inj] at hsum
  exact ⟨t, ⟨4294967295, 1, 0⟩, ht, by decide, by rw [hsum]; decide⟩

end FissionMall.C2CToken
