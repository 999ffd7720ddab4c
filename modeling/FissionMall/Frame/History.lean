import FissionMall.Frame.Dispatch
import Mathlib.Data.List.Chain

/-
  Runs read back. `history step s calls` keeps the successful calls of a run, each with the
  storage it ran on; a failing call leaves the storage as it was and no trace in the history.
  `execute_history`: a property of a storage and the history that led to it, kept by every
  successful call appended at the end, holds at the end of every run. `execute_timed`: a
  property of a storage at a block number holds at the end of every run whose block numbers
  never decrease, when every successful call carries it to its own block.

  `keyOf pc ic` is the key of a double map that the two codes of a call name.
  `sinceLast p l` is the last entry of `l` that `p` accepts, with the entries after it: for a
  record, its most recent creation and the successful calls since. `sinceLast_append` reads it
  one entry at a time, as the runs grow.
-/

namespace FissionMall

section History

variable {ι ε σ : Type}

/-- The successful calls of a run from `s`, each with the storage it ran on. -/
def history (step : ι → Dispatch ε σ Unit) (s : σ) : List ι → List (ι × σ)
  | [] => []
  | c :: cs =>
    match step c s with
    | .ok _ s' => (c, s) :: history step s' cs
    | .error _ s' => history step s' cs

/-- A property of a storage and the successful calls before it, which every successful call keeps
when it is appended, holds at the end of every run when failing calls leave the storage as it
was. -/
theorem execute_history {step : ι → Dispatch ε σ Unit} {P : σ → List (ι × σ) → Prop}
    (hatomic : ∀ c s s' e, step c s = .error e s' → s' = s)
    (hok : ∀ c s s' hs, P s hs → step c s = .ok () s' → P s' (hs ++ [(c, s)]))
    {s : σ} {hs : List (ι × σ)} (h : P s hs) (calls : List ι) :
    P (execute step s calls) (hs ++ history step s calls) := by
  induction calls generalizing s hs with
  | nil => simpa only [execute, history, List.append_nil] using h
  | cons c cs ih =>
    simp only [execute, history, afterCall]
    cases hc : step c s with
    | ok u s' =>
      rw [List.append_cons]
      exact ih (hok c s s' hs h hc)
    | error e s' =>
      dsimp only
      rw [hatomic c s s' e hc]
      exact ih h

/-- `execute_history` from the start of a run, with no calls before it. -/
theorem execute_history_nil {step : ι → Dispatch ε σ Unit} {P : σ → List (ι × σ) → Prop}
    (hatomic : ∀ c s s' e, step c s = .error e s' → s' = s)
    (hok : ∀ c s s' hs, P s hs → step c s = .ok () s' → P s' (hs ++ [(c, s)]))
    {s : σ} (h : P s []) (calls : List ι) : P (execute step s calls) (history step s calls) := by
  simpa only [List.nil_append] using execute_history hatomic hok h calls

/-- A property of a storage at a block number, kept at every later block number and carried by
every successful call made at or after that block, holds at the end of every run whose block
numbers never decrease, at every block number from the last one on, when failing calls leave the
storage as it was. -/
theorem execute_timed {step : ι → Dispatch ε σ Unit} (time : ι → Nat) {P : Nat → σ → Prop}
    (hatomic : ∀ c s s' e, step c s = .error e s' → s' = s)
    (hlater : ∀ t t' s, t ≤ t' → P t s → P t' s)
    (hok : ∀ c s s' t, P t s → t ≤ time c → step c s = .ok () s' → P (time c) s')
    {t : Nat} {s : σ} (h : P t s) {calls : List ι} (hmono : (calls.map time).Chain (· ≤ ·) t)
    {t' : Nat} (ht : t ≤ t') (hcalls : ∀ c ∈ calls, time c ≤ t') :
    P t' (execute step s calls) := by
  induction calls generalizing t s with
  | nil => exact hlater t t' s ht h
  | cons c cs ih =>
    rw [List.map_cons, List.chain_cons] at hmono
    have hc : P (time c) (afterCall (step c s)) := by
      unfold afterCall
      split
      · next h' => exact hok c s _ t h hmono.1 h'
      · next h' => rw [hatomic _ _ _ _ h']; exact hlater _ _ _ hmono.1 h
    exact ih hc hmono.2 (hcalls c (List.mem_cons_self _ _)) fun c' hc' =>
      hcalls c' (List.mem_cons_of_mem _ hc')

end History

/-- The key that the codes `pc` and `ic` of a call name in a double map, when both convert. -/
def keyOf {m n : Nat} (pc ic : Bytes) : Option (BoundedVec (BitVec 8) m × BoundedVec (BitVec 8) n) :=
  (BoundedVec.tryFrom pc).bind fun code => (BoundedVec.tryFrom ic).map fun inst => (code, inst)

theorem keyOf_eq {m n : Nat} {pc ic : Bytes} {code : BoundedVec (BitVec 8) m}
    {inst : BoundedVec (BitVec 8) n} (hc : BoundedVec.tryFrom pc = some code)
    (hi : BoundedVec.tryFrom ic = some inst) : keyOf pc ic = some (code, inst) := by
  simp only [keyOf, hc, hi, Option.some_bind, Option.map_some']

section SinceLast

variable {α : Type} (p : α → Bool)

/-- The last entry of a list that `p` accepts, with the entries after it. -/
def sinceLast : List α → Option (α × List α)
  | [] => none
  | x :: xs =>
    match sinceLast xs with
    | some r => some r
    | none => if p x then some (x, xs) else none

theorem sinceLast_append (l : List α) (x : α) :
    sinceLast p (l ++ [x]) =
      if p x then some (x, []) else (sinceLast p l).map fun r => (r.1, r.2 ++ [x]) := by
  induction l with
  | nil =>
    simp only [List.nil_append, sinceLast]
    cases p x <;> rfl
  | cons y ys ih =>
    rw [List.cons_append, sinceLast, ih, sinceLast]
    cases p x
    · cases sinceLast p ys <;> cases p y <;> rfl
    · rfl

end SinceLast

end FissionMall
