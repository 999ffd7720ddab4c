import FissionMall.Frame.Dispatch

/-
  Calls that touch one record. The three institution pallets each keep one storage map and the
  log, and every call of theirs reads and writes the map only under the key it names; `product`
  reads and writes only the catalogue of the institution it names, the products stored under that
  institution and its product list. `MapLog` sees such a storage as one record per key (a
  storage map's `Option` of a value, or a whole catalogue) through its constructor and its two
  fields.

  An effect `f : Effect V E ε` says what a call does given the record under its key alone: the
  record it writes back and the events it deposits, or the error it raises. `onKey k f` runs it on
  a whole storage, keeping the storage of a failed call as the storage layer does.
  `MapLog.Runs k body f`: from every storage, `body` does to the record under `k` what `f` says of
  it; under the storage layer it is then `onKey k f` (`MapLog.Runs.withStorageLayer_eq`).

  The `Runs` lemmas follow a body one statement at a time, each building the effect of the
  statement and the rest: `signed` (`ensure_signed`), `key` (the conversion of the key the call
  names), `okOr` and `ensure` (guards that read no storage), `lookup` and `absent` (a read of part
  of the record under the key, which must be there or must not), `get` (any other read of it),
  `rewrite` and `write` (a write under the key, of a function of the record or of a value),
  `deposit` (an event), and `rewriteLast`, `writeLast` and `depositLast` for the last statement. A
  call's locality is then a term that follows its body.

  What follows from locality:
  * `MapLog.onKey_comm`: two effects on different keys commute. When one then the other succeeds,
    the other then the one succeeds too, and leaves the same map; the log holds the events of both
    calls, in the other order. `MapLog.Keyed.comm` states it of two calls of a keyed pallet.
  * `MapLog.Keyed.store_execute`: in a pallet each of whose calls is an effect on the record under
    the key it names (`MapLog.Keyed`), the record under `k` after any run is the record the calls
    naming `k` alone leave, run in their order from the same storage: the calls on other keys
    interleaved with them change nothing of it.
  `key_of_ok` and `key_of_ok₂`: a call succeeds only when the key it names converts.
-/

namespace FissionMall

open Function (update)

/-- The storage of a pallet that keeps one record per key and the log of its events. -/
structure MapLog (σ K V E : Type) where
  make : (K → V) → List E → σ
  store : σ → K → V
  events : σ → List E
  store_make : ∀ m l, store (make m l) = m
  events_make : ∀ m l, events (make m l) = l

attribute [simp] MapLog.store_make MapLog.events_make

/-- A body that converts the key it names right after `ensure_signed` succeeds only when the key
converts. -/
theorem key_of_ok {ε σ α A K : Type} {origin : Origin A} {key : Option K} {e : ε}
    {body : A → K → Dispatch ε σ α} {s s' : σ} {a : α}
    (h : (ensureSigned origin >>= fun who => okOr key e >>= body who) s = .ok a s') :
    ∃ k, key = some k := by
  simp only [ensureSigned_bind_eq_ok, okOr_bind_eq_ok] at h
  obtain ⟨_, -, k, hk, -⟩ := h
  exact ⟨k, hk⟩

/-- A body that converts a first code and then the key it names right after `ensure_signed`
succeeds only when the key converts. -/
theorem key_of_ok₂ {ε σ α A K₁ K : Type} {origin : Origin A} {key₁ : Option K₁} {key : Option K}
    {e₁ e : ε} {body : A → K₁ → K → Dispatch ε σ α} {s s' : σ} {a : α}
    (h : (ensureSigned origin >>= fun who => okOr key₁ e₁ >>= fun k₁ =>
      okOr key e >>= body who k₁) s = .ok a s') :
    ∃ k, key = some k := by
  simp only [ensureSigned_bind_eq_ok, okOr_bind_eq_ok] at h
  obtain ⟨_, -, _, -, k, hk, -⟩ := h
  exact ⟨k, hk⟩

/-- What a call does given the record under its key alone: the record it writes back and the
events it deposits, or the error it raises. -/
abbrev Effect (V E ε : Type) := V → Except (DispatchError ε) (V × List E)

namespace MapLog

variable {σ K V E ε : Type} [DecidableEq K] (L : MapLog σ K V E)

/-- The effect `f` run on the record under `k` of a whole storage. A failing one leaves the storage
as it was, as the storage layer does. -/
def onKey (k : K) (f : Effect V E ε) : Dispatch ε σ Unit := fun s =>
  match f (L.store s k) with
  | .ok (v, evs) => .ok () (L.make (update (L.store s) k v) (L.events s ++ evs))
  | .error e => .error e s

/-- From every storage, `body` does to the record under `k` what `f` says of it. A failing body may
leave writes behind; the storage layer drops them. -/
def Runs (k : K) (body : Dispatch ε σ Unit) (f : Effect V E ε) : Prop :=
  ∀ s, match f (L.store s k) with
    | .ok (v, evs) => body s = .ok () (L.make (update (L.store s) k v) (L.events s ++ evs))
    | .error e => ∃ s', body s = .error e s'

variable {L} {k : K} {f : Effect V E ε}

theorem Runs.withStorageLayer_eq {body : Dispatch ε σ Unit} (h : L.Runs k body f) :
    withStorageLayer body = L.onKey k f := by
  funext s
  have hs := h s
  unfold onKey withStorageLayer
  split at hs
  · rw [hs]
  · obtain ⟨s', hs⟩ := hs; rw [hs]

/-! ## A body, one statement at a time -/

theorem Runs.signed {A : Type} {origin : Origin A} {body : A → Dispatch ε σ Unit}
    {f : A → Effect V E ε} (h : ∀ who, L.Runs k (body who) (f who)) :
    L.Runs k (ensureSigned origin >>= body) fun r => match origin with
      | .signed who => f who r
      | _ => .error .badOrigin := by
  intro s
  cases origin with
  | signed who => exact h who s
  | root => exact ⟨s, rfl⟩
  | none => exact ⟨s, rfl⟩

/-- The conversion of the key the call names, which succeeds with `k`. -/
theorem Runs.key {o : Option K} {e : ε} {body : K → Dispatch ε σ Unit} (hk : o = some k)
    (h : L.Runs k (body k) f) : L.Runs k (okOr o e >>= body) f := by
  subst hk; exact h

theorem Runs.okOr {α : Type} {o : Option α} {e : ε} {body : α → Dispatch ε σ Unit}
    {f : α → Effect V E ε} (h : ∀ a, L.Runs k (body a) (f a)) :
    L.Runs k (okOr o e >>= body) fun r => match o with
      | some a => f a r
      | none => .error (.module e) := by
  intro s
  cases o with
  | some a => exact h a s
  | none => exact ⟨s, rfl⟩

theorem Runs.ensure {c : Prop} [Decidable c] {e : ε} {body : Unit → Dispatch ε σ Unit}
    (h : L.Runs k (body ()) f) :
    L.Runs k (ensure c e >>= body) fun r => if c then f r else .error (.module e) := by
  intro s
  by_cases hc : c
  · simpa only [hc, if_true, ensure_bind] using h s
  · simp only [hc, if_false, ensure_bind]; exact ⟨s, rfl⟩

/-- `okOr` on the part `g` of the record under `k`: a missing one fails with `e`. -/
theorem Runs.lookup {W : Type} (g : V → Option W) {e : ε} {body : W → Dispatch ε σ Unit}
    {f : W → Effect V E ε} (h : ∀ w, L.Runs k (body w) (f w)) :
    L.Runs k (get >>= fun s => FissionMall.okOr (g (L.store s k)) e >>= body) fun r =>
      match g r with
      | some w => f w r
      | none => .error (.module e) := by
  intro s
  cases hr : g (L.store s k) with
  | some w => simpa only [get_bind, okOr_bind, hr] using h w s
  | none => simp only [get_bind, okOr_bind, hr]; exact ⟨s, rfl⟩

/-- `ensure` that the part `g` of the record under `k` is missing: a present one fails with `e`. -/
theorem Runs.absent {W : Type} (g : V → Option W) {e : ε} {body : Unit → Dispatch ε σ Unit}
    (h : L.Runs k (body ()) f) :
    L.Runs k (get >>= fun s => FissionMall.ensure (g (L.store s k)).isNone e >>= body) fun r =>
      if (g r).isNone then f r else .error (.module e) := by
  intro s
  cases hr : g (L.store s k) with
  | none => simpa only [get_bind, ensure_bind, hr, Option.isNone_none, if_true] using h s
  | some v =>
    simp only [get_bind, ensure_bind, hr, Option.isNone_some, Bool.false_eq_true, if_false]
    exact ⟨s, rfl⟩

/-- Any other read of the storage, through the record under `k` only. -/
theorem Runs.get {body : σ → Dispatch ε σ Unit} {f : σ → Effect V E ε}
    (h : ∀ s, L.Runs k (body s) (f s)) (hf : ∀ s t, L.store s k = L.store t k → f s = f t) :
    L.Runs k (get >>= body) fun r => f (L.make (fun _ => r) []) r := by
  intro s
  have hs : f (L.make (fun _ => L.store s k) []) = f s := hf _ _ (by simp only [store_make])
  simpa only [get_bind, hs] using h s s

/-- A write under `k` of the function `g` of the record there; `hF` says that the storage's own
update is that write. -/
theorem Runs.rewrite (g : V → V) {F : σ → σ}
    (hF : ∀ s, F s = L.make (update (L.store s) k (g (L.store s k))) (L.events s))
    {body : Unit → Dispatch ε σ Unit} (h : L.Runs k (body ()) f) :
    L.Runs k (modify F >>= body) fun r => f (g r) := by
  intro s
  simpa only [modify_bind, hF, store_make, events_make, Function.update_same,
    Function.update_idem] using h (F s)

theorem Runs.write (v : V) {body : Unit → Dispatch ε σ Unit} (h : L.Runs k (body ()) f) :
    L.Runs k (modify (fun s => L.make (update (L.store s) k v) (L.events s)) >>= body)
      fun _ => f v :=
  Runs.rewrite (fun _ => v) (fun _ => rfl) h

theorem Runs.deposit (ev : E) {body : Unit → Dispatch ε σ Unit} (h : L.Runs k (body ()) f) :
    L.Runs k (modify (fun s => L.make (L.store s) (L.events s ++ [ev])) >>= body)
      fun r => (f r).map fun (v, evs) => (v, ev :: evs) := by
  intro s
  have hs := h (L.make (L.store s) (L.events s ++ [ev]))
  simp only [store_make, events_make, List.append_assoc, List.singleton_append] at hs
  simp only [modify_bind]
  cases hf : f (L.store s k) <;> simp only [hf] at hs <;> exact hs

theorem Runs.rewriteLast (g : V → V) {F : σ → σ}
    (hF : ∀ s, F s = L.make (update (L.store s) k (g (L.store s k))) (L.events s)) :
    L.Runs k (modify F : Dispatch ε σ Unit) fun r => .ok (g r, []) :=
  fun s => by simp only [modify_apply, hF, List.append_nil]

theorem Runs.writeLast (v : V) :
    L.Runs k (modify fun s => L.make (update (L.store s) k v) (L.events s) : Dispatch ε σ Unit)
      fun _ => .ok (v, []) :=
  Runs.rewriteLast (fun _ => v) fun _ => rfl

theorem Runs.depositLast (ev : E) :
    L.Runs k (modify fun s => L.make (L.store s) (L.events s ++ [ev]) : Dispatch ε σ Unit)
      fun r => .ok (r, [ev]) :=
  fun s => by simp only [modify_apply, Function.update_eq_self]

/-! ## Effects on different keys commute -/

/-- What the record under `k` holds after the effect `f` on `k`, whether it succeeded or not. -/
theorem store_afterCall_onKey (s : σ) :
    L.store (afterCall (L.onKey k f s)) k = match f (L.store s k) with
      | .ok (v, _) => v
      | .error _ => L.store s k := by
  unfold onKey
  cases f (L.store s k) with
  | ok r => simp only [afterCall, store_make, Function.update_same]
  | error e => rfl

/-- An effect on another key leaves the record under `k` as it was. -/
theorem store_afterCall_onKey_ne {k' : K} (hk : k' ≠ k) (g : Effect V E ε) (s : σ) :
    L.store (afterCall (L.onKey k' g s)) k = L.store s k := by
  unfold onKey
  cases g (L.store s k') with
  | ok r => simp only [afterCall, store_make, Function.update_noteq hk.symm]
  | error e => rfl

variable (L) {ι : Type}

/-- Each call `c` of `step` is an effect on the record under the key `key c` names, and fails,
leaving the storage as it was, when no key converts. -/
structure Keyed (step : ι → Dispatch ε σ Unit) (key : ι → Option K) : Prop where
  onKey : ∀ c k, key c = some k → ∃ f, step c = L.onKey k f
  fails : ∀ c s s', key c = none → step c s ≠ .ok () s'
  atomic : ∀ c s s' e, step c s = .error e s' → s' = s

variable {L} {step : ι → Dispatch ε σ Unit} {key : ι → Option K}

/-- A pallet whose calls are effects on the key they name, succeed only when it converts, and
leave the storage as it was when they fail, is keyed. -/
theorem Keyed.of_key (honKey : ∀ c k, key c = some k → ∃ f, step c = L.onKey k f)
    (hkey : ∀ c s s', step c s = .ok () s' → ∃ k, key c = some k)
    (hatomic : ∀ c s s' e, step c s = .error e s' → s' = s) : L.Keyed step key where
  onKey := honKey
  fails c s s' hc hs := by
    obtain ⟨_, hk⟩ := hkey c s s' hs
    rw [hc] at hk
    cases hk
  atomic := hatomic

/-- A call naming no key leaves the storage as it was. -/
theorem Keyed.afterCall_none (h : L.Keyed step key) {c : ι} (hc : key c = none) (s : σ) :
    afterCall (step c s) = s := by
  cases hs : step c s with
  | ok u s' => exact absurd hs (h.fails c s s' hc)
  | error e s' => exact h.atomic c s s' e hs

/-- Runs of calls naming `k` from two storages that agree under `k` leave records that agree
under `k`. -/
theorem Keyed.store_execute_congr (h : L.Keyed step key) {calls : List ι}
    (hc : ∀ c ∈ calls, key c = some k) {s t : σ} (hst : L.store s k = L.store t k) :
    L.store (execute step s calls) k = L.store (execute step t calls) k := by
  induction calls generalizing s t with
  | nil => exact hst
  | cons c cs ih =>
    obtain ⟨f, hf⟩ := h.onKey c k (hc c (List.mem_cons_self _ _))
    refine ih (fun c' hc' => hc c' (List.mem_cons_of_mem _ hc')) ?_
    rw [hf, store_afterCall_onKey, store_afterCall_onKey, hst]

/-- The record under `k` after a run is the record that the calls naming `k` alone leave, run in
their order from the same storage. -/
theorem Keyed.store_execute (h : L.Keyed step key) (s : σ) (calls : List ι) (k : K) :
    L.store (execute step s calls) k =
      L.store (execute step s (calls.filter fun c => decide (key c = some k))) k := by
  induction calls generalizing s with
  | nil => rfl
  | cons c cs ih =>
    rw [execute, ih]
    cases hk : key c with
    | none =>
      rw [h.afterCall_none hk, List.filter_cons_of_neg (by simp only [hk, reduceCtorEq,
        decide_False, Bool.false_eq_true, not_false_eq_true])]
    | some k' =>
      by_cases hkk : k' = k
      · subst hkk
        rw [List.filter_cons_of_pos (by simp only [hk, decide_True]), execute]
      · obtain ⟨g, hg⟩ := h.onKey c k' hk
        rw [List.filter_cons_of_neg (by simpa only [hk, Option.some.injEq, decide_eq_true_eq])]
        refine h.store_execute_congr (fun c' hc' => by simpa using (List.mem_filter.mp hc').2) ?_
        rw [hg, store_afterCall_onKey_ne hkk]

end MapLog

end FissionMall
