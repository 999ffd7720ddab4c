import FissionMall.Frame.Types

/-
  Dispatchables. A pallet call's body is a `Dispatch ε σ Unit`: it runs against the pallet's
  storage `σ` and either returns `Ok` with the new storage, or `Err` together with the storage as
  the body left it, so the writes made before the failing step are still visible there. That is
  the body read on its own. `#[pallet::call]` wraps every dispatchable in
  `frame_support::storage::with_storage_layer`, which discards all of the body's writes (its
  deposited events among them) when it returns `Err`: `withStorageLayer`.

  The `*_bind` lemmas let `simp only` run a body one statement at a time, so that each call's
  spec lemma is a `split` over the guards the source checks; the `*_bind_eq_error` lemmas read a
  failing body back as the guard that failed. `KeyErrors` is what the errors about stored records
  (`NotFound`, `AlreadyExists`, `NotAuthorized`) and `BadOrigin` report about the storage a call
  failed on.

  `Reachable step init` is the set of storages reached from `init` by successful calls;
  `execute` runs a list of calls, failing ones included. `reachable_execute`: under a storage
  layer the two agree, so every law proved of reachable states holds after every run;
  `execute_inv` does the same for a run of some calls only, from any storage.
-/

namespace FissionMall

/-- The part of `frame_system::Config` the pallets read: the account type. -/
structure SystemConfig where
  AccountId : Type
  [decEq : DecidableEq AccountId]

attribute [instance] SystemConfig.decEq

/-- The origin of a call. `ensure_signed` accepts only a signed one. -/
inductive Origin (AccountId : Type)
  | signed (who : AccountId)
  | root
  | none

/-- `DispatchError`: `BadOrigin` from `ensure_signed`, or an error of the pallet. -/
inductive DispatchError (ε : Type)
  | badOrigin
  | module (e : ε)
deriving DecidableEq

/-- A dispatchable's body over the pallet storage `σ`, with the pallet's errors `ε`. -/
abbrev Dispatch (ε σ α : Type) := EStateM (DispatchError ε) σ α

section Body

variable {ε σ α β A : Type}

/-- `ensure!(c, e)`. -/
def ensure (c : Prop) [Decidable c] (e : ε) : Dispatch ε σ Unit :=
  if c then pure () else throw (.module e)

/-- `o.ok_or(e)?`, and `r.map_err(|_| e)?` on a conversion that fails with `none`. -/
def okOr (o : Option α) (e : ε) : Dispatch ε σ α :=
  match o with
  | some a => pure a
  | none => throw (.module e)

/-- `ensure_signed(origin)?`. -/
def ensureSigned : Origin A → Dispatch ε σ A
  | .signed who => pure who
  | _ => throw .badOrigin

@[simp] theorem get_bind (f : σ → Dispatch ε σ β) (s : σ) : (get >>= f) s = f s s := rfl

@[simp] theorem modify_bind (g : σ → σ) (f : PUnit → Dispatch ε σ β) (s : σ) :
    (modify g >>= f) s = f () (g s) := rfl

@[simp] theorem modify_apply (g : σ → σ) (s : σ) :
    (modify g : Dispatch ε σ PUnit) s = .ok () (g s) := rfl

@[simp] theorem pure_apply (a : α) (s : σ) : (pure a : Dispatch ε σ α) s = .ok a s := rfl

@[simp] theorem throw_apply (e : DispatchError ε) (s : σ) :
    (throw e : Dispatch ε σ α) s = .error e s := rfl

@[simp] theorem ensure_bind (c : Prop) [Decidable c] (e : ε) (f : Unit → Dispatch ε σ β) (s : σ) :
    (ensure c e >>= f) s = if c then f () s else .error (.module e) s := by
  unfold ensure; split <;> rfl

@[simp] theorem ensure_apply (c : Prop) [Decidable c] (e : ε) (s : σ) :
    (ensure c e : Dispatch ε σ Unit) s = if c then .ok () s else .error (.module e) s := by
  unfold ensure; split <;> rfl

@[simp] theorem okOr_bind (o : Option α) (e : ε) (f : α → Dispatch ε σ β) (s : σ) :
    (okOr o e >>= f) s = match o with
      | some a => f a s
      | none => .error (.module e) s := by
  cases o <;> rfl

@[simp] theorem ensureSigned_bind (o : Origin A) (f : A → Dispatch ε σ β) (s : σ) :
    (ensureSigned o >>= f) s = match o with
      | .signed who => f who s
      | _ => .error .badOrigin s := by
  cases o <;> rfl

/-! The same steps read backwards from a successful result: what each guard must have
satisfied. A successful body then unfolds, by `simp only`, into one existential over the values
it decoded, the guards it passed, and the storage it wrote. -/

theorem ensure_bind_eq_ok {c : Prop} [Decidable c] {e : ε} {f : Unit → Dispatch ε σ β}
    {s s' : σ} {b : β} : (ensure c e >>= f) s = .ok b s' ↔ c ∧ f () s = .ok b s' := by
  rw [ensure_bind]; split <;> simp_all

theorem okOr_bind_eq_ok {o : Option α} {e : ε} {f : α → Dispatch ε σ β} {s s' : σ} {b : β} :
    (okOr o e >>= f) s = .ok b s' ↔ ∃ a, o = some a ∧ f a s = .ok b s' := by
  cases o <;> simp [okOr_bind]

theorem ensureSigned_bind_eq_ok {o : Origin A} {f : A → Dispatch ε σ β} {s s' : σ} {b : β} :
    (ensureSigned o >>= f) s = .ok b s' ↔ ∃ who, o = .signed who ∧ f who s = .ok b s' := by
  cases o <;> simp [ensureSigned_bind]

/-! The same steps read backwards from a failing result: the guard that failed, or the guards
passed before the rest of the body failed. -/

theorem ensure_bind_eq_error {c : Prop} [Decidable c] {e : ε} {f : Unit → Dispatch ε σ β}
    {s s' : σ} {e' : DispatchError ε} :
    (ensure c e >>= f) s = .error e' s' ↔ (¬c ∧ e' = .module e ∧ s' = s) ∨ (c ∧ f () s = .error e' s') := by
  rw [ensure_bind]; split <;> simp_all [eq_comm]

theorem okOr_bind_eq_error {o : Option α} {e : ε} {f : α → Dispatch ε σ β} {s s' : σ}
    {e' : DispatchError ε} :
    (okOr o e >>= f) s = .error e' s' ↔
      (o = none ∧ e' = .module e ∧ s' = s) ∨ ∃ a, o = some a ∧ f a s = .error e' s' := by
  cases o <;> simp [okOr_bind, eq_comm]

theorem ensureSigned_bind_eq_error {o : Origin A} {f : A → Dispatch ε σ β} {s s' : σ}
    {e : DispatchError ε} :
    (ensureSigned o >>= f) s = .error e s' ↔
      ((∀ who, o ≠ .signed who) ∧ e = .badOrigin ∧ s' = s) ∨
        ∃ who, o = .signed who ∧ f who s = .error e s' := by
  cases o <;> simp [ensureSigned_bind, eq_comm]

theorem ensure_apply_eq_error {c : Prop} [Decidable c] {e : ε} {s s' : σ} {e' : DispatchError ε} :
    (ensure c e : Dispatch ε σ Unit) s = .error e' s' ↔ ¬c ∧ e' = .module e ∧ s' = s := by
  rw [ensure_apply]; split <;> simp_all [eq_comm]

theorem ok_ne_error {a : α} {s s' : σ} {e : DispatchError ε} :
    (EStateM.Result.ok a s : EStateM.Result (DispatchError ε) σ α) ≠ .error e s' :=
  fun h => by cases h

theorem result_ok_inj {a b : α} {s s' : σ} :
    (EStateM.Result.ok a s : EStateM.Result (DispatchError ε) σ α) = .ok b s' ↔ a = b ∧ s = s' :=
  ⟨fun h => by cases h; exact ⟨rfl, rfl⟩, fun ⟨ha, hs⟩ => ha ▸ hs ▸ rfl⟩

end Body

/-! ## What a failing call reports -/

section Reports

variable {ε K V A : Type}

/-- What the storage errors of a pallet report about the record stored under the key `key` a
failing call names, in the storage `store` it ran on: `BadOrigin` that the call was not signed,
`notFound` that no record is stored there or that the call reads the one stored there as absent
(`hidden`), `alreadyExists` that one is stored, and `notAuthorized` that one is stored and another
account created it. -/
structure KeyErrors (notFound alreadyExists notAuthorized : ε) (store : K → Option V)
    (creator : V → A) (hidden : V → Prop) (origin : Origin A) (key : Option K)
    (e : DispatchError ε) : Prop where
  badOrigin : e = .badOrigin → ∀ who, origin ≠ .signed who
  notFound : e = .module notFound →
    ∃ k, key = some k ∧ (store k = none ∨ ∃ v, store k = some v ∧ hidden v)
  alreadyExists : e = .module alreadyExists → ∃ k, key = some k ∧ store k ≠ none
  notAuthorized : e = .module notAuthorized →
    ∃ who k v, origin = .signed who ∧ key = some k ∧ store k = some v ∧ creator v ≠ who

end Reports

/-! ## The storage layer -/

section StorageLayer

variable {ε σ α : Type}

/-- `with_storage_layer(body)`, which `#[pallet::call]` puts around every dispatchable: on `Err`
the storage is as it was before the call. -/
def withStorageLayer (body : Dispatch ε σ α) : Dispatch ε σ α := fun s =>
  match body s with
  | .ok a s' => .ok a s'
  | .error e _ => .error e s

theorem withStorageLayer_ok {body : Dispatch ε σ α} {s s' : σ} {a : α} :
    withStorageLayer body s = .ok a s' ↔ body s = .ok a s' := by
  unfold withStorageLayer
  split <;> simp_all

theorem withStorageLayer_error {body : Dispatch ε σ α} {s s' : σ} {e : DispatchError ε}
    (h : withStorageLayer body s = .error e s') : s' = s := by
  unfold withStorageLayer at h
  split at h <;> cases h
  rfl

/-- A call that fails under the storage layer failed with the same error in its body. -/
theorem withStorageLayer_error_body {body : Dispatch ε σ α} {s s' : σ} {e : DispatchError ε}
    (h : withStorageLayer body s = .error e s') : ∃ s'', body s = .error e s'' := by
  unfold withStorageLayer at h
  split at h
  · cases h
  · next s'' h' => cases h; exact ⟨s'', h'⟩

end StorageLayer

/-! ## Runs -/

section Runs

variable {ι ε σ : Type}

/-- The storages reached from `init` by successful calls of `step`. -/
inductive Reachable (step : ι → Dispatch ε σ Unit) (init : σ) : σ → Prop
  | init : Reachable step init init
  | step {s s' : σ} (c : ι) : Reachable step init s → step c s = .ok () s' → Reachable step init s'

/-- An invariant that holds initially and is kept by every successful call holds in every
reachable storage. -/
theorem Reachable.inv {step : ι → Dispatch ε σ Unit} {init s : σ} (h : Reachable step init s)
    {P : σ → Prop} (h0 : P init) (hstep : ∀ c s s', P s → step c s = .ok () s' → P s') :
    P s := by
  induction h with
  | init => exact h0
  | step c _ hc ih => exact hstep c _ _ ih hc

/-- The storage a call leaves, whether it returned `Ok` or `Err`. -/
def afterCall (r : EStateM.Result (DispatchError ε) σ Unit) : σ :=
  match r with
  | .ok _ s' => s'
  | .error _ s' => s'

/-- Run `calls` one after another from `s`. -/
def execute (step : ι → Dispatch ε σ Unit) (s : σ) : List ι → σ
  | [] => s
  | c :: cs => execute step (afterCall (step c s)) cs

theorem execute_append (step : ι → Dispatch ε σ Unit) (s : σ) (cs cs' : List ι) :
    execute step s (cs ++ cs') = execute step (execute step s cs) cs' := by
  induction cs generalizing s with
  | nil => rfl
  | cons c cs ih => exact ih _

/-- A relation that every successful call makes between the storage before and after it, and
that holds between a storage and itself, holds between consecutive storages of every run when
failing calls leave the storage as it was. -/
theorem execute_take_succ {step : ι → Dispatch ε σ Unit} {R : σ → σ → Prop}
    (hrefl : ∀ s, R s s) (hatomic : ∀ c s s' e, step c s = .error e s' → s' = s)
    (hok : ∀ c s s', step c s = .ok () s' → R s s') (s : σ) (calls : List ι) (i : Nat) :
    R (execute step s (calls.take i)) (execute step s (calls.take (i + 1))) := by
  rw [List.take_succ, execute_append]
  cases calls[i]? with
  | none => exact hrefl _
  | some c =>
    show R _ (afterCall (step c _))
    unfold afterCall
    split
    · next h => exact hok _ _ _ h
    · next h => rw [hatomic _ _ _ _ h]; exact hrefl _

/-- When a failing call leaves the storage as it was, every run ends in a reachable storage. -/
theorem reachable_execute {step : ι → Dispatch ε σ Unit} {init s : σ}
    (hatomic : ∀ c s s' e, step c s = .error e s' → s' = s) (hs : Reachable step init s)
    (calls : List ι) : Reachable step init (execute step s calls) := by
  induction calls generalizing s with
  | nil => exact hs
  | cons c cs ih =>
    apply ih
    unfold afterCall
    split
    · next h => exact .step c hs h
    · next h => rw [hatomic _ _ _ _ h]; exact hs

/-- An invariant kept by every successful call of `allowed`, where a failing call leaves the
storage as it was, holds after every run of such calls. -/
theorem execute_inv {step : ι → Dispatch ε σ Unit} {P : σ → Prop} {allowed : ι → Prop}
    (hatomic : ∀ c s s' e, step c s = .error e s' → s' = s)
    (hok : ∀ c s s', allowed c → P s → step c s = .ok () s' → P s') {s : σ} (hs : P s)
    {calls : List ι} (hc : ∀ c ∈ calls, allowed c) : P (execute step s calls) := by
  induction calls generalizing s with
  | nil => exact hs
  | cons c cs ih =>
    refine ih ?_ fun c' h => hc c' (List.mem_cons_of_mem c h)
    show P (afterCall (step c s))
    unfold afterCall
    split
    · next h => exact hok _ _ _ (hc c (List.mem_cons_self c cs)) hs h
    · next h => rw [hatomic _ _ _ _ h]; exact hs

/-- Calls that all fail from `s`, where a failing call leaves the storage as it was, leave `s` as it
is. -/
theorem execute_of_fails {step : ι → Dispatch ε σ Unit} {s : σ} {calls : List ι}
    (hatomic : ∀ c s s' e, step c s = .error e s' → s' = s)
    (hfail : ∀ c ∈ calls, ∀ s', step c s ≠ .ok () s') : execute step s calls = s :=
  execute_inv (P := (· = s)) hatomic (fun c _ s' hc ht h => absurd (ht ▸ h) (hfail c hc s')) rfl
    fun _ hc => hc

end Runs

end FissionMall
