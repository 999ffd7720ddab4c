import FissionMall.Frame.Dispatch

/-
  Stored records across calls, for every pallet. A call of any pallet writes its primary map
  under one key only, so what a call does to the records is what it writes under that key.

  `KeptBy R m m'`: every record that both `m` and `m'` hold is related by `R`, from its value in
  `m` to its value in `m'`; a relation of this kind says which fields no call changes.
  `KeptBy.update`: one write relates nothing when it creates or deletes, and the old value to
  the new one when it rewrites. `StoredAt P m`: every stored record satisfies `P` at its own key,
  and `StoredAt.update` is the same one-write step for it.

  The event log. Every pallet deposits an event naming the record a call created, with the
  signer, and one naming the record a call deleted; no other event changes which records exist.
  `Change K A` is what one event says of that: `created k a`, `deleted k`, or `other`.
  `replayChanges change evs` folds the changes of a log over the empty map: the view an indexer
  builds that follows only creations and deletions. `creators creator m` is that view read off the
  storage, each stored key with the creator of its record.
  `Reachable.replay`: when every successful call appends events whose changes turn the view before
  it into the view after it, the replay of the whole log is the view of every reachable storage.

  The log as an audit trail. `Audited store events key s s'`: from `s` to `s'` events were
  appended, and one of them names (by `key`) every key whose record changed; an indexer that
  re-reads the records the new events name sees every change. It is reflexive and transitive,
  `audited_update` is one write with an event naming its key, and `execute_audited` lifts a call
  step to a whole run, failing calls included.
-/

namespace FissionMall

open Function (update)

section Kept

variable {K V : Type} {m : K → Option V} {k₀ : K} {o : Option V}

/-- Every record that both maps hold is related by `R`, from its value in `m` to its value in
`m'`. -/
def KeptBy (R : V → V → Prop) (m m' : K → Option V) : Prop :=
  ∀ k v v', m k = some v → m' k = some v' → R v v'

theorem KeptBy.mono {R R' : V → V → Prop} {m' : K → Option V} (h : KeptBy R m m')
    (hR : ∀ v v', R v v' → R' v v') : KeptBy R' m m' :=
  fun k v v' hv hv' => hR v v' (h k v v' hv hv')

/-- Every stored record satisfies `P` at its own key. -/
def StoredAt (P : K → V → Prop) (m : K → Option V) : Prop :=
  ∀ k v, m k = some v → P k v

variable [DecidableEq K]

/-- One write under `k₀` keeps every other record as it is, and relates the old record there to
the new one when it rewrites it. -/
theorem KeptBy.update {R : V → V → Prop} (hR : ∀ v, R v v)
    (h : ∀ v v', m k₀ = some v → o = some v' → R v v') : KeptBy R m (update m k₀ o) := by
  intro k v v' hv hv'
  by_cases hk : k = k₀
  · subst hk
    rw [Function.update_same] at hv'
    exact h v v' hv hv'
  · rw [Function.update_noteq hk, hv, Option.some_inj] at hv'
    exact hv' ▸ hR v

theorem KeptBy.create {R : V → V → Prop} (hR : ∀ v, R v v) (hk : m k₀ = none) (v : V) :
    KeptBy R m (Function.update m k₀ (some v)) :=
  KeptBy.update hR fun _ _ hv _ => by rw [hk] at hv; cases hv

theorem KeptBy.erase {R : V → V → Prop} (hR : ∀ v, R v v) :
    KeptBy R m (Function.update m k₀ none) :=
  KeptBy.update hR fun _ _ _ h => by cases h

theorem KeptBy.rewrite {R : V → V → Prop} (hR : ∀ v, R v v) {v v' : V} (hv : m k₀ = some v)
    (hr : R v v') : KeptBy R m (Function.update m k₀ (some v')) :=
  KeptBy.update hR fun _ _ h h' => by
    rw [hv, Option.some_inj] at h
    cases h
    cases h'
    exact hr

theorem StoredAt.update {P : K → V → Prop} (h : StoredAt P m) (ho : ∀ v, o = some v → P k₀ v) :
    StoredAt P (update m k₀ o) := by
  intro k v hv
  by_cases hk : k = k₀
  · subst hk
    rw [Function.update_same] at hv
    exact ho v hv
  · rw [Function.update_noteq hk] at hv
    exact h k v hv

end Kept

section Creators

variable {K V A : Type} [DecidableEq K] (creator : V → A)

/-- Each stored key with the creator of its record. -/
def creators (m : K → Option V) : K → Option A := fun k => (m k).map creator

theorem creators_update (m : K → Option V) (k : K) (o : Option V) :
    creators creator (update m k o) = update (creators creator m) k (o.map creator) :=
  Function.comp_update (Option.map creator) m k o

/-- A rewrite that keeps the creator leaves the view as it is. -/
theorem creators_rewrite {m : K → Option V} {k : K} {v v' : V} (hv : m k = some v)
    (hc : creator v' = creator v) : creators creator (update m k (some v')) = creators creator m := by
  rw [creators_update, Option.map_some', hc, Function.update_eq_self_iff]
  show _ = (m k).map creator
  rw [hv, Option.map_some']

end Creators

/-! ## The event log -/

/-- What one event says of the record it names. -/
inductive Change (K A : Type)
  | created (k : K) (a : A)
  | deleted (k : K)
  | other

section Log

variable {K A E : Type} [DecidableEq K]

/-- One change applied to a view of the stored records. -/
def Change.apply (m : K → Option A) : Change K A → K → Option A
  | .created k a => update m k (some a)
  | .deleted k => update m k none
  | .other => m

/-- The changes of the events `evs`, applied in turn to the view `m`. -/
def applyChanges (change : E → Change K A) (m : K → Option A) (evs : List E) : K → Option A :=
  evs.foldl (fun m e => (change e).apply m) m

/-- The view a log describes, from no record. -/
def replayChanges (change : E → Change K A) (evs : List E) : K → Option A :=
  applyChanges change (fun _ => none) evs

theorem applyChanges_append (change : E → Change K A) (m : K → Option A) (evs evs' : List E) :
    applyChanges change m (evs ++ evs') = applyChanges change (applyChanges change m evs) evs' :=
  List.foldl_append _ _ _ _

/-- When every successful call appends events whose changes turn the view of the storage before
it into the view after it, the log of every reachable storage replays to its view. -/
theorem Reachable.replay {ι ε σ : Type} {step : ι → Dispatch ε σ Unit} {init s : σ}
    (h : Reachable step init s) {events : σ → List E} {change : E → Change K A}
    {view : σ → K → Option A} (h0 : replayChanges change (events init) = view init)
    (hstep : ∀ c s s', step c s = .ok () s' →
      ∃ evs, events s' = events s ++ evs ∧ applyChanges change (view s) evs = view s') :
    replayChanges change (events s) = view s :=
  h.inv (P := fun s => replayChanges change (events s) = view s) h0 fun c s s' hs hc => by
    obtain ⟨evs, he, hv⟩ := hstep c s s' hc
    rw [he, replayChanges, applyChanges_append, ← replayChanges, hs, hv]

end Log

/-! ## The log names every record that changes -/

section Audit

variable {σ K V E : Type} {store : σ → K → Option V} {events : σ → List E} {key : E → K}

/-- From `s` to `s'`, events were appended to the log, and one of them names every key whose
record changed. -/
def Audited (store : σ → K → Option V) (events : σ → List E) (key : E → K) (s s' : σ) : Prop :=
  ∃ evs, events s' = events s ++ evs ∧ ∀ k, store s' k ≠ store s k → ∃ e ∈ evs, key e = k

theorem Audited.refl (s : σ) : Audited store events key s s :=
  ⟨[], (List.append_nil _).symm, fun _ h => absurd rfl h⟩

theorem Audited.trans {s s' s'' : σ} (h : Audited store events key s s')
    (h' : Audited store events key s' s'') : Audited store events key s s'' := by
  obtain ⟨evs, he, hk⟩ := h
  obtain ⟨evs', he', hk'⟩ := h'
  refine ⟨evs ++ evs', by rw [he', he, List.append_assoc], fun k hne => ?_⟩
  by_cases hs : store s' k = store s k
  · obtain ⟨e, hm, hke⟩ := hk' k (by rwa [hs])
    exact ⟨e, List.mem_append_right _ hm, hke⟩
  · obtain ⟨e, hm, hke⟩ := hk k hs
    exact ⟨e, List.mem_append_left _ hm, hke⟩

/-- One write under `k₀`, with the events appended naming `k₀`. -/
theorem audited_update [DecidableEq K] {s s' : σ} {k₀ : K} {o : Option V} {evs : List E}
    (hs : store s' = update (store s) k₀ o) (he : events s' = events s ++ evs)
    (hk : ∃ e ∈ evs, key e = k₀) : Audited store events key s s' :=
  ⟨evs, he, fun k hne => by
    by_cases h : k = k₀
    · exact h ▸ hk
    · exact absurd (by rw [hs, Function.update_noteq h]) hne⟩

/-- When every successful call of `allowed` is audited and failing calls leave the storage as it
was, every run of such calls is audited from its start to its end. -/
theorem execute_audited {ι ε : Type} {step : ι → Dispatch ε σ Unit} {allowed : ι → Prop}
    (hatomic : ∀ c s s' e, step c s = .error e s' → s' = s)
    (hok : ∀ c s s', allowed c → step c s = .ok () s' → Audited store events key s s') (s : σ)
    {calls : List ι} (hc : ∀ c ∈ calls, allowed c) :
    Audited store events key s (execute step s calls) := by
  induction calls generalizing s with
  | nil => exact .refl s
  | cons c cs ih =>
    refine Audited.trans ?_ (ih _ fun c' h => hc c' (List.mem_cons_of_mem c h))
    show Audited _ _ _ s (afterCall (step c s))
    unfold afterCall
    split
    · next h => exact hok _ _ _ (hc c (List.mem_cons_self c cs)) h
    · next h => rw [hatomic _ _ _ _ h]; exact .refl s

end Audit

end FissionMall
