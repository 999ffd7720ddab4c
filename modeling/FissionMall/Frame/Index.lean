import FissionMall.Frame.Types
import Mathlib.Data.List.Nodup

/-
  Secondary indexes, once for every pallet. A primary map `store : K → Option V` is indexed by
  buckets `idx : G → List E` when the record stored under `k` with value `v` has the entry
  `entry k` in the bucket `group k v`: every bucket entry names a stored record of that bucket
  (`IndexedBy.sound`), and every stored record's entry is in its own bucket exactly once
  (`IndexedBy.once`). For the order pallets the entry is the key itself; for products and tokens
  the key is a pair `(code, institution)`, the bucket is the institution and the entry is the bare
  code, so `KeyedBy` (a key is told apart by its bucket and its entry) is what makes the entry
  unique.

  The pallets change an index in three ways, and each keeps `IndexedBy`:
  * `IndexedBy.insert`: store a fresh key and push its entry onto its bucket (`create_*`);
  * `IndexedBy.erase`: remove a key and `retain` its entry out of its bucket (`delete_*`);
  * `IndexedBy.modify`: rewrite a record without changing its bucket (every field update);
  and `IndexedBy.retainPush`, a retain then a push, is a status change that moves a code from
  one bucket to another.
-/

namespace FissionMall

section Index

variable {K V G E : Type} [DecidableEq E]

/-- The buckets `idx` index `store`, the record under `k` with value `v` sitting in bucket
`group k v` as `entry k`. -/
structure IndexedBy (store : K → Option V) (group : K → V → G) (entry : K → E)
    (idx : G → List E) : Prop where
  sound : ∀ g e, e ∈ idx g → ∃ k v, store k = some v ∧ group k v = g ∧ entry k = e
  once : ∀ k v, store k = some v → (idx (group k v)).count (entry k) = 1

/-- A key is determined by its bucket and its entry. -/
def KeyedBy (group : K → V → G) (entry : K → E) : Prop :=
  ∀ k k' v v', group k v = group k' v' → entry k = entry k' → k = k'

variable {store : K → Option V} {group : K → V → G} {entry : K → E} {idx : G → List E}

theorem IndexedBy.empty : IndexedBy (fun _ => (none : Option V)) group entry (fun _ => []) :=
  ⟨fun _ _ h => absurd h (List.not_mem_nil _), fun _ _ h => by cases h⟩

/-- A key that is not stored has no entry in its would-be bucket. -/
theorem IndexedBy.not_mem (h : IndexedBy store group entry idx) (hk : KeyedBy group entry)
    {k : K} (hnone : store k = none) (v : V) : entry k ∉ idx (group k v) := by
  intro hm
  obtain ⟨k', v', hs, hg, he⟩ := h.sound _ _ hm
  rw [hk k' k v' v hg he, hnone] at hs
  cases hs

theorem IndexedBy.insert [DecidableEq K] [DecidableEq G] (h : IndexedBy store group entry idx)
    (hk : KeyedBy group entry) {k : K} (hnone : store k = none) (v : V) :
    IndexedBy (Function.update store k (some v)) group entry
      (Function.update idx (group k v) (idx (group k v) ++ [entry k])) := by
  have hfresh := h.not_mem hk hnone v
  constructor
  · intro g e hm
    by_cases hg : g = group k v
    · subst hg
      rw [Function.update_same, List.mem_append, List.mem_singleton] at hm
      rcases hm with hm | rfl
      · obtain ⟨k', v', hs, hg', he⟩ := h.sound _ _ hm
        have hne : k' ≠ k := by rintro rfl; rw [hnone] at hs; cases hs
        exact ⟨k', v', by rwa [Function.update_noteq hne], hg', he⟩
      · exact ⟨k, v, Function.update_same _ _ _, rfl, rfl⟩
    · rw [Function.update_noteq hg] at hm
      obtain ⟨k', v', hs, hg', he⟩ := h.sound _ _ hm
      have hne : k' ≠ k := by rintro rfl; rw [hnone] at hs; cases hs
      exact ⟨k', v', by rwa [Function.update_noteq hne], hg', he⟩
  · intro k' v' hs
    by_cases hne : k' = k
    · subst hne
      rw [Function.update_same, Option.some_inj] at hs
      subst hs
      rw [Function.update_same, List.count_append, List.count_eq_zero.mpr hfresh]
      simp
    · rw [Function.update_noteq hne] at hs
      by_cases hg : group k' v' = group k v
      · have hen : entry k ≠ entry k' := fun he => hne (hk k k' v v' hg.symm he).symm
        rw [hg, Function.update_same, List.count_append, ← hg, h.once k' v' hs,
          List.count_singleton]
        simp [hen]
      · rw [Function.update_noteq hg, h.once k' v' hs]

theorem IndexedBy.erase [DecidableEq K] [DecidableEq G] (h : IndexedBy store group entry idx)
    (hk : KeyedBy group entry) {k : K} {v : V} (hsome : store k = some v) :
    IndexedBy (Function.update store k none) group entry
      (Function.update idx (group k v) ((idx (group k v)).filter (· != entry k))) := by
  constructor
  · intro g e hm
    by_cases hg : g = group k v
    · subst hg
      rw [Function.update_same, List.mem_filter, bne_iff_ne] at hm
      obtain ⟨k', v', hs, hg', he⟩ := h.sound _ _ hm.1
      have hne : k' ≠ k := by rintro rfl; exact hm.2 he.symm
      exact ⟨k', v', by rwa [Function.update_noteq hne], hg', he⟩
    · rw [Function.update_noteq hg] at hm
      obtain ⟨k', v', hs, hg', he⟩ := h.sound _ _ hm
      have hne : k' ≠ k := by
        rintro rfl; rw [hsome, Option.some_inj] at hs; subst hs; exact hg hg'.symm
      exact ⟨k', v', by rwa [Function.update_noteq hne], hg', he⟩
  · intro k' v' hs
    have hne : k' ≠ k := by rintro rfl; rw [Function.update_same] at hs; cases hs
    rw [Function.update_noteq hne] at hs
    by_cases hg : group k' v' = group k v
    · have hen : entry k' ≠ entry k := fun he => hne (hk k' k v' v hg he)
      rw [hg, Function.update_same, List.count_filter (by simpa using hen), ← hg, h.once k' v' hs]
    · rw [Function.update_noteq hg, h.once k' v' hs]

theorem IndexedBy.modify [DecidableEq K] (h : IndexedBy store group entry idx) {k : K} {v v' : V}
    (hsome : store k = some v) (hg : group k v' = group k v) :
    IndexedBy (Function.update store k (some v')) group entry idx := by
  constructor
  · intro g e hm
    obtain ⟨k', v'', hs, hg', he⟩ := h.sound _ _ hm
    by_cases hne : k' = k
    · subst hne
      rw [hsome, Option.some_inj] at hs
      subst hs
      exact ⟨k', v', Function.update_same _ _ _, hg.trans hg', he⟩
    · exact ⟨k', v'', by rwa [Function.update_noteq hne], hg', he⟩
  · intro k' v'' hs
    by_cases hne : k' = k
    · subst hne
      rw [Function.update_same, Option.some_inj] at hs
      subst hs
      rw [hg, h.once k' v hsome]
    · rw [Function.update_noteq hne] at hs
      exact h.once k' v'' hs

/-- The other direction of `IndexedBy.once`: an entry in a bucket is there exactly once. -/
theorem IndexedBy.count_eq_one (h : IndexedBy store group entry idx) {g : G} {e : E}
    (hm : e ∈ idx g) : (idx g).count e = 1 := by
  obtain ⟨k, v, hs, rfl, rfl⟩ := h.sound _ _ hm
  exact h.once k v hs

/-- No bucket holds an entry twice. -/
theorem IndexedBy.nodup (h : IndexedBy store group entry idx) (g : G) : (idx g).Nodup :=
  List.nodup_iff_count_le_one.mpr fun e => by
    by_cases hm : e ∈ idx g
    · rw [h.count_eq_one hm]
    · rw [List.count_eq_zero.mpr hm]; omega

/-- The entry of every stored record sits in its own bucket. -/
theorem IndexedBy.mem (h : IndexedBy store group entry idx) {k : K} {v : V}
    (hs : store k = some v) : entry k ∈ idx (group k v) :=
  List.count_pos_iff.mp (by rw [h.once k v hs]; exact Nat.one_pos)

/-- Distinct entries of records stored in group `g` are no more than bucket `g` holds. -/
theorem IndexedBy.length_le (h : IndexedBy store group entry idx) {g : G} {es : List E}
    (hnd : es.Nodup) (hes : ∀ e ∈ es, ∃ k v, store k = some v ∧ group k v = g ∧ entry k = e) :
    es.length ≤ (idx g).length :=
  (List.subperm_of_subset hnd fun e he => by
    obtain ⟨k, v, hs, rfl, rfl⟩ := hes e he
    exact h.mem hs).length_le

/-- Distinct entries of records stored in the groups `gs`, when no bucket holds more than `n`
entries, are at most `n` for each group. -/
theorem IndexedBy.length_le_mul [DecidableEq G] (h : IndexedBy store group entry idx) {n : Nat}
    (hb : ∀ g, (idx g).length ≤ n) {es : List E} (hnd : es.Nodup) (gs : List G)
    (hes : ∀ e ∈ es, ∃ k v, store k = some v ∧ group k v ∈ gs ∧ entry k = e) :
    es.length ≤ gs.length * n := by
  induction gs generalizing es with
  | nil =>
    cases es with
    | nil => exact Nat.zero_le _
    | cons e _ =>
      obtain ⟨_, _, _, hg, _⟩ := hes e (List.mem_cons_self _ _)
      exact absurd hg (List.not_mem_nil _)
  | cons g gs ih =>
    have hin : (es.filter fun e => decide (e ∈ idx g)).length ≤ (idx g).length :=
      (List.subperm_of_subset (hnd.filter _) fun e he =>
        of_decide_eq_true (List.mem_filter.mp he).2).length_le
    have hout : (es.filter fun e => !decide (e ∈ idx g)).length ≤ gs.length * n := by
      refine ih (hnd.filter _) fun e he => ?_
      obtain ⟨he, hn⟩ := List.mem_filter.mp he
      obtain ⟨k, v, hs, hg, rfl⟩ := hes _ he
      rcases List.mem_cons.mp hg with hg | hg
      · exact absurd (hg ▸ h.mem hs) (by simpa using hn)
      · exact ⟨k, v, hs, hg, rfl⟩
    rw [List.length_eq_length_filter_add fun e => decide (e ∈ idx g), List.length_cons,
      Nat.succ_mul]
    have := hb g
    omega

/-! ### The same steps on maps of bounded buckets

The pallets keep their buckets as `BoundedVec`s in a `ValueQuery` map `f`, and change one by
`try_push` or `retain`; these are `insert`, `erase` and `move` read through `BoundedVec.lists`. -/

variable [DecidableEq K] [DecidableEq G] {n : Nat} {f : G → BoundedVec E n}

theorem IndexedBy.push (h : IndexedBy store group entry (BoundedVec.lists f))
    (hk : KeyedBy group entry) {k : K} (hnone : store k = none) {v : V} {b : BoundedVec E n}
    (hpush : (f (group k v)).tryPush (entry k) = some b) :
    IndexedBy (Function.update store k (some v)) group entry
      (BoundedVec.lists (Function.update f (group k v) b)) := by
  rw [BoundedVec.lists_update, BoundedVec.tryPush_toList hpush]
  exact h.insert hk hnone v

theorem IndexedBy.retain (h : IndexedBy store group entry (BoundedVec.lists f))
    (hk : KeyedBy group entry) {k : K} {v : V} (hsome : store k = some v) :
    IndexedBy (Function.update store k none) group entry
      (BoundedVec.lists (Function.update f (group k v) ((f (group k v)).retain (· != entry k)))) := by
  rw [BoundedVec.lists_update, BoundedVec.retain_toList]
  exact h.erase hk hsome

theorem IndexedBy.retainPush (h : IndexedBy store group entry (BoundedVec.lists f))
    (hk : KeyedBy group entry) {k : K} {v : V} (hsome : store k = some v) (v' : V)
    {b : BoundedVec E n}
    (hpush : (Function.update f (group k v) ((f (group k v)).retain (· != entry k)) (group k v')).tryPush
      (entry k) = some b) :
    IndexedBy (Function.update store k (some v')) group entry
      (BoundedVec.lists (Function.update
        (Function.update f (group k v) ((f (group k v)).retain (· != entry k))) (group k v') b)) := by
  have h2 := (h.retain hk hsome).push hk (Function.update_same _ _ _) hpush
  rwa [Function.update_idem] at h2

end Index

theorem keyedBy_id {K V G : Type} (group : K → V → G) : KeyedBy group id :=
  fun _ _ _ _ _ he => he

/-- Keys `(code, institution)` with bucket `institution` and entry `code`. -/
theorem keyedBy_pair {C I V : Type} : KeyedBy (fun (k : C × I) (_ : V) => k.2) Prod.fst :=
  fun _ _ _ _ hg he => Prod.ext he hg

/-! ## Record predicates -/

section AllStored

variable {K V : Type} {P : V → Prop} {m : K → Option V}

/-- Every record stored in `m` satisfies `P`. -/
def AllStored (P : V → Prop) (m : K → Option V) : Prop := ∀ k v, m k = some v → P v

theorem AllStored.empty : AllStored P (fun _ : K => none) := fun _ _ h => by cases h

theorem AllStored.update_some [DecidableEq K] (h : AllStored P m) {k : K} {v : V} (hv : P v) :
    AllStored P (Function.update m k (some v)) := by
  intro k' v' h'
  by_cases hk : k' = k
  · subst hk
    rw [Function.update_same, Option.some_inj] at h'
    exact h' ▸ hv
  · rw [Function.update_noteq hk] at h'
    exact h k' v' h'

theorem AllStored.update_none [DecidableEq K] (h : AllStored P m) (k : K) :
    AllStored P (Function.update m k none) := by
  intro k' v' h'
  by_cases hk : k' = k
  · subst hk; rw [Function.update_same] at h'; cases h'
  · rw [Function.update_noteq hk] at h'
    exact h k' v' h'

end AllStored

end FissionMall
