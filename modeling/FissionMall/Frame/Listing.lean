import FissionMall.Frame.Index
import FissionMall.Frame.Records

/-
  Index buckets in order. `IndexedBy` says which entries a bucket holds; the pallets also fix
  the order they are held in, since `try_push` appends and `retain` keeps the order of what it
  keeps. The log orders the stored keys too: `liveKeys change evs` lists the keys a log leaves
  live, in the order of their creation events, a creation appending its key and a deletion
  removing it.

  `ListedBy store group entry idx live`: `live` lists every stored key exactly once, and every
  bucket `g` is `listing store group entry live g`, the entries of the keys of `live` whose record
  sits in `g`, in `live`'s order. The three steps of the pallets keep it, as they keep
  `IndexedBy`: `ListedBy.insert` with the new key appended to `live`, `ListedBy.erase` with the
  key removed from it, and `ListedBy.modify`, a rewrite that keeps the record's group, with
  `live` unchanged; `ListedBy.push` and `ListedBy.retain` are the first two on maps of bounded
  buckets, and `ListedBy.retainPush`, a retain then a push, moves a record to the end of its new
  bucket and its key to the end of `live`. `Reachable.live` lifts a step lemma of this shape, in which each call appends the
  events that move `live`, to the log of every reachable storage.
-/

namespace FissionMall

open Function (update)

/-! ## The live keys of a log -/

section Live

variable {K A E : Type} [DecidableEq K]

/-- One change applied to the list of live keys: a creation appends its key, a deletion removes
it. -/
def Change.applyKeys : Change K A → List K → List K
  | .created k _, l => l ++ [k]
  | .deleted k, l => l.filter (· != k)
  | .other, l => l

/-- The changes of the events `evs`, applied in turn to the live keys `l`. -/
def liveKeysFrom (change : E → Change K A) (l : List K) (evs : List E) : List K :=
  evs.foldl (fun l e => (change e).applyKeys l) l

/-- The keys a log leaves live, in the order of their creation. -/
def liveKeys (change : E → Change K A) (evs : List E) : List K := liveKeysFrom change [] evs

theorem liveKeys_append (change : E → Change K A) (evs evs' : List E) :
    liveKeys change (evs ++ evs') = liveKeysFrom change (liveKeys change evs) evs' :=
  List.foldl_append _ _ _ _

/-- When every successful call appends events whose changes take live keys `l` that `P` relates
to the storage before it to live keys that `P` relates to the storage after it, `P` relates the
live keys of the log of every reachable storage to that storage. -/
theorem Reachable.live {ι ε σ : Type} {step : ι → Dispatch ε σ Unit} {init s : σ}
    (h : Reachable step init s) {events : σ → List E} {change : E → Change K A}
    {P : List K → σ → Prop} (h0 : P (liveKeys change (events init)) init)
    (hstep : ∀ c l s s', P l s → step c s = .ok () s' →
      ∃ evs, events s' = events s ++ evs ∧ P (liveKeysFrom change l evs) s') :
    P (liveKeys change (events s)) s :=
  h.inv (P := fun s => P (liveKeys change (events s)) s) h0 fun c s s' hs hc => by
    obtain ⟨evs, he, hp⟩ := hstep c _ s s' hs hc
    rwa [he, liveKeys_append]

end Live

/-! ## Buckets listed in the order of the log -/

section Listing

variable {K V G E : Type} [DecidableEq G]

/-- The entries of the keys of `live` whose stored record sits in bucket `g`, in `live`'s order. -/
def listing (store : K → Option V) (group : K → V → G) (entry : K → E) (live : List K) (g : G) :
    List E :=
  (live.filter fun k => (store k).any fun v => group k v = g).map entry

/-- `live` lists every stored key once, and every bucket lists the entries of its stored keys in
`live`'s order. -/
structure ListedBy (store : K → Option V) (group : K → V → G) (entry : K → E)
    (idx : G → List E) (live : List K) : Prop where
  nodup : live.Nodup
  mem_iff : ∀ k, k ∈ live ↔ (store k).isSome
  lists : idx = listing store group entry live

variable {store : K → Option V} {group : K → V → G} {entry : K → E} {idx : G → List E}
  {live : List K}

theorem ListedBy.empty :
    ListedBy (fun _ => (none : Option V)) group entry (fun _ => []) [] :=
  ⟨List.nodup_nil, fun _ => by simp, rfl⟩

/-- Two stores that agree on the keys of `live` list the same buckets. -/
theorem listing_congr {store' : K → Option V} (h : ∀ k ∈ live, store' k = store k) :
    listing store' group entry live = listing store group entry live :=
  funext fun _ => congrArg (List.map entry) (List.filter_congr fun k hk => by rw [h k hk])

variable [DecidableEq K]

theorem ListedBy.insert (h : ListedBy store group entry idx live) {k : K} (hnone : store k = none)
    (v : V) :
    ListedBy (update store k (some v)) group entry
      (update idx (group k v) (idx (group k v) ++ [entry k])) (live ++ [k]) := by
  have hk : k ∉ live := fun hm => by simpa [hnone] using (h.mem_iff k).mp hm
  have hsame : ∀ k' ∈ live, update store k (some v) k' = store k' := fun k' hk' =>
    Function.update_noteq (ne_of_mem_of_not_mem hk' hk) _ _
  refine ⟨h.nodup.append (List.nodup_singleton k) (List.disjoint_singleton.mpr hk),
    fun k' => ?_, funext fun g => ?_⟩
  · by_cases he : k' = k
    · subst he; simp
    · simp [he, h.mem_iff k']
  · have hl : listing (update store k (some v)) group entry (live ++ [k]) g =
        listing store group entry live g ++ if group k v = g then [entry k] else [] := by
      rw [listing, List.filter_append, List.map_append, ← listing, listing_congr hsame]
      by_cases hg : group k v = g <;> simp [hg]
    rw [hl, h.lists]
    by_cases hg : g = group k v
    · subst hg; simp
    · simp [Function.update_noteq hg, Ne.symm hg]

theorem ListedBy.erase [DecidableEq E] (h : ListedBy store group entry idx live)
    (hk : KeyedBy group entry) {k : K} {v : V} (hsome : store k = some v) :
    ListedBy (update store k none) group entry
      (update idx (group k v) ((idx (group k v)).filter (· != entry k))) (live.filter (· != k)) := by
  refine ⟨h.nodup.filter _, fun k' => ?_, funext fun g => ?_⟩
  · by_cases he : k' = k
    · subst he; simp
    · simp [he, h.mem_iff k']
  · have hl : listing (update store k none) group entry (live.filter (· != k)) g =
        (live.filter fun k' => ((store k').any fun v => group k' v = g) && k' != k).map entry := by
      rw [listing, List.filter_filter]
      refine congrArg _ (List.filter_congr fun k' _ => ?_)
      by_cases he : k' = k
      · subst he; simp
      · simp [Function.update_noteq he, he]
    rw [hl, h.lists]
    by_cases hg : g = group k v
    · subst hg
      rw [Function.update_same, listing, List.filter_map, List.filter_filter]
      refine congrArg _ (List.filter_congr fun k' _ => ?_)
      cases hs : store k' with
      | none => simp
      | some v' =>
        by_cases hgk : group k' v' = group k v
        · have hiff : entry k' = entry k ↔ k' = k := ⟨hk k' k v' v hgk, congrArg entry⟩
          simpa [hgk] using Bool.eq_iff_iff.mpr (by simp [hiff])
        · simp [hgk]
    · rw [Function.update_noteq hg, listing]
      refine congrArg _ (List.filter_congr fun k' _ => ?_)
      by_cases he : k' = k
      · subst he; simp [hsome, Ne.symm hg]
      · simp [he]

theorem ListedBy.modify (h : ListedBy store group entry idx live) {k : K} {v v' : V}
    (hsome : store k = some v) (hg : group k v' = group k v) :
    ListedBy (update store k (some v')) group entry idx live := by
  refine ⟨h.nodup, fun k' => ?_, ?_⟩
  · by_cases he : k' = k
    · subst he; simp [h.mem_iff, hsome]
    · rw [Function.update_noteq he, h.mem_iff]
  · rw [h.lists]
    refine funext fun g => congrArg _ (List.filter_congr fun k' _ => ?_)
    by_cases he : k' = k
    · subst he; simp [hsome, hg]
    · rw [Function.update_noteq he]

/-! ### The same steps on maps of bounded buckets -/

variable {n : Nat} {f : G → BoundedVec E n}

theorem ListedBy.push (h : ListedBy store group entry (BoundedVec.lists f) live) {k : K}
    (hnone : store k = none) {v : V} {b : BoundedVec E n}
    (hpush : (f (group k v)).tryPush (entry k) = some b) :
    ListedBy (update store k (some v)) group entry
      (BoundedVec.lists (update f (group k v) b)) (live ++ [k]) := by
  rw [BoundedVec.lists_update, BoundedVec.tryPush_toList hpush]
  exact h.insert hnone v

theorem ListedBy.retain [DecidableEq E] (h : ListedBy store group entry (BoundedVec.lists f) live)
    (hk : KeyedBy group entry) {k : K} {v : V} (hsome : store k = some v) :
    ListedBy (update store k none) group entry
      (BoundedVec.lists (update f (group k v) ((f (group k v)).retain (· != entry k))))
      (live.filter (· != k)) := by
  rw [BoundedVec.lists_update, BoundedVec.retain_toList]
  exact h.erase hk hsome

/-- A rewrite that moves a record to the end of its new bucket: its entry is retained out of the
old bucket and pushed onto the new one, and its key moves to the end of `live`. -/
theorem ListedBy.retainPush [DecidableEq E] (h : ListedBy store group entry (BoundedVec.lists f) live)
    (hk : KeyedBy group entry) {k : K} {v : V} (hsome : store k = some v) (v' : V)
    {b : BoundedVec E n}
    (hpush : (update f (group k v) ((f (group k v)).retain (· != entry k)) (group k v')).tryPush
      (entry k) = some b) :
    ListedBy (update store k (some v')) group entry
      (BoundedVec.lists (update (update f (group k v) ((f (group k v)).retain (· != entry k)))
        (group k v') b))
      (live.filter (· != k) ++ [k]) := by
  have h2 := (h.retain hk hsome).push (Function.update_same _ _ _) hpush
  rwa [Function.update_idem] at h2

end Listing

end FissionMall
