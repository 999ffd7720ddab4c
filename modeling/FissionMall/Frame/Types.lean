import Mathlib.Logic.Function.Basic
import Mathlib.Data.List.Count
import Mathlib.Algebra.Group.Nat.Basic
import Mathlib.Data.Nat.Defs

/-
  FRAME value types the pallets are written against: `BoundedVec<T, S>` (a list with a
  length bound, checked on `try_from` and `try_push`) and the saturating arithmetic of Rust's
  unsigned integers. A `uN` is a `BitVec N`; a `Vec<u8>` is `Bytes`.

  `BoundedVec.lists` reads a `ValueQuery` map of buckets as plain lists; `lists_update` is the
  one rewrite every index proof uses to see a bucket write as an update of that view.
-/

namespace FissionMall

/-- `Vec<u8>`. -/
abbrev Bytes := List (BitVec 8)

/-- `BoundedVec<T, S>`: a list of at most `bound` elements. -/
structure BoundedVec (α : Type) (bound : Nat) where
  toList : List α
  length_le : toList.length ≤ bound
deriving DecidableEq

namespace BoundedVec

variable {α : Type} {n : Nat}

theorem ext {v w : BoundedVec α n} (h : v.toList = w.toList) : v = w := by
  cases v; cases w; cases h; rfl

/-- `BoundedVec::default()`: the empty vector, and the `ValueQuery` default of an index bucket. -/
def empty : BoundedVec α n := ⟨[], Nat.zero_le _⟩

instance : Inhabited (BoundedVec α n) := ⟨empty⟩

/-- `BoundedVec::try_from(v)`: fails on a list longer than the bound. -/
def tryFrom (l : List α) : Option (BoundedVec α n) :=
  if h : l.length ≤ n then some ⟨l, h⟩ else none

/-- `match o { Some(v) => Some(BoundedVec::try_from(v)?), None => None }`: `none` when the
value given is too long. -/
def tryFromOpt (o : Option (List α)) : Option (Option (BoundedVec α n)) :=
  match o with
  | some l => (tryFrom l).map some
  | none => some none

/-- `if let Some(v) = o { field = BoundedVec::try_from(v)?; }`: the field's new value, `current`
when nothing was given, `none` when the value given is too long. -/
def tryReplace (current : BoundedVec α n) (o : Option (List α)) : Option (BoundedVec α n) :=
  match o with
  | some l => tryFrom l
  | none => some current

/-- `if let Some(v) = o { field = Some(BoundedVec::try_from(v)?); }` on an optional field. -/
def tryReplaceSome (current : Option (BoundedVec α n)) (o : Option (List α)) :
    Option (Option (BoundedVec α n)) :=
  match o with
  | some l => (tryFrom l).map some
  | none => some current

/-- `try_push(x)`: appends `x`, and fails when the vector already holds `bound` elements. -/
def tryPush (v : BoundedVec α n) (x : α) : Option (BoundedVec α n) :=
  if h : v.toList.length < n then
    some ⟨v.toList ++ [x], by rw [List.length_append, List.length_singleton]; omega⟩
  else none

/-- `retain(f)`: keeps the elements `f` accepts, in their order. -/
def retain (v : BoundedVec α n) (f : α → Bool) : BoundedVec α n :=
  ⟨v.toList.filter f, Nat.le_trans (List.length_filter_le f v.toList) v.length_le⟩

/-- `contains(x)`. -/
def contains [BEq α] (v : BoundedVec α n) (x : α) : Bool := v.toList.contains x

@[simp] theorem empty_toList : (empty : BoundedVec α n).toList = [] := rfl

@[simp] theorem retain_toList (v : BoundedVec α n) (f : α → Bool) :
    (v.retain f).toList = v.toList.filter f := rfl

theorem tryFrom_toList {l : List α} {v : BoundedVec α n} (h : tryFrom l = some v) :
    v.toList = l := by
  unfold tryFrom at h
  split at h
  · cases h; rfl
  · cases h

/-- The round trip: a bounded vector's own list converts back to it. -/
theorem tryFrom_toList_self (v : BoundedVec α n) : tryFrom v.toList = some v := by
  unfold tryFrom
  rw [dif_pos v.length_le]

theorem tryFrom_eq_none {l : List α} : (tryFrom l : Option (BoundedVec α n)) = none ↔ n < l.length := by
  unfold tryFrom
  split <;> simp <;> omega

/-- A replacement of an optional field never clears it. -/
theorem isSome_tryReplaceSome {current : Option (BoundedVec α n)} {o : Option (List α)}
    {r : Option (BoundedVec α n)} (h : tryReplaceSome current o = some r) (hc : current.isSome) :
    r.isSome := by
  unfold tryReplaceSome at h
  split at h
  · obtain ⟨_, -, rfl⟩ := Option.map_eq_some'.mp h
    rfl
  · cases h
    exact hc

theorem tryPush_toList {v w : BoundedVec α n} {x : α} (h : v.tryPush x = some w) :
    w.toList = v.toList ++ [x] := by
  unfold tryPush at h
  split at h
  · cases h; rfl
  · cases h

theorem mem_tryPush {v w : BoundedVec α n} {x y : α} (h : v.tryPush x = some w) :
    y ∈ w.toList ↔ y ∈ v.toList ∨ y = x := by
  rw [tryPush_toList h, List.mem_append, List.mem_singleton]

/-- A push onto one bucket of a map of buckets loses no entry of any bucket. -/
theorem mem_update_tryPush {K : Type} [DecidableEq K] {f : K → BoundedVec α n} {a c : K} {x y : α}
    {b : BoundedVec α n} (hb : (f a).tryPush x = some b) (hy : y ∈ (f c).toList) :
    y ∈ (Function.update f a b c).toList := by
  by_cases hc : c = a
  · subst hc
    rw [Function.update_same]
    exact (mem_tryPush hb).mpr (.inl hy)
  · rwa [Function.update_noteq hc]

/-- Below its bound a vector takes one more element. -/
theorem tryPush_of_lt (v : BoundedVec α n) (x : α) (h : v.toList.length < n) :
    v.tryPush x = some ⟨v.toList ++ [x], by rw [List.length_append, List.length_singleton]; omega⟩ :=
  dif_pos h

theorem tryPush_eq_none {v : BoundedVec α n} {x : α} : v.tryPush x = none ↔ n ≤ v.toList.length := by
  unfold tryPush
  split <;> simp <;> omega

/-- The buckets of a `ValueQuery` map of bounded vectors, read as lists. -/
def lists {G : Type} (f : G → BoundedVec α n) : G → List α := fun g => (f g).toList

@[simp] theorem lists_apply {G : Type} (f : G → BoundedVec α n) (g : G) :
    lists f g = (f g).toList := rfl

theorem lists_update {G : Type} [DecidableEq G] (f : G → BoundedVec α n) (g : G)
    (v : BoundedVec α n) : lists (Function.update f g v) = Function.update (lists f) g v.toList :=
  Function.comp_update toList f g v

end BoundedVec

/-! ## Distinct codes

The runs that fill a bucket need one code per call, all different: `twoByteCode i`, which two
bytes hold for every `i < 65536`. -/

/-- The two bytes `[i / 256, i]`, each taken mod 256. -/
def twoByteCode (i : Nat) : Bytes := [BitVec.ofNat 8 (i / 256), BitVec.ofNat 8 i]

theorem twoByteCode_inj {i j : Nat} (hi : i < 65536) (hj : j < 65536)
    (h : twoByteCode i = twoByteCode j) : i = j := by
  simp only [twoByteCode, List.cons.injEq, and_true] at h
  have h1 := congrArg BitVec.toNat h.1
  have h2 := congrArg BitVec.toNat h.2
  simp only [BitVec.toNat_ofNat, Nat.reducePow] at h1 h2
  omega

theorem tryFrom_twoByteCode {n : Nat} (h : 2 ≤ n) (i : Nat) :
    BoundedVec.tryFrom (twoByteCode i) = some (⟨twoByteCode i, h⟩ : BoundedVec (BitVec 8) n) :=
  dif_pos h

/-- Two bounded codes converted from the two bytes of different calls differ. -/
theorem ne_of_twoByteCode {n i j : Nat} {k k' : BoundedVec (BitVec 8) n} (hi : i < 65536)
    (hj : j < 65536) (hij : i ≠ j) (hk : BoundedVec.tryFrom (twoByteCode i) = some k)
    (hk' : BoundedVec.tryFrom (twoByteCode j) = some k') : k ≠ k' := fun he =>
  hij (twoByteCode_inj hi hj
    (by rw [← BoundedVec.tryFrom_toList hk, ← BoundedVec.tryFrom_toList hk', he]))

/-- `sp_runtime::Perbill`: parts per billion; decoding refuses more than `1_000_000_000`. -/
structure Perbill where
  parts : BitVec 32
  le_billion : parts.toNat ≤ 1000000000

/-! ## Saturating arithmetic -/

section Saturating

variable {w : Nat}

/-- `saturating_add` of an unsigned `w`-bit integer. -/
def saturatingAdd (a b : BitVec w) : BitVec w :=
  if a.toNat + b.toNat < 2 ^ w then a + b else BitVec.allOnes w

/-- `saturating_sub` of an unsigned `w`-bit integer. -/
def saturatingSub (a b : BitVec w) : BitVec w :=
  if b ≤ a then a - b else 0

/-- `saturating_mul` of an unsigned `w`-bit integer. -/
def saturatingMul (a b : BitVec w) : BitVec w :=
  if a.toNat * b.toNat < 2 ^ w then a * b else BitVec.allOnes w

theorem toNat_saturatingAdd (a b : BitVec w) :
    (saturatingAdd a b).toNat = min (a.toNat + b.toNat) (2 ^ w - 1) := by
  unfold saturatingAdd
  split
  · rw [BitVec.toNat_add, Nat.mod_eq_of_lt ‹_›]; omega
  · rw [BitVec.toNat_allOnes]; omega

/-- A saturating add never decreases. -/
theorem le_saturatingAdd (a b : BitVec w) : a ≤ saturatingAdd a b := by
  rw [BitVec.le_def, toNat_saturatingAdd]
  have := a.isLt
  omega

theorem toNat_saturatingSub (a b : BitVec w) :
    (saturatingSub a b).toNat = a.toNat - b.toNat := by
  unfold saturatingSub
  split
  · rw [BitVec.toNat_sub_of_le ‹_›]
  · rw [BitVec.le_def] at *; simp; omega

theorem toNat_saturatingMul (a b : BitVec w) :
    (saturatingMul a b).toNat = min (a.toNat * b.toNat) (2 ^ w - 1) := by
  unfold saturatingMul
  split
  · rw [BitVec.toNat_mul, Nat.mod_eq_of_lt ‹_›]; omega
  · rw [BitVec.toNat_allOnes]; omega

end Saturating

end FissionMall
