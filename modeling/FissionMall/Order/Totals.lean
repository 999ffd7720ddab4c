import Mathlib.Algebra.Order.Ring.Nat
import FissionMall.Order.Spec

/-
  The totals of `create_order`. The `for` loop adds `price_per_unit.saturating_mul(quantity)` and
  `weight.saturating_mul(quantity)` to two `u32` accumulators with `saturating_add`. A saturating
  step is the exact step clamped at `u32::MAX` (`toNat_saturatingAdd`, `toNat_saturatingMul`),
  and a clamp of a sum absorbs the clamps of its parts, so the loop computes the exact sums
  clamped once (`collectItems_totals`), wherever saturation starts. Adding the freight after the
  loop clamps again: `create_order_totals_clamped`.
-/

set_option linter.dupNamespace false

namespace FissionMall.Order

/-- `Σ price_per_unit × quantity` over the items, over the naturals. -/
def exactAmount (items : List (Bytes × BitVec 32 × BitVec 32 × BitVec 32)) : Nat :=
  (items.map fun (_, quantity, pricePerUnit, _) => pricePerUnit.toNat * quantity.toNat).sum

/-- `Σ weight × quantity` over the items, over the naturals. -/
def exactWeight (items : List (Bytes × BitVec 32 × BitVec 32 × BitVec 32)) : Nat :=
  (items.map fun (_, quantity, _, weight) => weight.toNat * quantity.toNat).sum

section Sums

variable {productCode : Bytes} {quantity pricePerUnit weight : BitVec 32}
  {items : List (Bytes × BitVec 32 × BitVec 32 × BitVec 32)}

@[simp] theorem exactAmount_nil : exactAmount [] = 0 := rfl

@[simp] theorem exactAmount_cons :
    exactAmount ((productCode, quantity, pricePerUnit, weight) :: items) =
      pricePerUnit.toNat * quantity.toNat + exactAmount items := rfl

@[simp] theorem exactWeight_nil : exactWeight [] = 0 := rfl

@[simp] theorem exactWeight_cons :
    exactWeight ((productCode, quantity, pricePerUnit, weight) :: items) =
      weight.toNat * quantity.toNat + exactWeight items := rfl

end Sums

/-- A clamp inside a clamped sum drops out. -/
theorem min_clamp_add {a b m : Nat} : min (min a m + b) m = min (a + b) m := by
  omega

/-- A clamped step of a clamped sum: both clamps inside drop out. -/
theorem clamp_add_clamp {x y z m : Nat} : min (min (x + min y m) m + z) m = min (x + (y + z)) m := by
  rw [min_clamp_add, Nat.add_right_comm, Nat.add_comm, min_clamp_add, Nat.add_left_comm]

/-- The loop from accumulators `totalAmount` and `totalWeight` ends with the exact sums added to
them, clamped at `u32::MAX`. -/
theorem collectItems_totals {items : List (Bytes × BitVec 32 × BitVec 32 × BitVec 32)}
    {orderItems : List OrderItem} {totalAmount totalWeight : BitVec 32}
    {r : List OrderItem × BitVec 32 × BitVec 32}
    (h : collectItems items orderItems totalAmount totalWeight = some r) :
    r.2.1.toNat = min (totalAmount.toNat + exactAmount items) (2 ^ 32 - 1) ∧
      r.2.2.toNat = min (totalWeight.toNat + exactWeight items) (2 ^ 32 - 1) := by
  induction items generalizing orderItems totalAmount totalWeight with
  | nil =>
    cases h
    have := totalAmount.isLt
    have := totalWeight.isLt
    simp only [exactAmount_nil, exactWeight_nil, Nat.add_zero]
    omega
  | cons item items ih =>
    obtain ⟨productCode, quantity, pricePerUnit, weight⟩ := item
    unfold collectItems at h
    split at h
    · cases h
    · obtain ⟨ha, hw⟩ := ih h
      rw [toNat_saturatingAdd, toNat_saturatingMul, clamp_add_clamp] at ha hw
      rw [exactAmount_cons, exactWeight_cons]
      exact ⟨ha, hw⟩

/-- Every order `create_order` stores carries the exact item sum plus the freight, clamped at
`u32::MAX`, as its amount, and the exact weight sum, clamped, as its weight. -/
theorem create_order_totals_clamped {T : Config} {origin : Origin T.AccountId} {now : Nat}
    {oc mc ic : Bytes} {freight : BitVec 32} {phone email address : Option Bytes}
    {items : List (Bytes × BitVec 32 × BitVec 32 × BitVec 32)} {s s' : State T}
    (h : createOrder origin now oc mc ic freight phone email address items s = .ok () s') :
    ∃ k o, BoundedVec.tryFrom oc = some k ∧ s'.orders k = some o ∧
      o.totalAmount.toNat = min (2 ^ 32 - 1) (freight.toNat + exactAmount items) ∧
      o.totalWeight.toNat = min (2 ^ 32 - 1) (exactWeight items) := by
  obtain ⟨_, k, o, _, _, acc, -, hk, -, -, -, -, -, -, hacc, hamt, hwt, -, -, -, rfl⟩ :=
    createOrder_ok h
  obtain ⟨ha, hw⟩ := collectItems_totals hacc
  have h0 : (0 : BitVec 32).toNat = 0 := rfl
  refine ⟨k, o, hk, Function.update_same _ _ _, ?_, ?_⟩
  · rw [hamt, toNat_saturatingAdd, ha, h0, Nat.zero_add, min_clamp_add, Nat.min_comm,
      Nat.add_comm]
  · rw [hwt, hw, h0, Nat.zero_add, Nat.min_comm]

/-- A configuration with every bound 1, and accounts numbered. -/
abbrev Demo : Config :=
  { AccountId := Nat, MaxOrderCodeLength := 1, MaxMemberCodeLength := 1,
    MaxInstitutionIdLength := 1, MaxOrderItems := 1, MaxExpressCompanyLength := 1,
    MaxExpressNumberLength := 1 }

/-- One item of 3 units at `2 ^ 31` each: the amount saturates at the first item. -/
theorem create_order_totals_run :
    ∃ k o, BoundedVec.tryFrom [0] = some k ∧
      (afterCall (createOrder (T := Demo) (.signed 0) 0 [0] [0] [0] 5 none none none
        [([1], 3, 2147483648, 7)] (State.empty Demo))).orders k = some o ∧
      o.totalAmount.toNat = min (2 ^ 32 - 1) ((5 : BitVec 32).toNat + exactAmount [([1], 3, 2147483648, 7)]) ∧
      o.totalWeight.toNat = min (2 ^ 32 - 1) (exactWeight [([1], 3, 2147483648, 7)]) :=
  @create_order_totals_clamped Demo (.signed 0) 0 [0] [0] [0] 5 none none none
    [([1], 3, 2147483648, 7)] (State.empty Demo) _ rfl

/-- The one-byte code `[0]`. -/
def code0 : BoundedVec (BitVec 8) 1 := ⟨[0], by decide⟩

/-- Account 0 creates order `[0]` at block 3, one item of 3 units at 7 each, and pays it at
block 5. -/
def payRun : List (Origin Nat × Nat × Call) :=
  [(.signed 0, 3, .createOrder [0] [0] [0] 5 none none none [([1], 3, 7, 2)]),
   (.signed 0, 5, .updateOrderStatus [0] 1)]

end FissionMall.Order
