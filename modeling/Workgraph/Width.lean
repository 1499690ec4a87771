/-!
# Bounds of integers of a fixed width

Documents and paths hold integers that must fit 8, 32 or 64 bits. The bounds are written out, so
that a comparison with them is decided by evaluation.
-/

namespace Workgraph.Width

/-! ## 1. Without a sign -/

/-- The greatest natural number of 8 bits. -/
def natural8 : Nat := 255

/-- The greatest natural number of 32 bits. -/
def natural32 : Nat := 4294967295

/-- The greatest natural number of 64 bits. -/
def natural64 : Nat := 18446744073709551615

example : natural8 + 1 = Nat.pow 2 8 ∧ natural32 + 1 = Nat.pow 2 32 ∧
    natural64 + 1 = Nat.pow 2 64 := by decide

/-! ## 2. With a sign -/

/-- The least integer of 32 bits. -/
def least32 : Int := -2147483648

/-- The greatest integer of 32 bits. -/
def greatest32 : Int := 2147483647

/-- The least integer of 64 bits. -/
def least64 : Int := -9223372036854775808

/-- The greatest integer of 64 bits. -/
def greatest64 : Int := 9223372036854775807

example : greatest32 + 1 = Nat.pow 2 31 ∧ least32 = -(greatest32 + 1) ∧
    greatest64 + 1 = Nat.pow 2 63 ∧ least64 = -(greatest64 + 1) := by decide

end Workgraph.Width
