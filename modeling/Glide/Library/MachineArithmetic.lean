import Mathlib.Algebra.Group.Nat.Defs
import Mathlib.Data.Nat.Basic

/-! Unsigned arithmetic in a given number of bits. A computation keeps, beside the
number that the machine gets, whether every operation so far got the number of
unbounded arithmetic. -/
namespace Glide.Library.MachineArithmetic

structure Computed (α : Type) where
  value : α
  fits : Bool
deriving DecidableEq

instance : Monad Computed where
  pure value := ⟨value, true⟩
  bind first next :=
    ⟨(next first.value).value, first.fits && (next first.value).fits⟩

instance : LawfulMonad Computed := LawfulMonad.mk' Computed
  (fun _ => congrArg (Computed.mk _) (Bool.and_true _))
  (fun _ _ => congrArg (Computed.mk _) (Bool.true_and _))
  (fun _ _ _ => congrArg (Computed.mk _) (Bool.and_assoc _ _ _))

@[simp] theorem value_pure (value : α) : (pure value : Computed α).value = value := rfl

@[simp] theorem fits_pure (value : α) : (pure value : Computed α).fits = true := rfl

@[simp] theorem value_bind (first : Computed α) (next : α → Computed β) :
    (first >>= next).value = (next first.value).value := rfl

@[simp] theorem fits_bind (first : Computed α) (next : α → Computed β) :
    (first >>= next).fits = (first.fits && (next first.value).fits) := rfl

/-- A number that a type of so many bits is to hold. -/
def hold (bits number : Nat) : Computed Nat := ⟨number % 2 ^ bits, number < 2 ^ bits⟩

def add (bits left right : Nat) : Computed Nat := hold bits (left + right)

def mul (bits left right : Nat) : Computed Nat := hold bits (left * right)

/-- The difference of two numbers of the type. -/
def sub (bits left right : Nat) : Computed Nat :=
  ⟨(2 ^ bits + left - right) % 2 ^ bits, right ≤ left⟩

theorem hold_eq (small : number < 2 ^ bits) : hold bits number = pure number := by
  unfold hold
  rw [Nat.mod_eq_of_lt small, decide_eq_true small]
  rfl

theorem add_eq (small : left + right < 2 ^ bits) : add bits left right = pure (left + right) :=
  hold_eq small

theorem mul_eq (small : left * right < 2 ^ bits) : mul bits left right = pure (left * right) :=
  hold_eq small

theorem sub_eq (held : left < 2 ^ bits) (order : right ≤ left) :
    sub bits left right = pure (left - right) := by
  unfold sub
  rw [show 2 ^ bits + left - right = 2 ^ bits + (left - right) by omega, Nat.add_mod_left,
    Nat.mod_eq_of_lt (by omega), decide_eq_true order]
  rfl

/-- Two numbers of 32 bits have a product of 64. -/
theorem mul_words (left right : UInt32) :
    mul 64 left.toNat right.toNat = pure (left.toNat * right.toNat) := by
  apply mul_eq
  calc left.toNat * right.toNat < 2 ^ 32 * 2 ^ 32 :=
        Nat.mul_lt_mul'' left.toNat_lt right.toNat_lt
    _ = 2 ^ 64 := by decide

end Glide.Library.MachineArithmetic
