import Mathlib.Data.Int.Bitwise
import CompilerFront.Expr.Int128

/-!
Contract: what the bitwise operations do to each bit.

Owns:
- `testBit_toInt`, the bits of the integer that a word stands for: those of the word, and the top
  bit of the word in all higher places;
- the bits of the results of `and`, `or`, `xor` and `complement`, in every place.

The places of an integer do not end: a negative one has all bits set from some place on.
-/

namespace CompilerFront.Expr.Int128

/-- In two's complement, the top bit of a word goes on for ever. -/
theorem testBit_toInt (word : BitVec 128) (place : Nat) :
    word.toInt.testBit place = if place < 128 then word.getLsbD place else word.msb := by
  have below := word.isLt
  rw [BitVec.toInt_eq_msb_cond]
  cases top : word.msb with
  | false =>
    rw [if_neg Bool.false_ne_true]
    change word.toNat.testBit place = _
    rw [BitVec.testBit_toNat]
    split
    · rfl
    · rename_i high
      exact BitVec.getLsbD_of_ge word place (Nat.le_of_not_lt high)
  | true =>
    -- Below zero, the bits are those of what is missing to the highest word, each one flipped.
    have missing : (word.toNat : Int) - (2 ^ 128 : Nat) =
        Int.negSucc (2 ^ 128 - (word.toNat + 1)) := by
      omega
    rw [if_pos rfl, missing]
    change (!(2 ^ 128 - (word.toNat + 1)).testBit place) = _
    rw [Nat.testBit_two_pow_sub_succ below, BitVec.testBit_toNat]
    by_cases low : place < 128 <;> simp [low]

/-- In two's complement an integer goes on with its sign bit above the highest place of its type. -/
theorem testBit_eq (number : Int128) (place : Nat) :
    number.toInt.testBit place =
      if place < 128 then number.bits.getLsbD place else number.bits.msb := by
  have restored : number.bits.toInt = number.toInt := congrArg toInt number.ofBits_bits
  rw [← testBit_toInt, restored]

section Places

variable (left right : Int128) (place : Nat)

theorem testBit_and : (left.and right).toInt.testBit place =
    (left.toInt.testBit place && right.toInt.testBit place) := by
  change (left.bits &&& right.bits).toInt.testBit place = _
  rw [testBit_toInt, testBit_eq, testBit_eq, BitVec.getLsbD_and, BitVec.msb_and]
  split <;> rfl

theorem testBit_or : (left.or right).toInt.testBit place =
    (left.toInt.testBit place || right.toInt.testBit place) := by
  change (left.bits ||| right.bits).toInt.testBit place = _
  rw [testBit_toInt, testBit_eq, testBit_eq, BitVec.getLsbD_or, BitVec.msb_or]
  split <;> rfl

theorem testBit_xor : (left.xor right).toInt.testBit place =
    (left.toInt.testBit place ^^ right.toInt.testBit place) := by
  change (left.bits ^^^ right.bits).toInt.testBit place = _
  rw [testBit_toInt, testBit_eq, testBit_eq, BitVec.getLsbD_xor, BitVec.msb_xor]
  split <;> rfl

theorem testBit_complement : left.complement.toInt.testBit place = !left.toInt.testBit place := by
  have flipped : left.complement.toInt = left.toInt.lnot := by
    change -1 - left.toInt = _
    cases left.toInt <;> grind [Int.lnot]
  rw [flipped, Int.testBit_lnot]

end Places

end CompilerFront.Expr.Int128
