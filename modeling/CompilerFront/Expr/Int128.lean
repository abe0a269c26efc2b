/-!
Contract: the integers of constant expressions, which lie in [-2^127, 2^127 - 1].

Owns:
- the type `Int128` and its checked constructor `ofInt?`, the only way in from unbounded integers;
- the bitwise operations, which never leave the range;
- the text of an integer.

Does not own: which operation fails with which error; that is the evaluator's.
-/

namespace CompilerFront.Expr

/-- An integer between -2^127 and 2^127 - 1; the number in the bounds is 2^127. -/
structure Int128 where
  toInt : Int
  lower_le : -170141183460469231731687303715884105728 ≤ toInt
  lt_upper : toInt < 170141183460469231731687303715884105728
deriving DecidableEq, Repr

namespace Int128

def ofInt? (number : Int) : Option Int128 :=
  if inRange : -170141183460469231731687303715884105728 ≤ number ∧
      number < 170141183460469231731687303715884105728 then
    some ⟨number, inRange.1, inRange.2⟩
  else
    none

def least : Int128 := ⟨-170141183460469231731687303715884105728, by decide, by decide⟩

theorem ext {left right : Int128} (same : left.toInt = right.toInt) : left = right := by
  cases left
  cases right
  simp_all

/-- The checked constructor gives the integer itself, and gives it exactly in range. -/
theorem ofInt?_eq_some_iff {number : Int} {bounded : Int128} :
    ofInt? number = some bounded ↔ bounded.toInt = number := by
  unfold ofInt?
  split
  · constructor
    · rintro ⟨⟩
      rfl
    · rintro rfl
      rfl
  · rename_i outside
    constructor
    · intro impossible
      cases impossible
    · rintro rfl
      exact absurd ⟨bounded.lower_le, bounded.lt_upper⟩ outside

/-- The checked constructor refuses exactly the integers out of range. -/
theorem ofInt?_eq_none_iff {number : Int} :
    ofInt? number = none ↔
      ¬(-170141183460469231731687303715884105728 ≤ number ∧
        number < 170141183460469231731687303715884105728) := by
  unfold ofInt?
  split
  · rename_i inside
    constructor
    · intro impossible
      cases impossible
    · intro outside
      exact absurd inside outside
  · rename_i outside
    exact ⟨fun _ => outside, fun _ => rfl⟩

@[simp] theorem ofInt?_toInt (bounded : Int128) : ofInt? bounded.toInt = some bounded :=
  ofInt?_eq_some_iff.mpr rfl

/-! ## Two's complement -/

/-- The 128 low bits of the two's complement expansion. -/
def bits (number : Int128) : BitVec 128 := BitVec.ofInt 128 number.toInt

/-- The integer whose two's complement expansion repeats the top bit of the 128 given. -/
def ofBits (word : BitVec 128) : Int128 :=
  ⟨word.toInt,
    by have := word.le_toInt; simpa using this,
    by have := word.toInt_lt; simpa using this⟩

@[simp] theorem ofBits_bits (number : Int128) : ofBits number.bits = number := by
  apply ext
  have lower := number.lower_le
  have upper := number.lt_upper
  simp only [ofBits, bits]
  rw [BitVec.toInt_ofInt, Int.bmod_eq_of_le] <;> omega

def and (left right : Int128) : Int128 := ofBits (left.bits &&& right.bits)

def or (left right : Int128) : Int128 := ofBits (left.bits ||| right.bits)

def xor (left right : Int128) : Int128 := ofBits (left.bits ^^^ right.bits)

/-- The complement of an integer, bit by bit: -1 less the integer. -/
def complement (number : Int128) : Int128 :=
  ⟨-1 - number.toInt,
    by have := number.lt_upper; omega,
    by have := number.lower_le; omega⟩

/-- Division by a positive integer keeps an integer above any bound that is not positive. -/
theorem le_ediv_of_le {bound number divisor : Int} (nonpositive : bound ≤ 0)
    (above : bound ≤ number) (positive : 0 < divisor) : bound ≤ number / divisor := by
  apply Int.le_ediv_of_mul_le positive
  have grows := Int.mul_le_mul_of_nonpos_left nonpositive (show 1 ≤ divisor from positive)
  rw [Int.mul_one] at grows
  exact Int.le_trans grows above

/-- Division by a positive integer keeps an integer below any bound that is not negative. -/
theorem ediv_lt_of_lt {bound number divisor : Int} (nonnegative : 0 ≤ bound)
    (below : number < bound) (positive : 0 < divisor) : number / divisor < bound := by
  apply Int.ediv_lt_of_lt_mul positive
  have grows := Int.mul_le_mul_of_nonneg_left (show 1 ≤ divisor from positive) nonnegative
  rw [Int.mul_one] at grows
  exact Int.lt_of_lt_of_le below grows

/-- The integer divided by a power of two, rounded down: its bits move to lower places. -/
def shiftRight (number : Int128) (amount : Nat) : Int128 where
  toInt := number.toInt >>> amount
  lower_le := by
    rw [Int.shiftRight_eq_div_pow]
    exact le_ediv_of_le (by decide) number.lower_le (Int.natCast_pos.mpr (Nat.two_pow_pos amount))
  lt_upper := by
    rw [Int.shiftRight_eq_div_pow]
    exact ediv_lt_of_lt (by decide) number.lt_upper (Int.natCast_pos.mpr (Nat.two_pow_pos amount))

/-! ## Text -/

/-- The decimal digits of the integer, after a minus when it is negative. -/
def text (number : Int128) : List Char :=
  if number.toInt < 0 then
    '-' :: Nat.toDigits 10 number.toInt.natAbs
  else
    Nat.toDigits 10 number.toInt.natAbs

end Int128

end CompilerFront.Expr
