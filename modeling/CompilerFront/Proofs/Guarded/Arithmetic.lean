import CompilerFront.Proofs.Evaluation.Rejection
import CompilerFront.Proofs.Guarded.Machine

/-!
Contract: the rules of integers as programs on machine integers.

Owns:
- unchecked arithmetic, truncating remainders and shifts, each with its guard;
- `floorQuotient`, `floorRemainder`, `intBinary`, made of them by corrections and checks;
- that no guard is breached and that the programs come to the rules of
  `CompilerFront.Expr.Evaluation`.
-/

namespace CompilerFront.Expr.Guarded

/-! ## Programs -/

/-- Unchecked arithmetic, the result of which must be in range. -/
def exact (number : Int) : Except Breach Int128 :=
  match Int128.ofInt? number with
  | some bounded => .ok bounded
  | none => .error .arithmetic

/-- The quotient rounded to zero, where there is one in range. -/
def checkedQuotient (left right : Int128) : Option Int128 :=
  if right.toInt = 0 then none else Int128.ofInt? (left.toInt.tdiv right.toInt)

/-- The remainder of the quotient rounded to zero, which must not be asked for where there is no
such quotient. -/
def truncatedRemainder (left right : Int128) : Except Breach Int128 :=
  if right.toInt = 0 ∨ (left = Int128.least ∧ right.toInt = -1) then .error .division
  else exact (left.toInt.tmod right.toInt)

/-- The quotient rounded down: one less than the one rounded to zero, when the division leaves a
remainder and the signs differ. -/
def floorQuotient (left right : Int128) : Except Breach (Outcome Int128) := do
  if right.toInt = 0 then return .error .divisionByZero
  else
    match checkedQuotient left right with
    | none => return .error .overflow
    | some quotient =>
      let rest ← truncatedRemainder left right
      if rest.toInt ≠ 0 ∧ ¬(left.toInt < 0 ↔ right.toInt < 0) then
        let lower ← exact (quotient.toInt - 1)
        return .ok lower
      else return .ok quotient

/-- The remainder with the sign of the divisor. The divisor -1 has a case of its own, since the
least integer has no quotient by it. -/
def floorRemainder (left right : Int128) : Except Breach (Outcome Int128) := do
  if right.toInt = 0 then return .error .divisionByZero
  else if right.toInt = -1 then return .ok ⟨0, by decide, by decide⟩
  else
    let rest ← truncatedRemainder left right
    if rest.toInt ≠ 0 ∧ ¬(rest.toInt < 0 ↔ right.toInt < 0) then
      let corrected ← exact (rest.toInt + right.toInt)
      return .ok corrected
    else return .ok rest

/-- The bits moved to higher places; those moved beyond the highest are lost. -/
def shiftedLeft (number : Int128) (places : Nat) : Except Breach Int128 :=
  if places < 128 then .ok (Int128.ofBits (number.bits <<< places)) else .error .shiftAmount

def shiftedRight (number : Int128) (places : Nat) : Except Breach Int128 :=
  if places < 128 then .ok (number.shiftRight places) else .error .shiftAmount

/-- A shift to higher places, which is undone to find out whether bits are lost. -/
def checkedShiftLeft (number amount : Int128) : Except Breach (Outcome Int128) := do
  match Outcome.shiftAmount amount with
  | .error cause => return .error cause
  | .ok places =>
    let shifted ← shiftedLeft number places
    let undone ← shiftedRight shifted places
    if undone = number then return .ok shifted else return .error .overflow

def checkedShiftRight (number amount : Int128) : Except Breach (Outcome Int128) := do
  match Outcome.shiftAmount amount with
  | .error cause => return .error cause
  | .ok places =>
    let shifted ← shiftedRight number places
    return .ok shifted

/-- The rule of an operator on two integers. No operator comes here that does not ask for them. -/
def intBinary (operator : BinaryOperator) (left right : Int128) :
    Except Breach (Outcome Value) := do
  match operator with
  | .add => return (Outcome.ofInt (left.toInt + right.toInt)).map .int
  | .subtract => return (Outcome.ofInt (left.toInt - right.toInt)).map .int
  | .multiply => return (Outcome.ofInt (left.toInt * right.toInt)).map .int
  | .divide =>
    let outcome ← floorQuotient left right
    return outcome.map .int
  | .modulo =>
    let outcome ← floorRemainder left right
    return outcome.map .int
  | .bitAnd => return .ok (.int (left.and right))
  | .bitOr => return .ok (.int (left.or right))
  | .bitXor => return .ok (.int (left.xor right))
  | .shiftLeft =>
    let outcome ← checkedShiftLeft left right
    return outcome.map .int
  | .shiftRight =>
    let outcome ← checkedShiftRight left right
    return outcome.map .int
  | .less => return .ok (.bool (decide (left.toInt < right.toInt)))
  | .lessEqual => return .ok (.bool (decide (left.toInt ≤ right.toInt)))
  | .greater => return .ok (.bool (decide (right.toInt < left.toInt)))
  | .greaterEqual => return .ok (.bool (decide (right.toInt ≤ left.toInt)))
  | .or | .and | .equal | .notEqual => .error .unreachable

/-! ## Ranges -/

theorem exact_toInt (bounded : Int128) : exact bounded.toInt = .ok bounded := by
  rw [exact, Int128.ofInt?_toInt]

theorem ofInt_toInt (bounded : Int128) : Outcome.ofInt bounded.toInt = .ok bounded := by
  rw [Outcome.ofInt, Int128.ofInt?_toInt]

/-- In range, unchecked arithmetic comes to what checked arithmetic comes to. -/
theorem exists_of_inRange {number : Int} (inRange : InRange number) :
    ∃ bounded, bounded.toInt = number ∧ exact number = .ok bounded ∧
      Outcome.ofInt number = .ok bounded := by
  obtain ⟨lower, upper⟩ := inRange
  refine ⟨⟨number, lower, upper⟩, rfl, ?_, ?_⟩
  · exact exact_toInt ⟨number, lower, upper⟩
  · exact ofInt_toInt ⟨number, lower, upper⟩

theorem inRange_of_natAbs_lt {number : Int} (small : number.natAbs < 2 ^ 127) :
    InRange number := by
  unfold InRange
  omega

theorem natAbs_le (bounded : Int128) : bounded.toInt.natAbs ≤ 2 ^ 127 := by
  have lower := bounded.lower_le
  have upper := bounded.lt_upper
  omega

theorem inRange_tmod (left right : Int128) (nonzero : right.toInt ≠ 0) :
    InRange (left.toInt.tmod right.toInt) := by
  apply inRange_of_natAbs_lt
  have divisor := natAbs_le right
  have positive : 0 < right.toInt.natAbs := Int.natAbs_pos.mpr nonzero
  have below := Nat.mod_lt left.toInt.natAbs positive
  rw [Int.natAbs_tmod]
  omega

/-- A division that leaves a remainder at least halves. -/
theorem two_mul_natAbs_tdiv_le {left right : Int} (nonzero : right ≠ 0)
    (remains : left.tmod right ≠ 0) : 2 * (left.tdiv right).natAbs ≤ left.natAbs := by
  have notOne : right.natAbs ≠ 1 := by
    intro one
    have same := Int.natAbs_tmod left right
    rw [one, Nat.mod_one] at same
    exact remains (Int.natAbs_eq_zero.mp same)
  have quotient : (left.tdiv right).natAbs = left.natAbs / right.natAbs :=
    Int.natAbs_tdiv left right
  have halved : left.natAbs / right.natAbs ≤ left.natAbs / 2 :=
    Nat.div_le_div_left (by omega) (by decide)
  omega

/-- Of all quotients by a divisor other than zero just one is out of range. -/
theorem not_least_of_inRange_tdiv {left right : Int128}
    (inRange : InRange (left.toInt.tdiv right.toInt)) :
    ¬(left = Int128.least ∧ right.toInt = -1) := by
  rintro ⟨rfl, minusOne⟩
  rw [minusOne] at inRange
  exact absurd inRange.2 (by decide)

/-! ## Division -/

/-- Rounding down differs from rounding to zero when something remains and the signs differ. -/
theorem fdiv_eq_ite {left right : Int} (nonzero : right ≠ 0) :
    left.fdiv right =
      if left.tmod right ≠ 0 ∧ ¬(left < 0 ↔ right < 0) then left.tdiv right - 1
      else left.tdiv right := by
  rw [Int.fdiv_eq_tdiv]
  by_cases divides : right ∣ left
  · have noRest := Int.dvd_iff_tmod_eq_zero.mp divides
    simp [divides, noRest]
  · have remains : left.tmod right ≠ 0 := mt Int.dvd_iff_tmod_eq_zero.mpr divides
    rcases Int.lt_or_gt_of_ne nonzero with negative | positive
    · have sign := Int.sign_eq_neg_one_of_neg negative
      simp only [divides, sign, ↓reduceIte]
      split <;> omega
    · have sign := Int.sign_eq_one_of_pos positive
      simp only [divides, sign, ↓reduceIte]
      split <;> omega

/-- The remainder of the one rounding is corrected to that of the other by the divisor. -/
theorem fmod_eq_ite (left right : Int) :
    left.fmod right =
      if left.tmod right ≠ 0 ∧ ¬(left.tmod right < 0 ↔ right < 0) then left.tmod right + right
      else left.tmod right := by
  rw [Int.fmod_eq_tmod]
  by_cases divides : right ∣ left
  · have noRest := Int.dvd_iff_tmod_eq_zero.mp divides
    simp [divides, noRest]
  · have remains : left.tmod right ≠ 0 := mt Int.dvd_iff_tmod_eq_zero.mpr divides
    by_cases negative : left < 0
    · have nonnegative := Int.tmod_nonneg right (show 0 ≤ -left by omega)
      rw [Int.neg_tmod] at nonnegative
      simp only [divides, ↓reduceIte]
      split <;> omega
    · have nonnegative := Int.tmod_nonneg right (show 0 ≤ left by omega)
      simp only [divides, ↓reduceIte]
      split <;> omega

theorem truncatedRemainder_eq {left right : Int128} (nonzero : right.toInt ≠ 0)
    (notLeast : ¬(left = Int128.least ∧ right.toInt = -1)) :
    ∃ rest, rest.toInt = left.toInt.tmod right.toInt ∧
      truncatedRemainder left right = .ok rest := by
  obtain ⟨rest, denotes, computed, -⟩ := exists_of_inRange (inRange_tmod left right nonzero)
  refine ⟨rest, denotes, ?_⟩
  rw [truncatedRemainder, if_neg (not_or.mpr ⟨nonzero, notLeast⟩), computed]

/-- The quotient rounded down is in range where the one rounded to zero is, and nowhere else. -/
theorem inRange_fdiv_iff {left right : Int128} (nonzero : right.toInt ≠ 0) :
    InRange (left.toInt.fdiv right.toInt) ↔ InRange (left.toInt.tdiv right.toInt) := by
  rw [fdiv_eq_ite nonzero]
  split
  · rename_i corrected
    have halves := two_mul_natAbs_tdiv_le nonzero corrected.1
    have dividend := natAbs_le left
    unfold InRange
    omega
  · exact Iff.rfl

/-- The corrected quotient is the one rounded down, and correcting it never leaves the range. -/
theorem floorQuotient_eq (left right : Int128) :
    floorQuotient left right = .ok (Outcome.quotient left right) := by
  unfold floorQuotient Outcome.quotient
  by_cases zero : right.toInt = 0
  · simp only [zero, ↓reduceIte]
    rfl
  · rw [if_neg zero, if_neg zero, checkedQuotient, if_neg zero]
    -- Correcting never decides whether there is a quotient: where it is made, the one rounded to
    -- zero is at most half of the dividend.
    by_cases inRange : InRange (left.toInt.tdiv right.toInt)
    · obtain ⟨quotient, denotes, -, -⟩ := exists_of_inRange inRange
      obtain ⟨rest, restDenotes, restComputed⟩ :=
        truncatedRemainder_eq zero (not_least_of_inRange_tdiv inRange)
      have floored := (inRange_fdiv_iff zero).mpr inRange
      rw [← denotes, Int128.ofInt?_toInt, restComputed]
      rw [fdiv_eq_ite zero, ← denotes, ← restDenotes] at floored ⊢
      by_cases corrected : rest.toInt ≠ 0 ∧ ¬(left.toInt < 0 ↔ right.toInt < 0)
      · rw [if_pos corrected] at floored ⊢
        obtain ⟨lower, -, computed, checked⟩ := exists_of_inRange floored
        show (if _ then _ else _) = _
        rw [if_pos corrected, computed, checked]
        rfl
      · rw [if_neg corrected, ofInt_toInt]
        exact if_neg corrected
    · have missing := Int128.ofInt?_eq_none_iff.mpr inRange
      have outside := mt (inRange_fdiv_iff zero).mp inRange
      rw [missing, ofInt_eq_error_iff.mpr ⟨outside, rfl⟩]
      rfl

/-- The corrected remainder has the sign of the divisor, and correcting it never leaves the
range. -/
theorem floorRemainder_eq (left right : Int128) :
    floorRemainder left right = .ok (Outcome.remainder left right) := by
  unfold floorRemainder Outcome.remainder
  by_cases zero : right.toInt = 0
  · simp only [zero, ↓reduceIte]
    rfl
  · rw [if_neg zero, if_neg zero]
    by_cases minusOne : right.toInt = -1
    · have nothing : left.toInt.fmod (-1) = 0 := by
        rw [fmod_eq_ite, Int.tmod_neg, Int.tmod_one]
        rfl
      rw [if_pos minusOne, minusOne, nothing]
      rfl
    · have floored := inRange_fmod left right zero
      obtain ⟨rest, denotes, computed⟩ :=
        truncatedRemainder_eq zero (fun least : left = Int128.least ∧ _ => minusOne least.2)
      rw [if_neg minusOne, computed]
      rw [fmod_eq_ite, ← denotes] at floored ⊢
      by_cases corrected : rest.toInt ≠ 0 ∧ ¬(rest.toInt < 0 ↔ right.toInt < 0)
      · rw [if_pos corrected] at floored ⊢
        obtain ⟨sum, -, sumComputed, checked⟩ := exists_of_inRange floored
        show (if _ then _ else _) = _
        rw [if_pos corrected, sumComputed, checked]
        rfl
      · rw [if_neg corrected, ofInt_toInt]
        exact if_neg corrected

/-! ## Shifts -/

/-- The check in front of the shift is what keeps its amount below the width. -/
theorem lt_of_shiftAmount_eq_ok {amount : Int128} {places : Nat}
    (accepted : Outcome.shiftAmount amount = .ok places) : places < 128 := by
  unfold Outcome.shiftAmount at accepted
  split at accepted
  · cases accepted
    omega
  · cases accepted

/-- Shifting to higher places multiplies, up to a multiple of the number of all words. -/
theorem toInt_ofBits_shiftLeft (number : Int128) (places : Nat) :
    (Int128.ofBits (number.bits <<< places)).toInt =
      (number.toInt * 2 ^ places).bmod (2 ^ 128) := by
  have power : BitVec.twoPow 128 places = BitVec.ofInt 128 (2 ^ places) := by
    have cast : (2 ^ places : Int) = ((2 ^ places : Nat) : Int) := by norm_cast
    apply BitVec.eq_of_toNat_eq
    rw [cast, BitVec.ofInt_natCast, BitVec.toNat_twoPow, BitVec.toNat_ofNat]
  show (number.bits <<< places).toInt = _
  rw [Int128.bits, BitVec.shiftLeft_eq_mul_twoPow, power, ← BitVec.ofInt_mul, BitVec.toInt_ofInt]

/-- The bits that a shift to fewer than 128 places leaves behind are zero. -/
theorem two_pow_dvd_shiftLeft (number : Int128) {places : Nat} (fits : places < 128) :
    (2 ^ places : Int) ∣ (Int128.ofBits (number.bits <<< places)).toInt := by
  have words : (2 ^ places : Int) ∣ ((2 ^ 128 : Nat) : Int) := by
    have powers : (2 ^ places : Nat) ∣ 2 ^ 128 := pow_dvd_pow 2 (Nat.le_of_lt fits)
    exact_mod_cast powers
  have split := Int.bmod_add_bdiv (number.toInt * 2 ^ places) (2 ^ 128)
  rw [← toInt_ofBits_shiftLeft] at split
  rw [← add_sub_cancel_right (Int128.toInt _) _, split]
  exact Int.dvd_sub (Int.dvd_mul_left _ _) (dvd_mul_of_dvd_left words _)

/-- Undoing a shift gives the integer back exactly when the shift has multiplied it. -/
theorem shiftRight_shiftLeft_eq_iff (number : Int128) {places : Nat} (fits : places < 128) :
    (Int128.ofBits (number.bits <<< places)).shiftRight places = number ↔
      (Int128.ofBits (number.bits <<< places)).toInt = number.toInt * 2 ^ places := by
  have divides := two_pow_dvd_shiftLeft number fits
  generalize Int128.ofBits (number.bits <<< places) = shifted at divides ⊢
  have undone : (shifted.shiftRight places).toInt = shifted.toInt / 2 ^ places := by
    show shifted.toInt >>> places = _
    rw [Int.shiftRight_eq_div_pow]
    norm_cast
  constructor
  · -- The shift is a multiple of the power, so dividing and multiplying again gives the shift back.
    intro same
    rw [← same, undone, Int.ediv_mul_cancel divides]
  · intro product
    have nonzero : (2 ^ places : Int) ≠ 0 := by positivity
    apply Int128.ext
    rw [undone, product, Int.mul_ediv_cancel _ nonzero]

/-- Shifting in 128 bits loses nothing exactly if the product is in range. -/
theorem shiftLeft_eq_product_iff (number : Int128) (places : Nat) :
    (Int128.ofBits (number.bits <<< places)).toInt = number.toInt * 2 ^ places ↔
      InRange (number.toInt * 2 ^ places) := by
  constructor
  · intro product
    rw [← product]
    exact ⟨Int128.lower_le _, Int128.lt_upper _⟩
  · rintro ⟨lower, upper⟩
    rw [toInt_ofBits_shiftLeft]
    apply Int.bmod_eq_of_le <;> omega

/-- A shift that is undone to find lost bits has the outcome of a checked product. -/
theorem checkedShiftLeft_eq (number amount : Int128) :
    checkedShiftLeft number amount = .ok (Outcome.shiftLeft number amount) := by
  unfold checkedShiftLeft Outcome.shiftLeft
  cases accepted : Outcome.shiftAmount amount with
  | error cause => rfl
  | ok places =>
    have fits := lt_of_shiftAmount_eq_ok accepted
    have undone := shiftRight_shiftLeft_eq_iff number fits
    rw [shiftLeft_eq_product_iff] at undone
    have shifted : shiftedLeft number places = .ok (Int128.ofBits (number.bits <<< places)) :=
      if_pos fits
    have back (word : Int128) : shiftedRight word places = .ok (word.shiftRight places) :=
      if_pos fits
    rw [Except.bind, Int.shiftLeft_eq]
    show (shiftedLeft number places >>= _) = _
    rw [shifted]
    show (shiftedRight _ places >>= _) = _
    rw [back]
    show (if _ then _ else _) = _
    by_cases inRange : InRange (number.toInt * 2 ^ places)
    · have product := (shiftLeft_eq_product_iff number places).mpr inRange
      rw [if_pos (undone.mpr inRange), ← product, ofInt_toInt]
      rfl
    · rw [if_neg (mt undone.mp inRange), ofInt_eq_error_iff.mpr ⟨inRange, rfl⟩]
      rfl

theorem checkedShiftRight_eq (number amount : Int128) :
    checkedShiftRight number amount = .ok (Outcome.shiftRight number amount) := by
  unfold checkedShiftRight Outcome.shiftRight
  cases accepted : Outcome.shiftAmount amount with
  | error cause => rfl
  | ok places =>
    have fits := lt_of_shiftAmount_eq_ok accepted
    have shifted : shiftedRight number places = .ok (number.shiftRight places) := if_pos fits
    show (shiftedRight number places >>= _) = _
    rw [shifted]
    rfl

/-! ## Operators -/

/-- Where an operator asks for two integers, the program breaches no guard and comes to its rule. -/
theorem intBinary_eq {operator : BinaryOperator} {intOperator : IntOperator}
    (role : operator.role = .integer intOperator) (left right : Int128) :
    intBinary operator left right = .ok (intOperator.apply left right) := by
  cases operator with
  | or | and | equal | notEqual => cases role
  | divide =>
    cases role
    rw [intBinary, floorQuotient_eq]
    rfl
  | modulo =>
    cases role
    rw [intBinary, floorRemainder_eq]
    rfl
  | shiftLeft =>
    cases role
    rw [intBinary, checkedShiftLeft_eq]
    rfl
  | shiftRight =>
    cases role
    rw [intBinary, checkedShiftRight_eq]
    rfl
  | _ =>
    cases role
    rfl

end CompilerFront.Expr.Guarded
