import Mathlib.Data.List.TakeWhile
import CompilerFront.Expr.Lexer

/-!
Contract: a string literal takes characters of its own, whatever stands behind them.

Owns:
- `Takes`, by which a reader takes exactly some characters at the head of any text;
- `takes_of_readEscape` and `takes_of_readString`, by which what is read off one text is taken in
  the same way off every other.

Does not own: which escapes there are and what they denote.
-/

namespace CompilerFront.Expr

/-- At the head of every text the reader takes these characters for the value, and no others. -/
def Takes {Content : Type} (read : List Char → Except LexicalFault (Scanned Content))
    (taken : List Char) (value : Content) : Prop :=
  ∀ rest, read (taken ++ rest) = .ok ⟨value, taken.length, rest⟩

section Escapes

variable {text : List Char} {scanned : Scanned Char}

theorem takes_of_readHexEscape {count : Nat} (read : readHexEscape count text = .ok scanned) :
    ∃ taken, text = taken ++ scanned.rest ∧ taken.length = count ∧
      Takes (readHexEscape count) taken scanned.value := by
  unfold readHexEscape at read
  split at read
  · rename_i digits
    obtain ⟨character, found, rfl⟩ := map_eq_ok_iff.mp read
    have filled : (text.take count).length = count := by
      rw [Bool.and_eq_true, beq_iff_eq] at digits
      exact digits.1
    refine ⟨text.take count, (List.take_append_drop count text).symm, filled, fun rest => ?_⟩
    rw [readHexEscape, List.take_left' filled, List.drop_left' filled, if_pos digits, found, filled]
    rfl
  · cases read

theorem takes_of_readBracedEscape (read : readBracedEscape text = .ok scanned) :
    ∃ taken, text = taken ++ scanned.rest ∧ Takes readBracedEscape taken scanned.value := by
  unfold readBracedEscape at read
  split at read
  · rename_i behind _ left
    split at read
    · cases read
    · rename_i few
      obtain ⟨character, found, rfl⟩ := map_eq_ok_iff.mp read
      have digits : ∀ digit ∈ text.takeWhile (isDigitOf 16), isDigitOf 16 digit = true :=
        fun _ member => List.mem_takeWhile_imp member
      refine ⟨text.takeWhile (isDigitOf 16) ++ ['\x7d'], ?_, fun rest => ?_⟩
      · rw [List.append_assoc, List.singleton_append, ← left, List.takeWhile_append_dropWhile]
      · have taken : (text.takeWhile (isDigitOf 16) ++ '\x7d' :: rest).takeWhile (isDigitOf 16) =
            text.takeWhile (isDigitOf 16) := by
          rw [List.takeWhile_append_of_pos digits]
          exact List.append_nil _
        have closed : (text.takeWhile (isDigitOf 16) ++ '\x7d' :: rest).dropWhile (isDigitOf 16) =
            '\x7d' :: rest := by
          rw [List.dropWhile_append_of_pos digits]
          rfl
        rw [List.append_assoc, List.singleton_append, readBracedEscape, taken, closed]
        simp only [few, found, Bool.false_eq_true, ↓reduceIte, Except.map, List.length_append,
          List.length_cons, List.length_nil, Nat.zero_add]
  · cases read

/-- What one more reader takes behind fixed characters, the two take together. -/
theorem Takes.behind {read whole : List Char → Except LexicalFault (Scanned Char)}
    {start taken : List Char} {value : Char} (takes : Takes read taken value)
    (whole_eq : ∀ rest, whole (start ++ rest) = (read rest).map (·.widen start.length)) :
    Takes whole (start ++ taken) value := by
  intro rest
  rw [List.append_assoc, whole_eq, takes rest, List.length_append, Nat.add_comm]
  rfl

/-- An escape takes its own characters whatever follows, since each form says by itself where it
ends. -/
theorem takes_of_readEscape (read : readEscape text = .ok scanned) :
    ∃ taken, text = taken ++ scanned.rest ∧ Takes readEscape taken scanned.value := by
  unfold readEscape at read
  split at read
  case h_10 rest =>
    obtain ⟨inner, innerRead, rfl⟩ := map_eq_ok_iff.mp read
    obtain ⟨taken, rfl, -, takes⟩ := takes_of_readHexEscape innerRead
    exact ⟨['x'] ++ taken, rfl, takes.behind fun _ => rfl⟩
  case h_11 rest =>
    obtain ⟨inner, innerRead, rfl⟩ := map_eq_ok_iff.mp read
    obtain ⟨taken, rfl, takes⟩ := takes_of_readBracedEscape innerRead
    exact ⟨['u', '\x7b'] ++ taken, rfl, takes.behind fun _ => rfl⟩
  case h_12 rest noBrace =>
    obtain ⟨inner, innerRead, rfl⟩ := map_eq_ok_iff.mp read
    obtain ⟨taken, rfl, four, takes⟩ := takes_of_readHexEscape innerRead
    -- there are digits, and so no brace can come to stand behind the letter with another rest
    cases taken with
    | nil => cases four
    | cons digit digits =>
      refine ⟨['u'] ++ digit :: digits, rfl, fun rest => ?_⟩
      rw [List.singleton_append, List.cons_append, readEscape, takes rest]
      · rfl
      · rintro more shape
        cases shape
        exact noBrace _ rfl
  all_goals cases read
  all_goals exact ⟨[_], rfl, fun _ => rfl⟩

end Escapes

/-- The characters of a string that ends are taken from wherever they stand. -/
theorem takes_of_readString {decoded : List Char} {width : Nat} {text : List Char}
    {scanned : Scanned String} (read : readString decoded width text = .ok scanned) :
    ∃ taken, text = taken ++ scanned.rest ∧
      ∀ rest, readString decoded width (taken ++ rest) =
        .ok ⟨scanned.value, width + taken.length, rest⟩ := by
  fun_induction readString decoded width text with
  | case1 => cases read
  | case2 decoded width rest =>
    cases read
    exact ⟨['"'], rfl, fun _ => by rw [List.singleton_append, readString]; rfl⟩
  | case3 => cases read
  | case4 => cases read
  | case5 decoded width rest inner innerRead inductionHypothesis =>
    obtain ⟨escape, rfl, takes⟩ := takes_of_readEscape innerRead
    obtain ⟨others, others_eq, reads⟩ := inductionHypothesis read
    have width_eq : inner.width = escape.length :=
      congrArg Scanned.width (Except.ok.inj (innerRead.symm.trans (takes inner.rest)))
    refine ⟨'\\' :: (escape ++ others), ?_, fun rest => ?_⟩
    · rw [others_eq, List.cons_append, List.append_assoc]
    · rw [List.cons_append, List.append_assoc, readString, takes]
      have readOthers := reads rest
      rw [width_eq] at readOthers
      refine readOthers.trans ?_
      simp only [List.length_cons, List.length_append]
      congr 2
      omega
  | case6 decoded width other rest noQuote noBreak noBackslash inductionHypothesis =>
    obtain ⟨others, rfl, reads⟩ := inductionHypothesis read
    refine ⟨other :: others, rfl, fun rest => ?_⟩
    rw [List.cons_append, readString.eq_5 _ _ _ _ noQuote noBreak noBackslash, reads rest,
      List.length_cons, Nat.add_assoc, Nat.add_comm 1]

end CompilerFront.Expr
