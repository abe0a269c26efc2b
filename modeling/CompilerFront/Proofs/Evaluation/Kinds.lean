import CompilerFront.Proofs.Evaluation.Rejection

/-!
Contract: the kinds of expression trees, and what evaluation gives where a tree has one.

Owns:
- the signatures of the operators, `UnaryOperator.result?` and `BinaryOperator.result?`;
- `HasKind`, the trees of a kind, and `Tree.kind?`, which finds the kind;
- `evaluate_of_hasKind`: a tree of a kind has a value of this kind or a fault that lies in the
  values of its operands, and never one that lies in their kinds.

A tree without a kind may have a value as well: an operand that is not evaluated is not checked.
-/

namespace CompilerFront.Expr

/-! ## Signatures -/

/-- The kind of the results of an operator on an operand of some kind, when it takes that kind. -/
def UnaryOperator.result? (operator : UnaryOperator) (operand : Kind) : Option Kind :=
  match operator with
  | .negate | .plus | .complement => if operand = .int then some .int else none
  | .not => if operand = .bool then some .bool else none
  | .nonNull => some operand

/-- The kind of the results of an operator on operands of some kinds, when it takes those kinds.
An equality also compares null with anything. -/
def BinaryOperator.result? (operator : BinaryOperator) (left right : Kind) : Option Kind :=
  match operator with
  | .or | .and => if left = .bool ∧ right = .bool then some .bool else none
  | .equal | .notEqual =>
    if left = right ∨ left = .null ∨ right = .null then some .bool else none
  | .less | .lessEqual | .greater | .greaterEqual =>
    if left = .int ∧ right = .int then some .bool else none
  | .add | .subtract | .multiply | .divide | .modulo | .shiftLeft | .shiftRight | .bitAnd | .bitOr
  | .bitXor => if left = .int ∧ right = .int then some .int else none

theorem operands_of_logical {operator : BinaryOperator} {goesOn : Bool} {left right kind : Kind}
    (logical : operator.continuesOn = some goesOn)
    (takes : operator.result? left right = some kind) :
    left = .bool ∧ right = .bool ∧ kind = .bool := by
  cases operator with
  | or | and =>
    obtain ⟨⟨leftBool, rightBool⟩, rfl⟩ : (left = .bool ∧ right = .bool) ∧ .bool = kind := by
      simpa [BinaryOperator.result?] using takes
    exact ⟨leftBool, rightBool, rfl⟩
  | _ => cases logical

/-- Comparing with `null` is allowed on either side, whatever the other kind is. -/
theorem operands_of_comparison {operator : BinaryOperator} {left right kind : Kind}
    (compares : operator.Compares) (takes : operator.result? left right = some kind) :
    (left = right ∨ left = .null ∨ right = .null) ∧ kind = .bool := by
  rcases compares with rfl | rfl
  all_goals
    obtain ⟨comparable, rfl⟩ :
        (left = right ∨ left = .null ∨ right = .null) ∧ .bool = kind := by
      simpa [BinaryOperator.result?] using takes
    exact ⟨comparable, rfl⟩

theorem operands_of_integer {operator : BinaryOperator} {intOperator : IntOperator}
    {left right kind : Kind} (role : operator.role = .integer intOperator)
    (takes : operator.result? left right = some kind) : left = .int ∧ right = .int := by
  cases operator with
  | or | and | equal | notEqual => cases role
  | _ =>
    simp only [BinaryOperator.result?, Option.ite_none_right_eq_some] at takes
    exact takes.1

/-! ## Kinds of trees -/

/-- `HasKind tree kind`: the operators of the tree fit their operands, and its root gives a result
of the kind. -/
inductive HasKind : Tree → Kind → Prop where
  | int {number : Int128} : HasKind (.int number) .int
  | bool {truth : Bool} : HasKind (.bool truth) .bool
  | null : HasKind .null .null
  | string {text : String} : HasKind (.string text) .string
  | unary {operator : UnaryOperator} {operand : Tree} {column : Nat} {operandKind kind : Kind}
      (hasOperand : HasKind operand operandKind)
      (takes : operator.result? operandKind = some kind) :
      HasKind (.unary operator operand column) kind
  | binary {operator : BinaryOperator} {left right : Tree} {column : Nat}
      {leftKind rightKind kind : Kind}
      (hasLeft : HasKind left leftKind) (hasRight : HasKind right rightKind)
      (takes : operator.result? leftKind rightKind = some kind) :
      HasKind (.binary operator left right column) kind
  | conditional {condition thenBranch elseBranch : Tree} {column : Nat} {kind : Kind}
      (hasCondition : HasKind condition .bool) (hasThen : HasKind thenBranch kind)
      (hasElse : HasKind elseBranch kind) :
      HasKind (.conditional condition thenBranch elseBranch column) kind

/-- The kind of a tree, found from its leaves to its root. -/
def Tree.kind? : Tree → Option Kind
  | .int _ => some .int
  | .bool _ => some .bool
  | .null => some .null
  | .string _ => some .string
  | .unary operator operand _ => operand.kind?.bind operator.result?
  | .binary operator left right _ =>
    left.kind?.bind fun leftKind => right.kind?.bind fun rightKind =>
      operator.result? leftKind rightKind
  | .conditional condition thenBranch elseBranch _ =>
    if condition.kind? = some .bool ∧ thenBranch.kind? = elseBranch.kind? then thenBranch.kind?
    else none

/-- The relation and the function that computes the kind agree. -/
theorem kind?_eq_some_iff {tree : Tree} {kind : Kind} :
    tree.kind? = some kind ↔ HasKind tree kind := by
  constructor
  · intro found
    induction tree generalizing kind with
    | int | bool | null | string =>
      cases found
      constructor
    | unary operator operand column operandHas =>
      obtain ⟨operandKind, operandFound, takes⟩ := Option.bind_eq_some_iff.mp found
      exact .unary (operandHas operandFound) takes
    | binary operator left right column leftHas rightHas =>
      obtain ⟨leftKind, leftFound, found⟩ := Option.bind_eq_some_iff.mp found
      obtain ⟨rightKind, rightFound, takes⟩ := Option.bind_eq_some_iff.mp found
      exact .binary (leftHas leftFound) (rightHas rightFound) takes
    | conditional condition thenBranch elseBranch column conditionHas thenHas elseHas =>
      obtain ⟨⟨conditionFound, same⟩, thenFound⟩ := Option.ite_none_right_eq_some.mp found
      exact .conditional (conditionHas conditionFound) (thenHas thenFound)
        (elseHas (same ▸ thenFound))
  · intro hasKind
    induction hasKind with
    | int | bool | null | string => rfl
    | unary _ takes operandFound => rw [Tree.kind?, operandFound, Option.bind_some, takes]
    | binary _ _ takes leftFound rightFound =>
      rw [Tree.kind?, leftFound, rightFound, Option.bind_some, Option.bind_some, takes]
    | conditional _ _ _ conditionFound thenFound elseFound =>
      rw [Tree.kind?, conditionFound, thenFound, elseFound, if_pos ⟨rfl, rfl⟩]

instance (tree : Tree) (kind : Kind) : Decidable (HasKind tree kind) :=
  decidable_of_iff (tree.kind? = some kind) kind?_eq_some_iff

/-! ## Values of a kind -/

theorem exists_int_of_kind {value : Value} (isInt : value.kind = .int) :
    ∃ number, value = .int number := by
  cases value with
  | int number => exact ⟨number, rfl⟩
  | bool | null | string => cases isInt

theorem exists_bool_of_kind {value : Value} (isBool : value.kind = .bool) :
    ∃ truth, value = .bool truth := by
  cases value with
  | bool truth => exact ⟨truth, rfl⟩
  | int | null | string => cases isBool

/-! ## Outcomes that a kind allows -/

/-- The causes that lie in the values of operands, whatever their kinds are. -/
def ComputationFault.ofValues : List ComputationFault :=
  [.overflow, .divisionByZero, .shiftOutOfRange, .nullValue]

/-- A rule gives a value of the kind, or rejects the values of its operands. -/
def Outcome.OfKind (kind : Kind) : Outcome Value → Prop
  | .ok value => value.kind = kind
  | .error cause => cause ∈ ComputationFault.ofValues

/-- Evaluation gives a value of the kind, or the fault of a rule that rejects values. -/
def EvaluatesTo (kind : Kind) : Except (Located ComputationFault) Value → Prop
  | .ok value => value.kind = kind
  | .error fault => fault.cause ∈ ComputationFault.ofValues

theorem Outcome.OfKind.reportedAt {kind : Kind} {outcome : Outcome Value}
    (ofKind : outcome.OfKind kind) (column : Nat) :
    EvaluatesTo kind (outcome.reportedAt column) := by
  cases outcome with
  | ok | error => exact ofKind

/-- What is done with the value of an operand starts from a value of the operand's kind. -/
theorem EvaluatesTo.bind {before after : Kind} {result : Except (Located ComputationFault) Value}
    {next : Value → Except (Located ComputationFault) Value} (operand : EvaluatesTo before result)
    (goesOn : ∀ value, value.kind = before → EvaluatesTo after (next value)) :
    EvaluatesTo after (result.bind next) := by
  cases result with
  | ok value => exact goesOn value operand
  | error => exact operand

theorem ofKind_of_eq {kind : Kind} {outcome : Outcome Value}
    (values : ∀ value, outcome = .ok value → value.kind = kind)
    (causes : ∀ cause, outcome = .error cause → cause ∈ ComputationFault.ofValues) :
    outcome.OfKind kind := by
  cases outcome with
  | ok value => exact values value rfl
  | error cause => exact causes cause rfl

/-! ## Rules -/

theorem kind_of_map_int {outcome : Outcome Int128} {value : Value}
    (given : outcome.map Value.int = .ok value) : value.kind = .int := by
  cases outcome with
  | ok =>
    cases given
    rfl
  | error => cases given

/-- An operator of one operand that gives a result keeps to its signature. -/
theorem result?_of_apply {operator : UnaryOperator} {value result : Value}
    (applied : operator.apply value = .ok result) :
    operator.result? value.kind = some result.kind := by
  cases operator with
  | negate =>
    cases value with
    | int =>
      rw [kind_of_map_int applied]
      rfl
    | bool | null | string => cases applied
  | plus | complement =>
    cases value with
    | int =>
      cases applied
      rfl
    | bool | null | string => cases applied
  | not =>
    cases value with
    | bool =>
      cases applied
      rfl
    | int | null | string => cases applied
  | nonNull =>
    cases value with
    | null => cases applied
    | int | bool | string =>
      cases applied
      rfl

/-- An operator that takes the kind of its operand rejects nothing but the value. -/
theorem rejectsOperand_ofValues {operator : UnaryOperator} {value : Value} {kind : Kind}
    {cause : ComputationFault} (takes : operator.result? value.kind = some kind)
    (rejects : RejectsOperand operator value cause) : cause ∈ ComputationFault.ofValues := by
  cases rejects with
  | kind expects other =>
    cases operator with
    | negate | plus | complement | not =>
      cases expects
      rw [UnaryOperator.result?, if_neg other] at takes
      cases takes
    | nonNull => cases expects
  | overflow | null => decide

theorem apply_ofKind {operator : UnaryOperator} {value : Value} {kind : Kind}
    (takes : operator.result? value.kind = some kind) : (operator.apply value).OfKind kind := by
  apply ofKind_of_eq
  · intro result applied
    exact Option.some.inj ((result?_of_apply applied).symm.trans takes)
  · intro cause failed
    exact rejectsOperand_ofValues takes (apply_eq_error_iff.mp failed)

/-- An operator on integers that gives a result keeps to its signature. -/
theorem result?_of_integer {operator : BinaryOperator} {intOperator : IntOperator}
    (role : operator.role = .integer intOperator) {left right : Int128} {result : Value}
    (applied : intOperator.apply left right = .ok result) :
    operator.result? .int .int = some result.kind := by
  cases operator with
  | or | and | equal | notEqual => cases role
  | add | subtract | multiply | divide | modulo | shiftLeft | shiftRight =>
    cases role
    rw [kind_of_map_int applied]
    rfl
  | bitAnd | bitOr | bitXor | less | lessEqual | greater | greaterEqual =>
    cases role
    cases applied
    rfl

/-- What integers are rejected for depends on their values: none of these faults names a kind. -/
theorem rejectsIntegers_ofValues {operator : BinaryOperator} {left right : Int}
    {cause : ComputationFault} (rejects : RejectsIntegers operator left right cause) :
    cause ∈ ComputationFault.ofValues := by
  cases rejects <;> decide

/-- One argument for all operators on integers, those that compare included. -/
theorem integer_ofKind {operator : BinaryOperator} {intOperator : IntOperator}
    (role : operator.role = .integer intOperator) {left right : Value} {kind : Kind}
    (takes : operator.result? left.kind right.kind = some kind) :
    (intOperator.applyValues operator.sign left right).OfKind kind := by
  obtain ⟨leftInt, rightInt⟩ := operands_of_integer role takes
  obtain ⟨leftNumber, rfl⟩ := exists_int_of_kind leftInt
  obtain ⟨rightNumber, rfl⟩ := exists_int_of_kind rightInt
  apply ofKind_of_eq
  · intro result applied
    exact Option.some.inj ((result?_of_integer role applied).symm.trans takes)
  · intro cause failed
    exact rejectsIntegers_ofValues ((integer_eq_error_iff role).mp failed)

/-- Values of kinds that an equality takes are compared without a fault. -/
theorem comparison_ofKind {operator : BinaryOperator} (compares : operator.Compares)
    (negated : Bool) {left right : Value} {kind : Kind}
    (takes : operator.result? left.kind right.kind = some kind) :
    Outcome.OfKind kind
      ((Outcome.equality operator.sign left right).map fun same =>
        Value.bool (same != negated)) := by
  obtain ⟨comparable, rfl⟩ := operands_of_comparison compares takes
  rw [Outcome.equality, if_pos comparable]
  rfl

/-! ## Trees -/

/-- The operand of a logical operator or the condition of `?:` passes its check. -/
theorem expectBool_of_kind (sign : String) {value : Value} (isBool : value.kind = .bool) :
    ∃ truth, Outcome.expectBool sign value = .ok truth := by
  obtain ⟨truth, rfl⟩ := exists_bool_of_kind isBool
  exact ⟨truth, rfl⟩

/-- A logical operator whose left operand decides gives a truth value, and so does the right one
that it goes on to. -/
theorem logical_evaluatesTo {operator : BinaryOperator} {goesOn : Bool}
    (logical : operator.continuesOn = some goesOn) {left right : Tree} {column : Nat}
    (leftTo : EvaluatesTo .bool left.evaluate) (rightTo : EvaluatesTo .bool right.evaluate) :
    EvaluatesTo .bool (Tree.binary operator left right column).evaluate := by
  rw [evaluate_logical logical]
  refine leftTo.bind fun leftValue leftBool => ?_
  obtain ⟨truth, leftChecked⟩ := expectBool_of_kind operator.sign leftBool
  rw [leftChecked]
  show EvaluatesTo .bool (if truth = goesOn then _ else _)
  split
  · refine rightTo.bind fun rightValue rightBool => ?_
    obtain ⟨rightTruth, rightChecked⟩ := expectBool_of_kind operator.sign rightBool
    rw [rightChecked]
    rfl
  · rfl

/-- An operator that is not logical applies its rule to values of the kinds of its operands. -/
theorem strict_evaluatesTo {operator : BinaryOperator} (strict : operator.continuesOn = none)
    {left right : Tree} {column : Nat} {leftKind rightKind kind : Kind}
    (takes : operator.result? leftKind rightKind = some kind)
    (leftTo : EvaluatesTo leftKind left.evaluate)
    (rightTo : EvaluatesTo rightKind right.evaluate) :
    EvaluatesTo kind (Tree.binary operator left right column).evaluate := by
  rcases role_of_strict strict with ⟨compares, negated, role⟩ | ⟨-, intOperator, role⟩
  · rw [Tree.evaluate, role]
    refine leftTo.bind fun leftValue leftHas => rightTo.bind fun rightValue rightHas => ?_
    subst leftHas rightHas
    exact (comparison_ofKind compares negated takes).reportedAt column
  · rw [Tree.evaluate, role]
    refine leftTo.bind fun leftValue leftHas => rightTo.bind fun rightValue rightHas => ?_
    subst leftHas rightHas
    exact (integer_ofKind role takes).reportedAt column

/-- By induction on the derivation of the kind, one case for each node. -/
theorem evaluatesTo_of_hasKind {tree : Tree} {kind : Kind} (hasKind : HasKind tree kind) :
    EvaluatesTo kind tree.evaluate := by
  induction hasKind with
  | int | bool | null | string => rfl
  | unary _ takes operandTo =>
    refine operandTo.bind fun value valueHas => ?_
    subst valueHas
    exact (apply_ofKind takes).reportedAt _
  | @binary operator left right column leftKind rightKind kind _ _ takes leftTo rightTo =>
    cases logical : operator.continuesOn with
    | some goesOn =>
      obtain ⟨rfl, rfl, rfl⟩ := operands_of_logical logical takes
      exact logical_evaluatesTo logical leftTo rightTo
    | none => exact strict_evaluatesTo logical takes leftTo rightTo
  | conditional _ _ _ conditionTo thenTo elseTo =>
    refine conditionTo.bind fun value isBool => ?_
    obtain ⟨truth, checked⟩ := expectBool_of_kind "?:" isBool
    rw [checked]
    cases truth with
    | true => exact thenTo
    | false => exact elseTo

/-- The texts of the causes that lie in values; none of them speaks of kinds. -/
theorem message_ofValues {cause : ComputationFault} (ofValues : cause ∈ ComputationFault.ofValues) :
    cause.message ∈ ["Integer overflow", "Division by zero", "Shift amount out of range",
      "Null value"] :=
  List.mem_map_of_mem (f := ComputationFault.message) ofValues

/-- A tree of a kind has a value of this kind, or one of the four faults that lie in values. Kinds
that do not fit are never reported. -/
theorem evaluate_of_hasKind {tree : Tree} {kind : Kind} (hasKind : HasKind tree kind) :
    (∃ value, tree.evaluate = .ok value ∧ value.kind = kind) ∨
      ∃ fault, tree.evaluate = .error fault ∧
        fault.cause.message ∈ ["Integer overflow", "Division by zero",
          "Shift amount out of range", "Null value"] ∧
        ¬"Type error".toList <+: fault.cause.message.toList := by
  have allowed := evaluatesTo_of_hasKind hasKind
  cases evaluated : tree.evaluate with
  | ok value =>
    rw [evaluated] at allowed
    exact .inl ⟨value, rfl, allowed⟩
  | error fault =>
    rw [evaluated] at allowed
    have apart : ∀ text ∈ ["Integer overflow", "Division by zero", "Shift amount out of range",
        "Null value"], ¬"Type error".toList <+: text.toList := by decide
    have message := message_ofValues allowed
    exact .inr ⟨fault, rfl, message, apart _ message⟩

/-- The tree of `null == "a" || true!! ? 7 % -3 : 7`. -/
def remainderChoice : Tree :=
  .conditional
    (.binary .or (.binary .equal .null (.string "a") 6) (.unary .nonNull (.bool true) 20) 13)
    (.binary .modulo (.int ⟨7, by decide, by decide⟩)
      (.unary .negate (.int ⟨3, by decide, by decide⟩) 29) 27)
    (.int ⟨7, by decide, by decide⟩) 23

/-- Nothing but the division of 7 by -3 has a say in the value, and its remainder has the sign of
the divisor. -/
theorem evaluate_remainderChoice :
    HasKind remainderChoice .int ∧
      ∃ value, remainderChoice.evaluate = .ok value ∧ value.kind = .int ∧ value.text = "-2" := by
  have isInt : HasKind remainderChoice .int := by decide
  have computed : remainderChoice.evaluate.map Value.text = .ok "-2" := by cbv
  refine ⟨isInt, ?_⟩
  rcases evaluate_of_hasKind isInt with ⟨value, evaluated, ofKind⟩ | ⟨fault, failed, -⟩
  · rw [evaluated] at computed
    exact ⟨value, evaluated, ofKind, Except.ok.inj computed⟩
  · rw [failed] at computed
    cases computed

end CompilerFront.Expr
