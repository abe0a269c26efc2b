import CompilerFront.Proofs.Arguments.Items

/-!
Contract: an invocation is read back from any command line that lists it.

Owns:
- `Lists`, by which options and files hold just what an invocation holds, the values of each option
  and the files in their order;
- `ofArguments_lists`: in whatever order the options and files stand, such a command line is read as
  the invocation, and one that repeats an option other than a project is refused for a repeated one.
-/

namespace CompilerFront.Invocation

open Text (Raw)

/-! ## What is listed -/

namespace Item

def switch? : Item → Option Switch
  | flag given _ => some (.flag given)
  | valued option _ _ _ => some (.valued option)
  | file _ _ => none

def value? (option : ValueOption) : Item → Option String
  | valued given value _ _ => if given = option then some value else none
  | flag _ _ | file _ _ => none

def file? : Item → Option String
  | file name _ => some name
  | flag _ _ | valued _ _ _ _ => none

end Item

def occurrences (switch : Switch) (items : List Item) : Nat :=
  items.countP fun item => item.switch? = some switch

/-- The options that may be given once: all but the project option. -/
def Single (switch : Switch) : Prop := switch ≠ .valued .project

/-- `Lists start items behind finish`: the items and the files behind the separator are just what
the last invocation holds and the first one does not. Their order counts only for the projects and
for the files. -/
structure Lists (start : Invocation) (items : List Item) (behind : List String)
    (finish : Invocation) : Prop where
  flags : ∀ given, (start.isSet given).toNat + occurrences (.flag given) items =
    (finish.isSet given).toNat
  config : start.config.toList ++ items.filterMap (Item.value? .config) = finish.config.toList
  projects : start.projects ++ items.filterMap (Item.value? .project) = finish.projects
  expression : start.expression.toList ++ items.filterMap (Item.value? .eval) =
    finish.expression.toList
  files : start.files ++ (items.filterMap Item.file? ++ behind) = finish.files

/-! ## Entering an item -/

/-- An option that may be given once is there. -/
def holds (invocation : Invocation) : Switch → Bool
  | .flag given => invocation.isSet given
  | .valued .config => invocation.config.isSome
  | .valued .eval => invocation.expression.isSome
  | .valued .project => false

def adding (invocation : Invocation) : Item → Invocation
  | .flag given _ => invocation.set given
  | .valued .config value _ _ => { invocation with config := some value }
  | .valued .eval value _ _ => { invocation with expression := some value }
  | .valued .project value _ _ =>
    { invocation with projects := invocation.projects ++ [value] }
  | .file name _ => { invocation with files := invocation.files ++ [name] }

theorem wellFormed_ofText (text : String) : wellFormed (Raw.ofText text) = .ok text := by
  rw [wellFormed, Raw.toText?_ofText]

theorem mapM_wellFormed_ofText (texts : List String) :
    (texts.map Raw.ofText).mapM wellFormed = .ok texts := by
  induction texts with
  | nil => rfl
  | cons first others inductionHypothesis =>
    rw [List.map_cons, List.mapM_cons, wellFormed_ofText, inductionHypothesis]
    rfl

theorem enterFiles_ofText (invocation : Invocation) (texts : List String) :
    invocation.enterFiles (texts.map Raw.ofText) =
      .ok { invocation with files := invocation.files ++ texts } := by
  rw [enterFiles, mapM_wellFormed_ofText]
  rfl

theorem isSet_set (invocation : Invocation) (given other : Flag) :
    (invocation.set given).isSet other = (decide (given = other) || invocation.isSet other) := by
  cases given <;> cases other <;> rfl

section Entering

variable {invocation : Invocation} {item : Item}

theorem enter_of_taken {switch : Switch} (own : item.switch? = some switch)
    (taken : invocation.holds switch = true) :
    invocation.enter item = .error (.repeated switch) := by
  cases item with
  | flag given form =>
    cases own
    exact if_pos taken
  | valued option value place fits =>
    cases own
    cases option with
    | config | eval => exact if_pos taken
    | project => cases taken
  | file name plain => cases own

theorem enter_of_free
    (free : ∀ switch, item.switch? = some switch → invocation.holds switch = false) :
    invocation.enter item = .ok (invocation.adding item) := by
  cases item with
  | flag given form => exact if_neg (Bool.eq_false_iff.mp (free _ rfl))
  | valued option value place fits =>
    have none := free _ rfl
    cases option with
    | config | eval =>
      refine (if_neg (Bool.eq_false_iff.mp none)).trans ?_
      rw [wellFormed_ofText]
      rfl
    | project =>
      rw [enter, enterValue, wellFormed_ofText]
      rfl
  | file name plain => exact invocation.enterFiles_ofText [name]

theorem holds_adding_own {switch : Switch} (single : Single switch)
    (own : item.switch? = some switch) : (invocation.adding item).holds switch = true := by
  cases item with
  | flag given form =>
    cases own
    cases given <;> rfl
  | valued option value place fits =>
    cases own
    cases option with
    | config | eval => rfl
    | project => exact absurd rfl single
  | file name plain => cases own

/-- An item changes nothing about the other options. -/
theorem holds_adding_other {switch : Switch} (other : item.switch? ≠ some switch) :
    (invocation.adding item).holds switch = invocation.holds switch := by
  cases item with
  | flag given form =>
    cases switch with
    | flag second =>
      have different : given ≠ second := fun same => other (by rw [same, Item.switch?])
      show (invocation.set given).isSet second = invocation.isSet second
      rw [isSet_set, decide_eq_false different, Bool.false_or]
    | valued option => cases given <;> cases option <;> rfl
  | valued option value place fits =>
    cases switch with
    | flag given => cases option <;> cases given <;> rfl
    | valued second =>
      cases option <;> cases second
      all_goals first | rfl | exact absurd rfl other
  | file name plain =>
    cases switch with
    | flag given => cases given <;> rfl
    | valued option => cases option <;> rfl

/-- How often an option is there, counting those of further items. -/
def times (invocation : Invocation) (items : List Item) (switch : Switch) : Nat :=
  (invocation.holds switch).toNat + occurrences switch items

/-- An item that is entered counts no more than one that is still to be entered. -/
theorem times_adding {others : List Item} {switch : Switch} (single : Single switch)
    (free : ∀ switch, item.switch? = some switch → invocation.holds switch = false) :
    times (invocation.adding item) others switch = times invocation (item :: others) switch := by
  simp only [times, occurrences, List.countP_cons, decide_eq_true_eq]
  by_cases own : item.switch? = some switch
  · rw [if_pos own, holds_adding_own single own, free switch own]
    rw [Bool.toNat_true, Bool.toNat_false, Nat.zero_add, Nat.add_comm]
  · rw [if_neg own, holds_adding_other own, Nat.add_zero]

/-- A switch already entered counts for one, so an item that names it once more makes two. -/
theorem times_taken {others : List Item} {switch : Switch} (own : item.switch? = some switch)
    (taken : invocation.holds switch = true) : 2 ≤ times invocation (item :: others) switch := by
  simp only [times, occurrences, List.countP_cons, decide_eq_true_eq, if_pos own, taken,
    Bool.toNat_true]
  omega

end Entering

/-! ## Entering items -/

section Items

variable {start finish : Invocation} {item : Item} {items : List Item} {behind : List String}

theorem single_of_holds {switch : Switch} (taken : start.holds switch = true) : Single switch := by
  rintro rfl
  cases taken

/-- When options are given twice, the line is refused for one of them. -/
theorem foldlM_enter_of_twice {switch : Switch} (single : Single switch)
    (twice : 2 ≤ times start items switch) :
    ∃ repeated, Single repeated ∧ 2 ≤ times start items repeated ∧
      items.foldlM enter start = .error (.repeated repeated) := by
  induction items generalizing start with
  | nil =>
    have once := Bool.toNat_le (start.holds switch)
    simp only [times, occurrences, List.countP_nil] at twice
    omega
  | cons item others inductionHypothesis =>
    by_cases again : ∃ repeated, item.switch? = some repeated ∧ start.holds repeated = true
    · obtain ⟨repeated, own, taken⟩ := again
      refine ⟨repeated, single_of_holds taken, times_taken own taken, ?_⟩
      rw [List.foldlM_cons, enter_of_taken own taken]
      rfl
    · have free : ∀ switch, item.switch? = some switch → start.holds switch = false :=
        fun switch own => Bool.eq_false_iff.mpr fun taken => again ⟨switch, own, taken⟩
      rw [← times_adding single free] at twice
      obtain ⟨repeated, singleRepeated, repeatedTwice, refused⟩ := inductionHypothesis twice
      rw [times_adding singleRepeated free] at repeatedTwice
      refine ⟨repeated, singleRepeated, repeatedTwice, ?_⟩
      rw [List.foldlM_cons, enter_of_free free]
      exact refused

/-- An option with a value is given as often as it has values. -/
theorem length_filterMap_value? (option : ValueOption) (items : List Item) :
    (items.filterMap (Item.value? option)).length = occurrences (.valued option) items := by
  rw [List.length_filterMap_eq_countP, occurrences]
  refine List.countP_congr fun item _ => ?_
  cases item with
  | flag | file => simp [Item.value?, Item.switch?]
  | valued given value place fits =>
    by_cases same : given = option <;> simp [Item.value?, Item.switch?, same]

namespace Lists

/-- In a vector that lists its items no single switch comes twice, counting what was entered before
the first of them. -/
theorem times_le (lists : Lists start items behind finish) {switch : Switch}
    (single : Single switch) : times start items switch ≤ 1 := by
  have one (value : Option String) : value.toList.length = value.isSome.toNat := by
    cases value <;> rfl
  cases switch with
  | flag given =>
    have count : times start items (.flag given) = _ := lists.flags given
    rw [count]
    exact Bool.toNat_le _
  | valued option =>
    rw [times, ← length_filterMap_value?]
    cases option with
    | config =>
      have count := congrArg List.length lists.config
      rw [List.length_append, one, one] at count
      exact count ▸ Bool.toNat_le _
    | eval =>
      have count := congrArg List.length lists.expression
      rw [List.length_append, one, one] at count
      exact count ▸ Bool.toNat_le _
    | project => exact absurd rfl single

/-- No item is an option that is already there. -/
theorem free (lists : Lists start (item :: items) behind finish) :
    ∀ switch, item.switch? = some switch → start.holds switch = false := by
  intro switch own
  refine Bool.eq_false_iff.mpr fun taken => ?_
  have once := lists.times_le (single_of_holds taken)
  have twice : 2 ≤ times start (item :: items) switch := times_taken own taken
  omega

/-- What is left to list after an item. -/
theorem next (lists : Lists start (item :: items) behind finish) :
    Lists (start.adding item) items behind finish := by
  have flags (given : Flag) :
      times (start.adding item) items (.flag given) = (finish.isSet given).toNat := by
    have single : Single (.flag given) := fun same => Switch.noConfusion same
    exact (times_adding single lists.free).trans (lists.flags given)
  have free := lists.free
  obtain ⟨-, config, projects, expression, files⟩ := lists
  cases item with
  | flag given form => cases given <;> exact ⟨flags, config, projects, expression, files⟩
  | valued option value place fits =>
    have absent := free _ rfl
    cases option with
    | config =>
      rw [Option.not_isSome_iff_eq_none.mp (Bool.eq_false_iff.mp absent)] at config
      exact ⟨flags, config, projects, expression, files⟩
    | eval =>
      rw [Option.not_isSome_iff_eq_none.mp (Bool.eq_false_iff.mp absent)] at expression
      exact ⟨flags, config, projects, expression, files⟩
    | project =>
      refine ⟨flags, config, ?_, expression, files⟩
      rw [adding, List.append_assoc]
      exact projects
  | file name plain =>
    refine ⟨flags, config, projects, expression, ?_⟩
    rw [adding, List.append_assoc]
    exact files

/-- Without items only files are left to list. -/
theorem enterFiles_of_nil (lists : Lists start [] behind finish) :
    start.enterFiles (behind.map Raw.ofText) = .ok finish := by
  obtain ⟨flags, config, projects, expression, files⟩ := lists
  have sameFlag (given : Flag) : start.isSet given = finish.isSet given := by
    have injective : ∀ left right : Bool, left.toNat = right.toNat → left = right := by decide
    exact injective _ _ (flags given)
  have sameConfig : start.config = finish.config := by
    rw [List.filterMap_nil, List.append_nil] at config
    simpa only [Option.head?_toList] using congrArg List.head? config
  have sameExpression : start.expression = finish.expression := by
    rw [List.filterMap_nil, List.append_nil] at expression
    simpa only [Option.head?_toList] using congrArg List.head? expression
  have sameProjects : start.projects = finish.projects := by
    rwa [List.filterMap_nil, List.append_nil] at projects
  rw [enterFiles_ofText]
  refine congrArg Except.ok (Invocation.ext sameConfig sameProjects ?_ ?_ ?_ ?_ sameExpression
    ?_ ?_ files)
  · exact sameFlag .quiet
  · exact sameFlag .withDecompilation
  · exact sameFlag .func
  · exact sameFlag .check
  · exact sameFlag .version
  · exact sameFlag .help

end Lists

/-- Items that list an invocation are entered to it. -/
theorem foldlM_enter_of_lists (lists : Lists start items behind finish) :
    (items.foldlM enter start).bind (·.enterFiles (behind.map Raw.ofText)) = .ok finish := by
  induction items generalizing start with
  | nil => exact lists.enterFiles_of_nil
  | cons item others inductionHypothesis =>
    rw [List.foldlM_cons, enter_of_free lists.free]
    exact inductionHypothesis lists.next

end Items

/-- Command lines are read as what they list, and refused when they repeat an option that may be
given once. Reading the arguments one by one comes to entering the items one by one, so that the
spelling of an item is dealt with before its effect. -/
theorem ofArguments_lists :
    (∀ items behind invocation, Lists {} items (behind.getD []) invocation →
      ofArguments (commandLine items behind) = .ok invocation) ∧
      ∀ items behind switch, Single switch → 2 ≤ occurrences switch items →
        ∃ repeated, Single repeated ∧ 2 ≤ occurrences repeated items ∧
          ofArguments (commandLine items behind) = .error (.repeated repeated) := by
  constructor
  · intro items behind invocation lists
    rw [ofArguments_commandLine]
    exact foldlM_enter_of_lists lists
  · intro items behind switch single twice
    have atStart (other : Switch) : times {} items other = occurrences other items := by
      have nothing : holds {} other = false := by
        cases other with
        | flag given => cases given <;> rfl
        | valued option => cases option <;> rfl
      rw [times, nothing]
      exact Nat.zero_add _
    rw [← atStart] at twice
    obtain ⟨repeated, singleRepeated, repeatedTwice, refused⟩ := foldlM_enter_of_twice single twice
    rw [atStart] at repeatedTwice
    refine ⟨repeated, singleRepeated, repeatedTwice, ?_⟩
    rw [ofArguments_commandLine, refused]
    rfl

/-- Options and files in no order, with a separator as an expression. -/
def mixed : List Item :=
  [.valued .project "b" .attached trivial, .file "x" (by decide), .flag .quiet .short,
    .valued .eval "--" (.next .short) (.inl rfl), .file "y" (by decide),
    .valued .project "a" (.next .long) (.inr (by decide))]

def mixedInvocation : Invocation where
  projects := ["b", "a"]
  quiet := true
  expression := some "--"
  files := ["x", "y", "-q"]

/-- Values attached and behind their options, a project given twice, an expression that looks like
the separator, and an input behind it that looks like a switch. -/
theorem ofArguments_mixed :
    commandLine mixed (some ["-q"]) =
        ["--project=b", "x", "-q", "-e", "--", "y", "--project", "a", "--", "-q"].map Raw.ofText ∧
      Lists {} mixed ["-q"] mixedInvocation ∧
        ofArguments (commandLine mixed (some ["-q"])) = .ok mixedInvocation ∧
        ∃ repeated, 2 ≤ occurrences repeated (mixed ++ [.flag .quiet .long]) ∧
          ofArguments (commandLine (mixed ++ [.flag .quiet .long]) none) =
            .error (.repeated repeated) := by
  have flags (given : Flag) :
      (Invocation.isSet {} given).toNat + occurrences (.flag given) mixed =
        (mixedInvocation.isSet given).toNat := by
    cases given <;> rfl
  have lists : Lists {} mixed ["-q"] mixedInvocation := ⟨flags, rfl, rfl, rfl, rfl⟩
  obtain ⟨readBack, refused⟩ := ofArguments_lists
  have single : Single (.flag .quiet) := fun same => Switch.noConfusion same
  obtain ⟨repeated, -, twice, found⟩ :=
    refused (mixed ++ [.flag .quiet .long]) none (.flag .quiet) single (by decide)
  exact ⟨by decide, lists, readBack mixed (some ["-q"]) _ lists, repeated, twice, found⟩

end CompilerFront.Invocation
