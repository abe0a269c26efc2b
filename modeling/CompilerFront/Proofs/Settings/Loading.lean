import CompilerFront.Proofs.Settings.Overrides

/-!
Contract: settings come from exactly one source, and from what variables override.

Owns:
- `Ranked`, the sources there are for an environment, in their order;
- `Decodes`, what becomes of a text, and `Settles`, what becomes of a source by what it holds;
- `Decides`, what it is for a source to settle the settings by itself;
- `load_precedence`, by which exactly one source always does.

Does not own: which documents give which settings (`CompilerFront.Proofs.Settings.Schema`).
-/

namespace CompilerFront.Settings

/-! ## Specification -/

/-- The sources there are for an environment, the one that counts most first. A variable that is not
blank names a file that comes before all others. -/
inductive Ranked (environment : Environment) (root : Option String) : List Source → Prop where
  | named {path : String} (gives : Gives environment "TACT_CLI_CONFIG" path) :
      Ranked environment root (.explicit path :: unnamed root)
  | unnamed (silent : ∀ path, ¬Gives environment "TACT_CLI_CONFIG" path) :
      Ranked environment root (unnamed root)

/-- What becomes of a text: a document that is not one is a fault, as is one with fields that cannot
be taken in, and neither is made up for by anything else. -/
inductive Decodes (text : String) : Except SettingsFault Settings → Prop where
  | ungrammatical (unparsed : parseDocument text = none) :
      Decodes text (.error (.document .grammar))
  | refused {fields : Fields} {fault : SchemaFault} (parsed : parseDocument text = some fields)
      (refuses : ofFields fields = .error fault) :
      Decodes text (.error (.document (.schema fault.message)))
  | file {fields : Fields} {file : Settings} (parsed : parseDocument text = some fields)
      (grants : ofFields fields = .ok file) :
      Decodes text (.ok file)

/-- What becomes of a source, by what reading it gives. A file that is decoded governs together with
the variables of the environment, unless there is something to object. -/
inductive Settles (environment : Environment) (source : Source) :
    Except IoFault String → Except SettingsFault Loaded → Prop where
  | unreadable (fault : IoFault) : Settles environment source (.error fault) (.error (.io fault))
  | undecoded {text : String} {fault : SettingsFault} (decodes : Decodes text (.error fault)) :
      Settles environment source (.ok text) (.error fault)
  | objected {text : String} {file : Settings} {objection : Objection}
      (decodes : Decodes text (.ok file)) (applies : objection.Applies file environment) :
      Settles environment source (.ok text) (.error objection.fault)
  | governed {text : String} {file settings : Settings} (decodes : Decodes text (.ok file))
      (governs : Governs file environment settings)
      (written : ¬Text.Blank settings.backend.command) :
      Settles environment source (.ok text) (.ok ⟨settings, source⟩)

/-- A source settles what is loaded: it is the first that is not passed over, what is loaded is what
becomes of it, and what sources below it hold makes no difference, nor whether they are there. -/
structure Decides (read : ReadText) (environment : Environment) (root : Option String)
    (higher : List Source) (source : Source) : Prop where
  selected : ∃ sources lower, Ranked environment root sources ∧
    Selection read sources higher source lower
  only : ∀ sources otherHigher other lower, Ranked environment root sources →
    Selection read sources otherHigher other lower → otherHigher = higher ∧ other = source
  settled : ∀ outcome, (load read environment root).result = outcome ↔
    Settles environment source (source.reading read) outcome
  indifferent : ∀ otherRead otherRoot lower,
    Ranked environment otherRoot (higher ++ source :: lower) →
      (∀ asked ∈ higher ++ [source], asked.reading otherRead = asked.reading read) →
        (load otherRead environment otherRoot).result = (load read environment root).result

/-! ## Sources -/

section Sources

variable {environment : Environment} {root : Option String} {sources : List Source}

/-- The ranking follows from what the variable gives. -/
theorem ranked_iff :
    Ranked environment root sources ↔
      sources = ranking (givenValue? environment pathVariable) root := by
  constructor
  · intro ranked
    cases ranked with
    | @named path gives =>
      have given : givenValue? environment pathVariable = some path :=
        givenValue?_eq_some_iff_gives.mpr gives
      rw [given]
      rfl
    | unnamed silent =>
      have given : givenValue? environment pathVariable = none :=
        givenValue?_eq_none_iff.mpr silent
      rw [given]
      rfl
  · rintro rfl
    cases given : givenValue? environment pathVariable with
    | none => exact .unnamed (givenValue?_eq_none_iff.mp given)
    | some path => exact .named (givenValue?_eq_some_iff_gives.mp given)

end Sources

/-! ## Texts -/

theorem decodes_iff {text : String} {decoded : Except SettingsFault Settings} :
    Decodes text decoded ↔ ofText text = decoded := by
  constructor
  · intro decodes
    cases decodes with
    | ungrammatical unparsed => rw [ofText, unparsed]
    | refused parsed refuses => simp only [ofText, parsed, refuses]
    | file parsed grants => simp only [ofText, parsed, grants]
  · rintro rfl
    cases parsed : parseDocument text with
    | none =>
      simp only [ofText, parsed]
      exact .ungrammatical parsed
    | some fields =>
      cases taken : ofFields fields with
      | error fault =>
        simp only [ofText, parsed, taken]
        exact .refused parsed taken
      | ok file =>
        simp only [ofText, parsed, taken]
        exact .file parsed taken

section Settles

variable {environment : Environment} {source : Source} {reading : Except IoFault String}
  {outcome : Except SettingsFault Loaded}

/-- What is computed of a source, by what reading it gives. -/
def outcomeOf (environment : Environment) (source : Source) (reading : Except IoFault String) :
    Except SettingsFault Loaded :=
  (reading.mapError .io).bind fun text => (effective text environment).map (⟨·, source⟩)

theorem outcomeOf_eq_of_settles (settles : Settles environment source reading outcome) :
    outcomeOf environment source reading = outcome := by
  cases settles with
  | unreadable fault => rfl
  | undecoded decodes =>
    rw [outcomeOf, Except.mapError, Except.bind, effective, decodes_iff.mp decodes]
    rfl
  | objected decodes applies =>
    rw [outcomeOf, Except.mapError, Except.bind, effective, decodes_iff.mp decodes, Except.bind,
      override_of_applies applies]
    rfl
  | governed decodes governs written =>
    rw [outcomeOf, Except.mapError, Except.bind, effective, decodes_iff.mp decodes, Except.bind,
      override_of_governs governs written]
    rfl

/-- Something always becomes of a source. -/
theorem exists_settles (environment : Environment) (source : Source)
    (reading : Except IoFault String) : ∃ outcome, Settles environment source reading outcome := by
  cases reading with
  | error fault => exact ⟨_, .unreadable fault⟩
  | ok text =>
    cases decoded : ofText text with
    | error fault => exact ⟨_, .undecoded (decodes_iff.mpr decoded)⟩
    | ok file =>
      rcases applies_or_governs file environment with
        ⟨objection, applies⟩ | ⟨settings, governs, written⟩
      · exact ⟨_, .objected (decodes_iff.mpr decoded) applies⟩
      · exact ⟨_, .governed (decodes_iff.mpr decoded) governs written⟩

/-- One case for each clause: the defects of the document, the first objection, and the settings
without any. -/
theorem settles_iff :
    Settles environment source reading outcome ↔
      outcomeOf environment source reading = outcome := by
  refine ⟨outcomeOf_eq_of_settles, ?_⟩
  rintro rfl
  obtain ⟨outcome, settles⟩ := exists_settles environment source reading
  rwa [outcomeOf_eq_of_settles settles]

end Settles

/-! ## Loading -/

/-- The text that was selected is the only one that the settings are read from. -/
theorem Selection.decides {read : ReadText} {environment : Environment} {root : Option String}
    {higher lower : List Source} {source : Source}
    (selection : Selection read (ranking (givenValue? environment pathVariable) root) higher source
      lower) :
    Decides read environment root higher source where
  selected := ⟨_, lower, ranked_iff.mpr rfl, selection⟩
  only sources otherHigher other otherLower ranked otherSelection := by
    obtain rfl := ranked_iff.mp ranked
    obtain ⟨higherEq, sourceEq, -⟩ := selection_unique selection otherSelection
    exact ⟨higherEq, sourceEq⟩
  settled outcome := by
    rw [load_of_selection selection, settles_iff]
    rfl
  indifferent otherRead otherRoot otherLower ranked agrees := by
    have otherSelection := selection.congr otherLower agrees
    rw [ranked_iff.mp ranked] at otherSelection
    rw [load_of_selection otherSelection, load_of_selection selection, agrees source (by simp)]

/-- The built-in settings are what the empty document decodes to. -/
theorem decodes_empty : Decodes "" (.ok ⟨⟨"tact-compiler", [], 0⟩, ⟨2000⟩⟩) := by
  have parsed : parseDocument "" = some [] := by cbv
  exact .file parsed rfl

/-- The settings come from one source. Without any file they are the built-in ones, and variables
override them as they would any other. -/
structure Precedence (read : ReadText) (environment : Environment) (root : Option String) :
    Prop where
  decided : ∃ higher source, Decides read environment root higher source
  defaults : Source.reading read .builtIn = .ok "" ∧
    Decodes "" (.ok ⟨⟨"tact-compiler", [], 0⟩, ⟨2000⟩⟩)

/-- The settings come from the first of the four sources that is there, and from the variables. A
file that is there but cannot be read or decoded is a fault: no source below is asked in its
place. -/
theorem load_precedence (read : ReadText) (environment : Environment) (root : Option String) :
    Precedence read environment root where
  decided := by
    obtain ⟨higher, source, lower, selection, -⟩ :=
      selects_readSource read (givenValue? environment pathVariable) root
    exact ⟨higher, source, selection.decides⟩
  defaults := ⟨rfl, decodes_empty⟩

end CompilerFront.Settings
