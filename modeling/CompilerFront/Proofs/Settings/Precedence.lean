import CompilerFront.Settings.Source

/-!
Contract: of all sources of settings, the first there is gets selected.

Owns:
- `ranking`, the sources in the order in which they count, and `Source.reading`, what each holds;
- `Selection`, the first source that is not passed over, of which there is exactly one;
- `selects_readSource` and `load_of_selection`: it is the one that is read, and that is loaded.

Does not own: how a text is decoded, nor which variables override it
(`CompilerFront.Proofs.Settings.Loading`).
-/

namespace CompilerFront.Settings

/-! ## Sources -/

/-- What reading a source gives; the built-in defaults are an empty text. -/
def Source.reading (read : ReadText) : Source → Except IoFault String
  | .explicit path => read path
  | .workingDirectory => read "tact-cli.toml"
  | .user path => read path
  | .builtIn => .ok ""

/-- A source is passed over when it is missing, unless it is a file that is named. -/
def Source.PassedOver (read : ReadText) (source : Source) : Prop :=
  source.reading read = .error (.system .notFound) ∧ ∀ path, source ≠ .explicit path

/-- The file of the user below a configuration directory. A slash stands between them, unless the
path of the directory ends with one or is empty. -/
def userPath (root : String) : String :=
  if root = "" ∨ root.toList.getLast? = some '/' then root ++ "tact/cli.toml"
  else root ++ "/tact/cli.toml"

/-- The sources there are when no variable names a file, the one that counts most first. -/
def unnamed (root : Option String) : List Source :=
  .workingDirectory :: ((root.map fun directory => .user (userPath directory)).toList ++ [.builtIn])

/-- A file that is named counts more than all other sources. -/
def ranking (named root : Option String) : List Source :=
  (named.map Source.explicit).toList ++ unnamed root

/-- A source between those that are passed over and those that are never asked. The latter are part
of the statement because they could be anything. -/
structure Selection (read : ReadText) (sources higher : List Source) (source : Source)
    (lower : List Source) : Prop where
  split : sources = higher ++ source :: lower
  passed : ∀ other ∈ higher, other.PassedOver read
  taken : ¬source.PassedOver read

section Unique

variable {read : ReadText} {sources higher otherHigher lower otherLower : List Source}
  {source other : Source}

/-- Two selections pass over the same sources, and take the same one. -/
theorem selection_unique (selection : Selection read sources higher source lower)
    (otherSelection : Selection read sources otherHigher other otherLower) :
    otherHigher = higher ∧ other = source ∧ otherLower = lower := by
  have same := selection.split.symm.trans otherSelection.split
  rw [List.append_eq_append_iff] at same
  obtain ⟨between, higherEq, rest⟩ | ⟨between, higherEq, rest⟩ := same
  · cases between with
    | nil =>
      obtain ⟨sourceEq, lowerEq⟩ := List.cons.inj rest
      exact ⟨by simpa using higherEq, sourceEq.symm, lowerEq.symm⟩
    | cons first between =>
      have reached := otherSelection.passed source (by simp [higherEq, (List.cons.inj rest).1])
      exact absurd reached selection.taken
  · cases between with
    | nil =>
      obtain ⟨sourceEq, lowerEq⟩ := List.cons.inj rest
      exact ⟨by simpa using higherEq.symm, sourceEq, lowerEq⟩
    | cons first between =>
      have reached := selection.passed other (by simp [higherEq, (List.cons.inj rest).1])
      exact absurd reached otherSelection.taken

/-- A selection only depends on what the sources hold that it asks. -/
theorem Selection.congr (otherLower : List Source) {otherRead : ReadText}
    (selection : Selection read sources higher source lower)
    (agrees : ∀ asked ∈ higher ++ [source], asked.reading otherRead = asked.reading read) :
    Selection otherRead (higher ++ source :: otherLower) higher source otherLower where
  split := rfl
  passed asked member := by
    rw [Source.PassedOver, agrees asked (List.mem_append_left _ member)]
    exact selection.passed asked member
  taken := by
    rw [Source.PassedOver, agrees source (by simp)]
    exact selection.taken

end Unique

/-! ## What is read -/

/-- What comes of taking a source: its text, or the fault in reading it. -/
def Source.taken (read : ReadText) (source : Source) : Except SettingsFault (String × Source) :=
  ((source.reading read).mapError .io).map fun text => (text, source)

/-- One of the sources is selected, and it is what is taken. -/
def Selects (read : ReadText) (sources : List Source)
    (answer : Except SettingsFault (String × Source)) : Prop :=
  ∃ higher source lower, Selection read sources higher source lower ∧ answer = source.taken read

section Reading

variable {read : ReadText} {source : Source} {sources : List Source}
  {answer : Except SettingsFault (String × Source)}

theorem selects_later (passed : source.PassedOver read) (later : Selects read sources answer) :
    Selects read (source :: sources) answer := by
  obtain ⟨higher, selected, lower, selection, taken⟩ := later
  refine ⟨source :: higher, selected, lower, ⟨?_, ?_, selection.taken⟩, taken⟩
  · rw [selection.split, List.cons_append]
  · exact List.forall_mem_cons.mpr ⟨passed, selection.passed⟩

/-- A source that answers at all ends the search, with a fault just as well as with a text. -/
theorem selects_first (sources : List Source) (taken : ¬source.PassedOver read) :
    Selects read (source :: sources) (source.taken read) := by
  refine ⟨[], source, sources, ⟨rfl, ?_, taken⟩, rfl⟩
  intro other member
  cases member

theorem selects_text {text : String} (found : source.reading read = .ok text) :
    Selects read (source :: sources) (.ok (text, source)) := by
  have taken : ¬source.PassedOver read := by
    rintro ⟨missing, -⟩
    rw [found] at missing
    cases missing
  have selects := selects_first sources taken
  rwa [Source.taken, found] at selects

theorem selects_fault {fault : IoFault} (failed : source.reading read = .error fault)
    (taken : ¬source.PassedOver read) : Selects read (source :: sources) (.error (.io fault)) := by
  have selects := selects_first sources taken
  rwa [Source.taken, failed] at selects

/-- A file that may be missing is passed over, or it is taken together with its faults. -/
theorem selects_readIfPresent {path : String}
    {next : Discreet (Except SettingsFault (String × Source))}
    (reading : source.reading read = read path) (unnamed : ∀ path, source ≠ .explicit path)
    (later : Selects read sources next.result) :
    Selects read (source :: sources)
      (readIfPresent read path >>= fun
        | .error fault => return .error fault
        | .ok (some text) => return .ok (text, source)
        | .ok none => next).result := by
  unfold readIfPresent
  split
  case h_1 text found => exact selects_text (reading.trans found)
  case h_2 missing => exact selects_later ⟨reading.trans missing, unnamed⟩ later
  case h_3 fault present failed =>
    refine selects_fault (reading.trans failed) ?_
    rintro ⟨missing, -⟩
    rw [reading, failed] at missing
    exact present (Except.error.inj missing)

/-- The file of the user may be missing, and then the built-in settings answer. -/
theorem selects_readUserFile (root : Option String) :
    Selects read ((root.map fun directory => .user (userPath directory)).toList ++ [.builtIn])
      (readUserFile read root).result := by
  cases root with
  | none => exact selects_text rfl
  | some directory =>
    rw [readUserFile, userFile_eq]
    exact selects_readIfPresent rfl nofun (selects_text rfl)

/-- What is read is what comes of the selected source. -/
theorem selects_readSource (read : ReadText) (named root : Option String) :
    Selects read (ranking named root) (readSource read named root).result := by
  cases named with
  | none => exact selects_readIfPresent rfl nofun (selects_readUserFile root)
  | some path =>
    simp only [readSource]
    split
    case h_1 text found => exact selects_text found
    case h_2 fault failed => exact selects_fault failed fun passed => passed.2 path rfl

end Reading

/-! ## What is loaded -/

section Loading

variable {read : ReadText} {environment : Environment} {root : Option String}
  {higher lower : List Source} {source : Source}

theorem result_load : (load read environment root).result =
    (readSource read (givenValue? environment pathVariable) root).result.bind fun found =>
      (effective found.1 environment).map (⟨·, found.2⟩) := by
  unfold load
  rw [Discreet.result_bind]
  rcases (readSource read (givenValue? environment pathVariable) root).result with
    fault | ⟨text, source⟩
  · rfl
  · simp only [Except.bind]
    cases effective text environment with
    | error fault => rfl
    | ok settings => rfl

/-- The selected source settles what is loaded. -/
theorem load_of_selection
    (selection : Selection read (ranking (givenValue? environment pathVariable) root) higher source
      lower) :
    (load read environment root).result =
      ((source.reading read).mapError .io).bind fun text =>
        (effective text environment).map (⟨·, source⟩) := by
  obtain ⟨_, selected, _, selects, taken⟩ :=
    selects_readSource read (givenValue? environment pathVariable) root
  obtain ⟨-, rfl, -⟩ := selection_unique selection selects
  rw [result_load, taken, Source.taken]
  cases selected.reading read with
  | error fault => rfl
  | ok text => rfl

theorem givenValue?_eq_some_iff {name value : String} :
    givenValue? environment name = some value ↔
      ∃ raw, environment name = some raw ∧ Text.trim raw = value ∧ value ≠ "" := by
  unfold givenValue?
  rw [Option.filter_eq_some_iff, Option.map_eq_some_iff]
  constructor
  · rintro ⟨⟨raw, set, trimmed⟩, given⟩
    refine ⟨raw, set, trimmed, ?_⟩
    rintro rfl
    cases given
  · rintro ⟨raw, set, trimmed, given⟩
    exact ⟨⟨raw, set, trimmed⟩, by simpa using given⟩

end Loading

end CompilerFront.Settings
