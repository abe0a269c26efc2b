import Mathlib
import CompilerFront.Proofs.Settings.Variables

/-!
Contract: which settings are in force, for a file and an environment.

Owns:
- `InForce`, the value of one setting: what a variable gives or, when it gives nothing, the file;
- `Objection`, all that there is to object to the settings in force, with the fault that it leads
  to, and `Objection.Applies`, when it is the first;
- `Overridable`, the settings that variables override, each of them on its own.

Does not own: which file is selected (`CompilerFront.Proofs.Settings.Precedence`).
-/

namespace CompilerFront.Settings

/-! ## Settings in force -/

/-- What a variable gives is in force or, when it gives nothing, what the file says. -/
def InForce {α : Type} (means : String → α → Prop) (environment : Environment) (name : String)
    (inFile value : α) : Prop :=
  (∃ text, Gives environment name text ∧ means text value) ∨
    ((∀ text, ¬Gives environment name text) ∧ value = inFile)

/-- The settings in force for a file and an environment. There is no variable for the arguments of
the backend, which are always those of the file. -/
structure Governs (file : Settings) (environment : Environment) (settings : Settings) : Prop where
  command : InForce Eq environment "TACT_BACKEND" file.backend.command settings.backend.command
  arguments : settings.backend.arguments = file.backend.arguments
  timeout : InForce IsCount environment "TACT_BACKEND_TIMEOUT_SECS" file.backend.timeoutSeconds
    settings.backend.timeoutSeconds
  revision : InForce IsCount environment "TACT_REVISION_TIMEOUT_MS"
    file.revision.timeoutMilliseconds settings.revision.timeoutMilliseconds

/-- A variable gives a text that is not a number below 2^64. -/
def Misstates (environment : Environment) (name text : String) : Prop :=
  Gives environment name text ∧ ∀ number, ¬IsCount text number

def countMessage (name unit text : String) : String :=
  s!"invalid {name} value `{text}`: expected non-negative integer {unit}"

/-- What there is to object to the settings in force, in the order that it is looked for. -/
inductive Objection where
  | timeout (text : String)
  | revision (text : String)
  | command

namespace Objection

def message : Objection → String
  | timeout text => countMessage "TACT_BACKEND_TIMEOUT_SECS" "seconds" text
  | revision text => countMessage "TACT_REVISION_TIMEOUT_MS" "milliseconds" text
  | command => "backend.command is empty; set it in tact-cli.toml or via TACT_BACKEND"

def fault (objection : Objection) : SettingsFault := .invalid objection.message

/-- An objection applies, and none that comes before it. -/
def Applies (file : Settings) (environment : Environment) : Objection → Prop
  | timeout text => Misstates environment "TACT_BACKEND_TIMEOUT_SECS" text
  | revision text =>
    (∀ other, ¬Misstates environment "TACT_BACKEND_TIMEOUT_SECS" other) ∧
      Misstates environment "TACT_REVISION_TIMEOUT_MS" text
  | command =>
    (∀ other, ¬Misstates environment "TACT_BACKEND_TIMEOUT_SECS" other) ∧
      (∀ other, ¬Misstates environment "TACT_REVISION_TIMEOUT_MS" other) ∧
        ∃ command, InForce Eq environment "TACT_BACKEND" file.backend.command command ∧
          Text.Blank command

end Objection

/-! ## Single variables -/

section Variable

variable {environment : Environment} {name unit text : String} {inFile value : Nat}

theorem getD_of_inForce {inFile value : String}
    (inForce : InForce Eq environment name inFile value) :
    (givenValue? environment name).getD inFile = value := by
  rcases inForce with ⟨text, gives, rfl⟩ | ⟨silent, rfl⟩
  · rw [givenValue?_eq_some_iff_gives.mpr gives, Option.getD_some]
  · rw [givenValue?_eq_none_iff.mpr silent, Option.getD_none]

theorem inForce_getD (environment : Environment) (name inFile : String) :
    InForce Eq environment name inFile ((givenValue? environment name).getD inFile) := by
  cases given : givenValue? environment name with
  | none => exact .inr ⟨givenValue?_eq_none_iff.mp given, rfl⟩
  | some text => exact .inl ⟨text, givenValue?_eq_some_iff_gives.mp given, rfl⟩

theorem countVariable_of_misstates (misstates : Misstates environment name text) :
    countVariable environment name unit = .error (.invalid (countMessage name unit text)) := by
  obtain ⟨gives, noCount⟩ := misstates
  have unread : count? text = none := by
    apply Option.eq_none_iff_forall_ne_some.mpr
    intro number counted
    exact noCount number (count?_eq_some_iff.mp counted)
  rw [countVariable, givenValue?_eq_some_iff_gives.mpr gives]
  simp only [unread, countMessage]

/-- A variable that is not given leaves the number of the file in force. -/
theorem countVariable_of_inForce (inForce : InForce IsCount environment name inFile value) :
    ∃ number, countVariable environment name unit = .ok number ∧ number.getD inFile = value := by
  rcases inForce with ⟨text, gives, isCount⟩ | ⟨silent, rfl⟩
  · refine ⟨some value, ?_, rfl⟩
    rw [countVariable, givenValue?_eq_some_iff_gives.mpr gives]
    simp only [count?_eq_some_iff.mpr isCount]
  · refine ⟨none, ?_, rfl⟩
    rw [countVariable, givenValue?_eq_none_iff.mpr silent]

/-- A variable gives a text that is no number, or there is a number in force. -/
theorem misstates_or_inForce (environment : Environment) (name : String) (inFile : Nat) :
    (∃ text, Misstates environment name text) ∨
      ∃ value, InForce IsCount environment name inFile value := by
  by_cases silent : ∀ text, ¬Gives environment name text
  · exact .inr ⟨inFile, .inr ⟨silent, rfl⟩⟩
  · push Not at silent
    obtain ⟨text, gives⟩ := silent
    by_cases meaningless : ∀ number, ¬IsCount text number
    · exact .inl ⟨text, gives, meaningless⟩
    · push Not at meaningless
      obtain ⟨number, isCount⟩ := meaningless
      exact .inr ⟨number, .inl ⟨text, gives, isCount⟩⟩

end Variable

/-! ## Faults -/

theorem countMessage_injective (name unit : String) :
    Function.Injective (countMessage name unit) := by
  intro text other same
  rwa [countMessage, countMessage, String.append_left_inj, String.append_left_inj,
    String.append_right_inj] at same

/-- The character in which the messages of different kinds of objections differ. -/
def Objection.letter : Objection → Char
  | timeout _ => 'B'
  | revision _ => 'R'
  | command => 'n'

/-- It stands behind the words and the part of a name that the messages of both limits share. -/
theorem Objection.message_letter (objection : Objection) :
    objection.message.toList[13]? = some objection.letter := by
  cases objection with
  | timeout text =>
    rw [message, countMessage]
    simp only [toString, String.toList_append]
    rfl
  | revision text =>
    rw [message, countMessage]
    simp only [toString, String.toList_append]
    rfl
  | command => rfl

/-- Different objections lead to different faults. -/
theorem Objection.fault_injective : Function.Injective fault := by
  intro objection other same
  have messages : objection.message = other.message := SettingsFault.invalid.inj same
  have letters : some objection.letter = some other.letter := by
    rw [← objection.message_letter, messages, other.message_letter]
  cases objection with
  | timeout text =>
    cases other with
    | timeout otherText => exact congrArg timeout (countMessage_injective _ _ messages)
    | revision => cases letters
    | command => cases letters
  | revision text =>
    cases other with
    | timeout => cases letters
    | revision otherText => exact congrArg revision (countMessage_injective _ _ messages)
    | command => cases letters
  | command =>
    cases other with
    | timeout => cases letters
    | revision => cases letters
    | command => rfl

/-! ## The first objection -/

theorem checked_of_blank {settings : Settings} (blank : Text.Blank settings.backend.command) :
    checked settings = .error (.invalid emptyCommandMessage) :=
  if_pos (Text.trim_isEmpty_iff.mpr blank)

theorem checked_of_not_blank {settings : Settings}
    (written : ¬Text.Blank settings.backend.command) : checked settings = .ok settings :=
  if_neg (mt Text.trim_isEmpty_iff.mp written)

section Override

variable {file settings : Settings} {environment : Environment}

/-- The limits are looked up one behind the other, and the command is checked last. -/
theorem override_bind (file : Settings) (environment : Environment) :
    (file.override environment).bind checked =
      (countVariable environment "TACT_BACKEND_TIMEOUT_SECS" "seconds").bind fun seconds =>
        (countVariable environment "TACT_REVISION_TIMEOUT_MS" "milliseconds").bind
          fun milliseconds => checked
            ⟨⟨(givenValue? environment "TACT_BACKEND").getD file.backend.command,
              file.backend.arguments, seconds.getD file.backend.timeoutSeconds⟩,
              ⟨milliseconds.getD file.revision.timeoutMilliseconds⟩⟩ := by
  unfold override commandVariable timeoutVariable revisionVariable
  cases countVariable environment "TACT_BACKEND_TIMEOUT_SECS" "seconds" with
  | error fault => rfl
  | ok seconds =>
    cases countVariable environment "TACT_REVISION_TIMEOUT_MS" "milliseconds" with
    | error fault => rfl
    | ok milliseconds => simp only [Except.bind, Except.map]

theorem exists_count (name unit : String) (stated : ∀ text, ¬Misstates environment name text) :
    ∃ number, countVariable environment name unit = .ok number := by
  rcases misstates_or_inForce environment name 0 with ⟨text, misstates⟩ | ⟨value, inForce⟩
  · exact absurd misstates (stated text)
  · obtain ⟨number, counted, -⟩ := countVariable_of_inForce inForce
    exact ⟨number, counted⟩

/-- The variables are looked at in a fixed order, so that the first objection is the one
reported. -/
theorem override_of_applies {objection : Objection} (applies : objection.Applies file environment) :
    (file.override environment).bind checked = .error objection.fault := by
  cases objection with
  | timeout text =>
    rw [override_bind, countVariable_of_misstates applies]
    rfl
  | revision text =>
    obtain ⟨stated, misstates⟩ := applies
    obtain ⟨seconds, counted⟩ := exists_count "TACT_BACKEND_TIMEOUT_SECS" "seconds" stated
    rw [override_bind, counted, countVariable_of_misstates misstates]
    rfl
  | command =>
    obtain ⟨timeout, revision, command, inForce, blank⟩ := applies
    obtain ⟨seconds, timeoutCounted⟩ :=
      exists_count "TACT_BACKEND_TIMEOUT_SECS" "seconds" timeout
    obtain ⟨milliseconds, revisionCounted⟩ :=
      exists_count "TACT_REVISION_TIMEOUT_MS" "milliseconds" revision
    rw [override_bind, timeoutCounted, revisionCounted, getD_of_inForce inForce]
    simp only [Except.bind]
    exact checked_of_blank blank

theorem override_of_governs (governs : Governs file environment settings)
    (written : ¬Text.Blank settings.backend.command) :
    (file.override environment).bind checked = .ok settings := by
  obtain ⟨seconds, timeout, secondsEq⟩ := countVariable_of_inForce governs.timeout
  obtain ⟨milliseconds, revision, millisecondsEq⟩ := countVariable_of_inForce governs.revision
  rw [override_bind, timeout, revision, getD_of_inForce governs.command, ← governs.arguments]
  simp only [Except.bind, secondsEq, millisecondsEq]
  exact checked_of_not_blank written

/-- There is a first objection, or there are settings in force with nothing to be said against. -/
theorem applies_or_governs (file : Settings) (environment : Environment) :
    (∃ objection : Objection, objection.Applies file environment) ∨
      ∃ settings, Governs file environment settings ∧ ¬Text.Blank settings.backend.command := by
  by_cases timeout : ∃ text, Misstates environment "TACT_BACKEND_TIMEOUT_SECS" text
  · obtain ⟨text, misstates⟩ := timeout
    exact .inl ⟨.timeout text, misstates⟩
  by_cases revision : ∃ text, Misstates environment "TACT_REVISION_TIMEOUT_MS" text
  · obtain ⟨text, misstates⟩ := revision
    exact .inl ⟨.revision text, not_exists.mp timeout, misstates⟩
  obtain ⟨seconds, secondsInForce⟩ := (misstates_or_inForce environment
    "TACT_BACKEND_TIMEOUT_SECS" file.backend.timeoutSeconds).resolve_left timeout
  obtain ⟨milliseconds, millisecondsInForce⟩ := (misstates_or_inForce environment
    "TACT_REVISION_TIMEOUT_MS" file.revision.timeoutMilliseconds).resolve_left revision
  have commandInForce := inForce_getD environment "TACT_BACKEND" file.backend.command
  by_cases blank :
      Text.Blank ((givenValue? environment "TACT_BACKEND").getD file.backend.command)
  · exact .inl ⟨.command, not_exists.mp timeout, not_exists.mp revision, _, commandInForce, blank⟩
  · exact .inr ⟨⟨⟨_, file.backend.arguments, seconds⟩, ⟨milliseconds⟩⟩,
      ⟨commandInForce, rfl, secondsInForce, millisecondsInForce⟩, blank⟩

theorem override_eq_error_iff {objection : Objection} :
    (file.override environment).bind checked = .error objection.fault ↔
      objection.Applies file environment := by
  constructor
  · intro failed
    rcases applies_or_governs file environment with ⟨other, applies⟩ | ⟨granted, governs, written⟩
    · rw [override_of_applies applies] at failed
      rwa [← Objection.fault_injective (Except.error.inj failed)]
    · rw [override_of_governs governs written] at failed
      cases failed
  · exact override_of_applies

/-- Settings come out just where every variable can be read and the command is not blank. -/
theorem override_eq_ok_iff :
    (file.override environment).bind checked = .ok settings ↔
      Governs file environment settings ∧ ¬Text.Blank settings.backend.command := by
  constructor
  · intro succeeded
    rcases applies_or_governs file environment with ⟨other, applies⟩ | ⟨granted, governs, written⟩
    · rw [override_of_applies applies] at succeeded
      cases succeeded
    · rw [override_of_governs governs written] at succeeded
      obtain rfl := Except.ok.inj succeeded
      exact ⟨governs, written⟩
  · rintro ⟨governs, written⟩
    exact override_of_governs governs written

end Override

/-! ## One variable at a time -/

inductive Overridable where
  | command
  | timeout
  | revision

namespace Overridable

def name : Overridable → String
  | command => "TACT_BACKEND"
  | timeout => "TACT_BACKEND_TIMEOUT_SECS"
  | revision => "TACT_REVISION_TIMEOUT_MS"

/-- Two settings that differ in one of them, if at all. -/
def Apart (settings other : Settings) : Overridable → Prop
  | command => { other with backend.command := settings.backend.command } = settings
  | timeout => { other with backend.timeoutSeconds := settings.backend.timeoutSeconds } = settings
  | revision =>
    { other with revision.timeoutMilliseconds := settings.revision.timeoutMilliseconds } = settings

end Overridable

def Objection.about : Objection → Overridable
  | timeout _ => .timeout
  | revision _ => .revision
  | command => .command

def FaultIn (setting : Overridable) (outcome : Except SettingsFault Loaded) : Prop :=
  ∃ objection : Objection, objection.about = setting ∧ outcome = .error objection.fault

/-- Two outcomes that are the same, apart from one setting. -/
inductive SameBut (setting : Overridable) :
    Except SettingsFault Loaded → Except SettingsFault Loaded → Prop where
  | fault (fault : SettingsFault) : SameBut setting (.error fault) (.error fault)
  | loaded {settings other : Settings} (source : Source) (apart : setting.Apart settings other) :
    SameBut setting (.ok ⟨settings, source⟩) (.ok ⟨other, source⟩)

/-- Two outcomes differ in one setting at most, unless there is a fault in that one. -/
def Confined (setting : Overridable) (outcome other : Except SettingsFault Loaded) : Prop :=
  FaultIn setting outcome ∨ FaultIn setting other ∨ SameBut setting outcome other

section Confined

variable {α : Type} {setting : Overridable}

/-- What is done with a result can be done behind the last step. -/
theorem map_bind {β : Type} (step : Except SettingsFault α) (next : α → Except SettingsFault β)
    (change : β → Loaded) :
    (step.bind next).map change = step.bind fun value => (next value).map change := by
  cases step <;> rfl

/-- A step that is the same on both sides keeps the difference confined. -/
theorem confined_bind_same (step : Except SettingsFault α)
    {first second : α → Except SettingsFault Loaded}
    (rest : ∀ value, Confined setting (first value) (second value)) :
    Confined setting (step.bind first) (step.bind second) := by
  cases step with
  | error fault => exact .inr (.inr (.fault fault))
  | ok value => exact rest value

/-- So does a step that is not, if its faults are in the one setting. -/
theorem confined_bind {step other : Except SettingsFault α}
    (faults : ∀ fault, step = .error fault →
      ∃ objection : Objection, objection.about = setting ∧ fault = objection.fault)
    (otherFaults : ∀ fault, other = .error fault →
      ∃ objection : Objection, objection.about = setting ∧ fault = objection.fault)
    {first second : α → Except SettingsFault Loaded}
    (rest : ∀ value otherValue, Confined setting (first value) (second otherValue)) :
    Confined setting (step.bind first) (other.bind second) := by
  cases step with
  | error fault =>
    obtain ⟨objection, about, faultEq⟩ := faults fault rfl
    exact .inl ⟨objection, about, congrArg Except.error faultEq⟩
  | ok value =>
    cases other with
    | error fault =>
      obtain ⟨objection, about, faultEq⟩ := otherFaults fault rfl
      exact .inr (.inl ⟨objection, about, congrArg Except.error faultEq⟩)
    | ok otherValue => exact rest value otherValue

theorem Overridable.Apart.command_eq {settings other : Settings}
    (apart : setting.Apart settings other) :
    setting = .command ∨ other.backend.command = settings.backend.command := by
  cases setting with
  | command => exact .inl rfl
  | timeout => exact .inr (congrArg (·.backend.command) apart)
  | revision => exact .inr (congrArg (·.backend.command) apart)

/-- The command is only checked after all else, so the check confines a difference in it. -/
theorem confined_checked {settings other : Settings} (source : Source)
    (apart : setting.Apart settings other) :
    Confined setting ((checked settings).map (⟨·, source⟩))
      ((checked other).map (⟨·, source⟩)) := by
  by_cases blank : Text.Blank settings.backend.command
  · by_cases otherBlank : Text.Blank other.backend.command
    · rw [checked_of_blank blank, checked_of_blank otherBlank]
      exact .inr (.inr (.fault _))
    · obtain rfl | commandEq := apart.command_eq
      · rw [checked_of_blank blank]
        exact .inl ⟨.command, rfl, rfl⟩
      · rw [commandEq] at otherBlank
        exact absurd blank otherBlank
  · by_cases otherBlank : Text.Blank other.backend.command
    · obtain rfl | commandEq := apart.command_eq
      · rw [checked_of_blank otherBlank]
        exact .inr (.inl ⟨.command, rfl, rfl⟩)
      · rw [commandEq] at otherBlank
        exact absurd otherBlank blank
    · rw [checked_of_not_blank blank, checked_of_not_blank otherBlank]
      exact .inr (.inr (.loaded source apart))

end Confined

section Change

variable {environment other : Environment} {name unit : String}

theorem countVariable_congr (given : givenValue? other name = givenValue? environment name) :
    countVariable other name unit = countVariable environment name unit := by
  rw [countVariable, countVariable, given]

/-- A number that cannot be read is a fault in the setting that the variable overrides. -/
theorem about_of_countVariable {setting : Overridable} (objection : String → Objection)
    (about : ∀ text, (objection text).about = setting)
    (faultEq : ∀ text, (objection text).fault = .invalid (countMessage name unit text))
    (environment : Environment) (fault : SettingsFault)
    (failed : countVariable environment name unit = .error fault) :
    ∃ objection : Objection, objection.about = setting ∧ fault = objection.fault := by
  rcases misstates_or_inForce environment name 0 with ⟨text, misstates⟩ | ⟨value, inForce⟩
  · rw [countVariable_of_misstates misstates] at failed
    refine ⟨objection text, about text, ?_⟩
    rw [faultEq, Except.error.inj failed]
  · obtain ⟨number, counted, -⟩ := countVariable_of_inForce inForce
    rw [counted] at failed
    cases failed

/-- A change of one variable is confined to the setting that it overrides. -/
theorem confined_override (file : Settings) (source : Source) (setting : Overridable)
    (agrees : ∀ name, name ≠ setting.name → givenValue? other name = givenValue? environment name) :
    Confined setting (((file.override environment).bind checked).map (⟨·, source⟩))
      (((file.override other).bind checked).map (⟨·, source⟩)) := by
  rw [override_bind, override_bind]
  simp only [map_bind]
  cases setting with
  | command =>
    rw [countVariable_congr (agrees "TACT_BACKEND_TIMEOUT_SECS" (by decide)),
      countVariable_congr (agrees "TACT_REVISION_TIMEOUT_MS" (by decide))]
    apply confined_bind_same
    intro seconds
    apply confined_bind_same
    intro milliseconds
    exact confined_checked source rfl
  | timeout =>
    rw [countVariable_congr (agrees "TACT_REVISION_TIMEOUT_MS" (by decide)),
      agrees "TACT_BACKEND" (by decide)]
    have about := about_of_countVariable Objection.timeout (fun _ => rfl) (fun _ => rfl)
    apply confined_bind (about environment) (about other)
    intro seconds otherSeconds
    apply confined_bind_same
    intro milliseconds
    exact confined_checked source rfl
  | revision =>
    rw [countVariable_congr (agrees "TACT_BACKEND_TIMEOUT_SECS" (by decide)),
      agrees "TACT_BACKEND" (by decide)]
    apply confined_bind_same
    intro seconds
    have about := about_of_countVariable Objection.revision (fun _ => rfl) (fun _ => rfl)
    apply confined_bind (about environment) (about other)
    intro milliseconds otherMilliseconds
    exact confined_checked source rfl

end Change

/-! ## Loading -/

section Load

variable {read : ReadText} {environment other : Environment} {root : Option String}
  {text : String} {source : Source} {file : Settings}

def readVariables : List String :=
  ["TACT_CLI_CONFIG", "TACT_BACKEND", "TACT_BACKEND_TIMEOUT_SECS", "TACT_REVISION_TIMEOUT_MS"]

/-- Loading only depends on what these give. -/
theorem load_congr (agrees : ∀ name ∈ readVariables,
    givenValue? other name = givenValue? environment name) :
    load read other root = load read environment root := by
  have overridden (file : Settings) : file.override other = file.override environment := by
    unfold override commandVariable timeoutVariable revisionVariable
    rw [agrees "TACT_BACKEND" (by decide),
      countVariable_congr (agrees "TACT_BACKEND_TIMEOUT_SECS" (by decide)),
      countVariable_congr (agrees "TACT_REVISION_TIMEOUT_MS" (by decide))]
  have named : givenValue? other pathVariable = givenValue? environment pathVariable :=
    agrees "TACT_CLI_CONFIG" (by decide)
  simp only [load, effective, named, overridden]

/-- What loading comes to, for a file and an environment. The first objection there is makes it
fail, and nothing else does; settings that are loaded are those in force. Blanks at the ends of
variables make no difference, and a change of one variable is confined to the setting that it
overrides. -/
structure Overrides (read : ReadText) (environment : Environment) (root : Option String)
    (file : Settings) (source : Source) : Prop where
  refused : ∀ objection : Objection,
    (load read environment root).result = .error objection.fault ↔
      objection.Applies file environment
  granted : ∀ loaded, (load read environment root).result = .ok loaded ↔
    loaded.source = source ∧ Governs file environment loaded.settings ∧
      ¬Text.Blank loaded.settings.backend.command
  decided :
    (∃ objection : Objection, (load read environment root).result = .error objection.fault) ∨
      ∃ loaded, (load read environment root).result = .ok loaded
  repaired : ∀ text, Gives environment "TACT_BACKEND" text →
    (load read environment root).result ≠ .error Objection.command.fault
  repadded : ∀ other : Environment,
    (∀ name ∈ readVariables, Repadded (environment name) (other name)) →
      load read other root = load read environment root
  confined : ∀ (setting : Overridable) (other : Environment),
    (∀ name, name ≠ setting.name → other name = environment name) →
      Confined setting (load read environment root).result (load read other root).result

variable
  (selected : (readSource read (givenValue? environment pathVariable) root).result =
    .ok (text, source))
  (decoded : ofText text = .ok file)

include selected decoded

theorem result_load_of_ofText :
    (load read environment root).result =
      ((file.override environment).bind checked).map (⟨·, source⟩) := by
  rw [result_load, selected, Except.bind, effective, decoded]
  rfl

theorem load_eq_error_iff {fault : SettingsFault} :
    (load read environment root).result = .error fault ↔
      (file.override environment).bind checked = .error fault := by
  rw [result_load_of_ofText selected decoded]
  cases (file.override environment).bind checked <;> simp [Except.map]

theorem load_eq_ok_iff {loaded : Loaded} :
    (load read environment root).result = .ok loaded ↔
      loaded.source = source ∧ (file.override environment).bind checked = .ok loaded.settings := by
  obtain ⟨settings, origin⟩ := loaded
  rw [result_load_of_ofText selected decoded]
  cases (file.override environment).bind checked <;>
    simp [Except.map, and_comm, eq_comm]

end Load

/-- For the file that is selected, the overrides are exact: what is loaded is what governs, and what
is reported is the first objection. Blanks around a value make no difference, and a variable changes
no setting but its own. -/
theorem load_overrides {read : ReadText} {environment : Environment} {root : Option String}
    {text : String} {source : Source} {file : Settings}
    (selected : (readSource read (givenValue? environment pathVariable) root).result =
      .ok (text, source))
    (decoded : ofText text = .ok file) : Overrides read environment root file source where
  refused objection := by
    rw [load_eq_error_iff selected decoded, override_eq_error_iff]
  granted loaded := by
    rw [load_eq_ok_iff selected decoded, override_eq_ok_iff]
  decided := by
    rcases applies_or_governs file environment with ⟨objection, applies⟩ | ⟨settings, ruling⟩
    · refine .inl ⟨objection, ?_⟩
      rwa [load_eq_error_iff selected decoded, override_eq_error_iff]
    · refine .inr ⟨⟨settings, source⟩, ?_⟩
      rw [load_eq_ok_iff selected decoded, override_eq_ok_iff]
      exact ⟨rfl, ruling⟩
  repaired given gives := by
    rw [ne_eq, load_eq_error_iff selected decoded]
    intro failed
    have applies : Objection.command.Applies file environment := override_eq_error_iff.mp failed
    obtain ⟨-, -, command, ⟨text, gives, rfl⟩ | ⟨silent, -⟩, blank⟩ := applies
    · exact gives.not_blank blank
    · exact silent given gives
  repadded other repadded :=
    load_congr fun name member => givenValue?_of_repadded (repadded name member)
  confined setting other agrees := by
    have given (name : String) (unchanged : name ≠ setting.name) :
        givenValue? other name = givenValue? environment name := by
      rw [givenValue?, givenValue?, agrees name unchanged]
    have otherSelected := selected
    rw [← given pathVariable (by cases setting <;> decide)] at otherSelected
    rw [result_load_of_ofText selected decoded, result_load_of_ofText otherSelected decoded]
    exact confined_override file source setting given

/-- A document without a command. -/
def blankDocument : String := "backend.command=\"\""

/-- Variables that make up for it, one of them with blanks around. -/
def repairing : Environment := fun name =>
  if name = "TACT_BACKEND" then some " tool "
  else if name = "TACT_BACKEND_TIMEOUT_SECS" then some "+30"
  else none

/-- What the variables give is loaded, and the blank command of the document is no longer objected
to. -/
theorem load_overrides_repairing :
    (readSource (fun _ => .ok blankDocument) (givenValue? repairing pathVariable) none).result =
        .ok (blankDocument, .workingDirectory) ∧
      ofText blankDocument = .ok { backend := { command := "" } } ∧
        Overrides (fun _ => .ok blankDocument) repairing none { backend := { command := "" } }
          .workingDirectory ∧
          (load (fun _ => .ok blankDocument) repairing none).result =
            .ok ⟨⟨⟨"tool", [], 30⟩, ⟨2000⟩⟩, .workingDirectory⟩ ∧
            Governs { backend := { command := "" } } repairing ⟨⟨"tool", [], 30⟩, ⟨2000⟩⟩ := by
  have selected : (readSource (fun _ => .ok blankDocument) (givenValue? repairing pathVariable)
      none).result = .ok (blankDocument, .workingDirectory) := by cbv
  have decoded : ofText blankDocument = .ok { backend := { command := "" } } := by cbv
  have loads : (load (fun _ => .ok blankDocument) repairing none).result =
      .ok ⟨⟨⟨"tool", [], 30⟩, ⟨2000⟩⟩, .workingDirectory⟩ := by decide +kernel
  have overrides := load_overrides selected decoded
  obtain ⟨-, governs, -⟩ := (overrides.granted _).mp loads
  exact ⟨selected, decoded, overrides, loads, governs⟩

end CompilerFront.Settings
