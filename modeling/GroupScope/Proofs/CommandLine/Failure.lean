import GroupScope.Proofs.CommandLine.Agreement
import GroupScope.Proofs.Files.Store
import GroupScope.Proofs.Request.SharedKeys
/-!
# How commands on a request fail

Four inputs of a command on a request can be unusable, and the first one that is should decide how
the command fails:

    the settings file         CONFIG_ERROR    5
    the directory file        CONFIG_ERROR    5
    parameters, as JSON       JSON_ERROR      1
    parameters, as a value    FILTER_ERROR    1

It does, except in one case. Settings that stand at their path are passed over if the way there is
barred, by a directory in which the program may not look names up or by a length. To ask whether
they exist is answered with no, and the default settings are taken as if nothing stood there.

Nothing else can go wrong: every expression, every text of ids, every viewer and every page is
accepted, and so is every choice of fragments to leave out. The main statement is
`failure_of_request`.
-/

namespace GroupScope.CommandLine

/-! ## §1. The four inputs. -/

/-- The text is a document of settings, and both columns have identifiers for names. -/
def settingsFit (text : String) : Bool :=
  ((Toml.read text).bind Settings.ofEntries?).any fun settings =>
    isIdentifier settings.columns.group && isIdentifier settings.columns.privacy

/-- It is known where the settings are, and what stands there, if anything does, can be used. -/
def settingsUsable (environment : Environment) (files : Files) : Bool :=
  environment.settingsPath?.any fun path =>
    (files.stands? path).isNone || files.usable path settingsFit

/-- Something stands where the settings are, but the way there is barred. -/
def settingsPassedOver (environment : Environment) (files : Files) : Bool :=
  environment.settingsPath?.any fun path => (files.stands? path).isSome && files.bars path

/-- The directory file, if one is given, can be used. -/
def directoryUsable (files : Files) (options : RequestOptions) : Bool :=
  options.directory.all fun path =>
    files.usable path fun text => (DirectoryTable.ofText? text).isSome

/-- The text of the parameters, if one is given, is JSON. -/
def parametersReadable (options : RequestOptions) : Bool :=
  options.parameters.all fun text => (Json.read text).isSome

/-- The parameters, if JSON is given for them, are accepted. -/
def parametersAccepted (options : RequestOptions) : Bool :=
  options.parameters.all fun text =>
    (Json.read text).all fun value => (Parameters.ofJson value).isOk

/-- How a command on a request should fail once the settings are there: the code of the error and
the exit code of the first other input that is unusable. -/
def laterFailure (files : Files) (options : RequestOptions) : Option (String × Nat) :=
  if !directoryUsable files options then some ("CONFIG_ERROR", 5)
  else if !parametersReadable options then some ("JSON_ERROR", 1)
  else if !parametersAccepted options then some ("FILTER_ERROR", 1)
  else none

/-- How a command on a request should fail: as the first input that is unusable says. -/
def firstFailure (environment : Environment) (files : Files) (options : RequestOptions) :
    Option (String × Nat) :=
  if !settingsUsable environment files then some ("CONFIG_ERROR", 5)
  else laterFailure files options

/-! ## §2. Steps. -/

/-- The code of an error and its exit code; nothing if there is no error. -/
def failure? (result : Except CommandError α) : Option (String × Nat) :=
  match result with
  | .ok _ => none
  | .error error => some (error.code, error.exitCode)

/-- If the rest fails in one way only, the first part decides or else that way. -/
theorem failure?_bind {first : Except CommandError α} {rest : α → Except CommandError β}
    {failure : Option (String × Nat)} (h : ∀ a, failure? (rest a) = failure) :
    failure? (first >>= rest) = (failure? first).or failure := by
  cases first with
  | error error => rfl
  | ok a => exact h a

theorem failure?_map (f : α → β) (result : Except CommandError α) :
    failure? (result.map f) = failure? result := by
  cases result <;> rfl

/-- Only faults of files end in an error of this kind. -/
theorem failure?_mapError_files (result : Except FileError α) :
    failure? (result.mapError CommandError.files) =
      if !result.isOk then some ("CONFIG_ERROR", 5) else none := by
  cases result <;> rfl

theorem isOk_ofText (text : String) : (Settings.ofText text).isOk = settingsFit text := by
  unfold Settings.ofText settingsFit
  cases (Toml.read text).bind Settings.ofEntries? with
  | none => rfl
  | some settings =>
    rw [Option.any_some]
    cases hcheck : settings.columns.check with
    | ok =>
      obtain ⟨hgroup, hprivacy⟩ := Columns.check_eq_ok_iff.mp hcheck
      rw [hgroup, hprivacy]
      simp only [hcheck]
      rfl
    | error error =>
      have hname : (isIdentifier settings.columns.group && isIdentifier settings.columns.privacy) =
          false := by
        rw [← Bool.not_eq_true, Bool.and_eq_true]
        intro h
        rw [Columns.check_eq_ok_iff.mpr h] at hcheck
        cases hcheck
      rw [hname]
      simp only [hcheck]
      rfl

section

variable (environment : Environment) (files : Files) (options : RequestOptions)

/-- Settings are there if nothing stands at their path, if it is usable, or if it is passed over. -/
theorem isOk_settingsAt (path : String) :
    (settingsAt files path).isOk =
      ((files.stands? path).isNone || files.usable path settingsFit
        || (files.stands? path).isSome && files.bars path) := by
  unfold settingsAt
  rw [Files.contains_eq, ← Files.any_readText]
  cases hstands : files.stands? path with
  | none => rfl
  | some node =>
    cases hbars : files.bars path with
    | true => simp [Except.isOk, Except.toBool]
    | false =>
      simp only [Option.isSome_some, Bool.not_false, Bool.and_self, if_true, Option.isNone_some,
        Bool.false_or, Bool.and_false, Bool.or_false]
      cases files.readText path with
      | error fault => rfl
      | ok text => exact (isOk_mapError ..).trans (isOk_ofText text)

theorem isOk_directoryAt (path : String) :
    (directoryAt files path).isOk =
      files.usable path fun text => (DirectoryTable.ofText? text).isSome := by
  unfold directoryAt
  rw [← Files.any_readText]
  cases files.readText path with
  | error fault => rfl
  | ok text =>
    simp only [Except.toOption, Option.any_some]
    cases DirectoryTable.ofText? text <;> rfl

/-- What is reported while settings are read has no part in the result. -/
theorem value_loadSettings :
    (loadSettings environment files).run.value = (do
      let path ← settingsPath environment
      (settingsAt files path).mapError CommandError.files) := by
  unfold loadSettings
  simp only [Task.value_bind]
  cases settingsPath environment with
  | error error => rfl
  | ok path =>
    show ((settingsAt files path).mapError CommandError.files >>= _) =
      (settingsAt files path).mapError CommandError.files
    cases settingsAt files path <;> rfl

theorem failure?_loadSettings :
    failure? (loadSettings environment files).run.value =
      if !(settingsUsable environment files || settingsPassedOver environment files) then
        some ("CONFIG_ERROR", 5)
      else none := by
  rw [value_loadSettings]
  unfold settingsPath settingsUsable settingsPassedOver
  cases environment.settingsPath? with
  | none => rfl
  | some path =>
    rw [Option.any_some, Option.any_some, ← isOk_settingsAt]
    exact failure?_mapError_files _

theorem settingsPassedOver_eq_true_iff :
    settingsPassedOver environment files = true ↔
      ∃ path, environment.settingsPath? = some path ∧ (files.stands? path).isSome = true
        ∧ files.bars path = true := by
  unfold settingsPassedOver
  rw [Option.any_eq_true]
  simp only [Bool.and_eq_true]

/-- Settings that are passed over are the default settings. -/
theorem value_loadSettings_of_passedOver (h : settingsPassedOver environment files = true) :
    (loadSettings environment files).run.value = .ok {} := by
  obtain ⟨path, hpath, hstands, hbars⟩ := (settingsPassedOver_eq_true_iff environment files).mp h
  rw [value_loadSettings]
  unfold settingsPath
  rw [hpath]
  show (settingsAt files path).mapError CommandError.files = _
  unfold settingsAt
  rw [Files.contains_eq, hstands, hbars]
  rfl

theorem failure?_directoryOf :
    failure? (directoryOf files options) =
      if !directoryUsable files options then some ("CONFIG_ERROR", 5) else none := by
  unfold directoryOf directoryUsable
  cases options.directory with
  | none => rfl
  | some path =>
    rw [Option.all_some, ← isOk_directoryAt]
    exact failure?_mapError_files _

theorem failure?_parametersIn (text : String) :
    failure? (parametersIn text) =
      if !(Json.read text).isSome then some ("JSON_ERROR", 1)
      else if !(Json.read text).all fun value => (Parameters.ofJson value).isOk then
        some ("FILTER_ERROR", 1)
      else none := by
  unfold parametersIn
  cases Json.read text with
  | none => rfl
  | some value =>
    show failure? ((Parameters.ofJson value).mapError CommandError.filter) = _
    rw [Option.all_some]
    cases Parameters.ofJson value <;> rfl

theorem failure?_existingOf :
    failure? (existingOf options) =
      if !parametersReadable options then some ("JSON_ERROR", 1)
      else if !parametersAccepted options then some ("FILTER_ERROR", 1)
      else none := by
  unfold existingOf parametersReadable parametersAccepted
  cases options.parameters with
  | none => rfl
  | some text => exact failure?_parametersIn text

theorem flatAt_of_forall {fields : List (String × Json)}
    (h : ∀ field ∈ fields, field.2.shape.isFlat = true) (name : String) :
    (shapesOf fields).flatAt name = true := by
  show ((fields.lookup name).map Json.shape).all Json.Shape.isFlat = true
  cases hlookup : fields.lookup name with
  | none => rfl
  | some value =>
    obtain ⟨before, after, hfields, -⟩ := List.lookup_eq_some_iff.mp hlookup
    have hmem : (name, value) ∈ fields := by
      rw [hfields]
      exact List.mem_append_right before List.mem_cons_self
    exact h (name, value) hmem

theorem isFlat_of_mem_textField {key : String} {value : Option String} {field : String × Json}
    (h : field ∈ textField key value) : field.2.shape.isFlat = true := by
  obtain ⟨text, -, rfl⟩ := Option.map_eq_some_iff.mp (Option.mem_toList.mp h)
  rfl

/-- **A request is never refused**, since all its attributes are texts. -/
theorem exists_requestOf : ∃ request, requestOf options = .ok request := by
  have hflat : ∀ field ∈ textField Request.expressionKey options.expression ++
      textField Request.includedKey options.included ++
      textField Request.excludedKey options.excluded, field.2.shape.isFlat = true := by
    intro field hfield
    rcases List.mem_append.mp hfield with hfield | hfield
    · rcases List.mem_append.mp hfield with hfield | hfield <;>
        exact isFlat_of_mem_textField hfield
    · exact isFlat_of_mem_textField hfield
  have hok : (Request.ofJson (attributes options)).isOk = true := by
    unfold attributes
    rw [Request.isOk_ofJson_object, List.all_eq_true]
    exact fun name _ => flatAt_of_forall hflat name
  unfold requestOf
  cases hrequest : Request.ofJson (attributes options) with
  | ok request => exact ⟨request, rfl⟩
  | error error =>
    rw [hrequest] at hok
    cases hok

/-! ## §3. Getting a request ready. -/

/-- Settings that are passed over are not usable. -/
theorem not_settingsUsable_of_passedOver (h : settingsPassedOver environment files = true) :
    settingsUsable environment files = false := by
  obtain ⟨path, hpath, hstands, hbars⟩ := (settingsPassedOver_eq_true_iff environment files).mp h
  unfold settingsUsable Files.usable
  rw [hpath, Option.any_some, hbars, ← Option.not_isSome, hstands]
  rfl

/-- **The first unusable input decides** how getting a request ready fails, unless it is settings
that are passed over. -/
theorem failure?_prepared? :
    failure? (prepared? environment files options) =
      if settingsPassedOver environment files then laterFailure files options
      else firstFailure environment files options := by
  obtain ⟨request, hrequest⟩ := exists_requestOf options
  have hsteps : failure? (prepared? environment files options) =
      (failure? (loadSettings environment files).run.value).or
        ((failure? (directoryOf files options)).or (failure? (existingOf options))) := by
    rw [prepared?_eq, hrequest]
    refine failure?_bind fun settings => failure?_bind fun table => ?_
    cases existingOf options <;> rfl
  have hlater : (failure? (directoryOf files options)).or (failure? (existingOf options)) =
      laterFailure files options := by
    rw [failure?_directoryOf, failure?_existingOf]
    unfold laterFailure
    cases directoryUsable files options <;> rfl
  rw [hsteps, hlater, failure?_loadSettings]
  unfold firstFailure
  cases settingsUsable environment files <;> cases settingsPassedOver environment files <;> rfl

/-- Passing settings over makes a difference unless the directory file is unusable, too. -/
theorem passedOver_harmless_iff :
    (if settingsPassedOver environment files then laterFailure files options
      else firstFailure environment files options) = firstFailure environment files options ↔
      (settingsPassedOver environment files = true → directoryUsable files options = false) := by
  cases hpassed : settingsPassedOver environment files with
  | false => simp
  | true =>
    have hunusable := not_settingsUsable_of_passedOver environment files hpassed
    unfold firstFailure laterFailure
    rw [hunusable]
    cases directoryUsable files options <;> cases parametersReadable options <;>
      cases parametersAccepted options <;> decide

/-- Whether a request can be got ready, and why it cannot, depends on two of its options. -/
theorem prepared?_eq_error_congr {options other : RequestOptions}
    (hparameters : other.parameters = options.parameters)
    (hdirectory : other.directory = options.directory) {error : CommandError} :
    prepared? environment files other = .error error ↔
      prepared? environment files options = .error error := by
  obtain ⟨request, hrequest⟩ := exists_requestOf options
  obtain ⟨request', hrequest'⟩ := exists_requestOf other
  have hdirectoryOf : directoryOf files other = directoryOf files options := by
    unfold directoryOf
    rw [hdirectory]
  have hexistingOf : existingOf other = existingOf options := by
    unfold existingOf
    rw [hparameters]
  rw [prepared?_eq, prepared?_eq, hdirectoryOf, hexistingOf, hrequest, hrequest']
  cases (loadSettings environment files).run.value with
  | error e => exact Iff.rfl
  | ok settings =>
    cases directoryOf files options with
    | error e => exact Iff.rfl
    | ok table =>
      cases existingOf options with
      | error e => exact Iff.rfl
      | ok existing => simp [bind, Except.bind]

end

/-! ## §4. Commands. -/

/-- The options of the request that the command works on, if it works on one. -/
def Invocation.options? (invocation : Invocation) : Option RequestOptions :=
  match invocation.command with
  | .answer (.normalize options) => some options
  | .answer (.compile options _) => some options
  | .answer (.explain options) => some options
  | _ => none

/-- How a run fails: the code of its error and the exit code of that error. -/
def Outcome.failure? (outcome : Outcome) : Option (String × Nat) :=
  CommandLine.failure? outcome.result

/-- A command on a request prints something once the request is ready, and nothing but getting it
ready can fail. -/
theorem result_of_request (environment : Environment) (files : Files) {invocation : Invocation}
    {options : RequestOptions} (h : invocation.options? = some options) :
    ∃ text : Prepared → String,
      (run environment files invocation).result =
        (prepared? environment files options).map text := by
  obtain ⟨verbose, quiet, json, noColor, command⟩ := invocation
  unfold Invocation.options? at h
  cases command with
  | writeSettings force => cases h
  | answer query =>
    cases query with
    | normalize options =>
      injection h with h
      subst h
      exact ⟨_, value_prepare_bind environment files options fun _ => rfl⟩
    | compile options without =>
      injection h with h
      subst h
      exact ⟨_, value_prepare_bind environment files options fun _ => rfl⟩
    | explain options =>
      injection h with h
      subst h
      exact ⟨_, value_prepare_bind environment files options fun _ => rfl⟩
    | welcome | settings | settingsPath | completions => cases h

theorem failure?_run (environment : Environment) (files : Files) {invocation : Invocation}
    {options : RequestOptions} (h : invocation.options? = some options) :
    (run environment files invocation).failure? =
      if settingsPassedOver environment files then laterFailure files options
      else firstFailure environment files options := by
  obtain ⟨text, htext⟩ := result_of_request environment files h
  unfold Outcome.failure?
  rw [htext, failure?_map, failure?_prepared?]

/-- **The first unusable input decides how a command on a request fails**, by its code and by its
exit code; if there is none, the command succeeds. The one exception are settings that are passed
over: then the default settings are taken, and the first of the other inputs decides. So the command
does what it should just when this is not the case, or the directory file is unusable as well.

A run that fails prints nothing. Two runs with the same files, the same parameters and the same
directory fail alike or succeed alike, whatever else they are asked for. -/
theorem failure_of_request {environment : Environment} {files : Files} {invocation : Invocation}
    {options : RequestOptions} (h : invocation.options? = some options) :
    let outcome := run environment files invocation
    (outcome.failure? =
        if settingsPassedOver environment files then laterFailure files options
        else firstFailure environment files options)
      ∧ (settingsPassedOver environment files = true →
          (loadSettings environment files).run.value = .ok {})
      ∧ (outcome.failure? = firstFailure environment files options ↔
          (settingsPassedOver environment files = true → directoryUsable files options = false))
      ∧ outcome.exitCode = (outcome.failure?.map Prod.snd).getD 0
      ∧ (outcome.failure? ≠ none → outcome.output = "")
      ∧ ∀ (other : Invocation) (options' : RequestOptions), other.options? = some options' →
          options'.parameters = options.parameters → options'.directory = options.directory →
          ∀ error, (run environment files other).result = .error error ↔
            outcome.result = .error error := by
  intro outcome
  have hfailure := failure?_run environment files h
  refine ⟨hfailure, value_loadSettings_of_passedOver environment files, ?_, ?_, ?_, ?_⟩
  · rw [hfailure]
    exact passedOver_harmless_iff environment files options
  · unfold Outcome.exitCode Outcome.failure? failure?
    cases outcome.result <;> rfl
  · intro hfailed
    unfold Outcome.failure? failure? at hfailed
    unfold Outcome.output
    cases hresult : outcome.result with
    | error error => rfl
    | ok text =>
      rw [hresult] at hfailed
      exact absurd rfl hfailed
  · intro other options' hother hparameters hdirectory error
    obtain ⟨text, htext⟩ := result_of_request environment files h
    obtain ⟨text', htext'⟩ := result_of_request environment files hother
    rw [htext, htext', map_eq_error_iff, map_eq_error_iff]
    exact prepared?_eq_error_congr environment files hparameters hdirectory

/-- The parameters are JSON of the wrong shape, under settings and a directory that can be used. The
other command has another expression, another viewer and a fragment to leave out. -/
theorem failure_of_request_of_wrong_shape :
    let environment : Environment := { settingsFile := some "settings.toml" }
    let files : Files :=
      (({} : Files).put ⟨["groups".toList]⟩ (.file "[groups]\nchess = 12\n".toUTF8)).put
        ⟨["settings.toml".toList]⟩ (.file "groups_enabled = false\n".toUTF8)
    let options : RequestOptions :=
      { expression := some "chess", directory := some "groups",
        parameters := some "\x7b\"group__in\": \x7b\x7d\x7d" }
    let invocation : Invocation := { json := true, command := .answer (.normalize options) }
    let other : Invocation :=
      { command := .answer
          (.compile { options with expression := some "-,-5", viewer := some 3 } [.privacy]) }
    (run environment files invocation).failure? = some ("FILTER_ERROR", 1)
      ∧ (run environment files invocation).exitCode = 1
      ∧ (run environment files invocation).output = ""
      ∧ ∀ error, (run environment files other).result = .error error ↔
          (run environment files invocation).result = .error error := by
  intro environment files options invocation other
  have hpassed : settingsPassedOver environment files = false := by decide +kernel
  have hfirst : firstFailure environment files options = some ("FILTER_ERROR", 1) := by
    decide +kernel
  obtain ⟨-, -, hfailure, hexit, houtput, hother⟩ :=
    @failure_of_request environment files invocation options rfl
  have hfilter : (run environment files invocation).failure? = some ("FILTER_ERROR", 1) :=
    (hfailure.mpr fun hpassedOver => by rw [hpassed] at hpassedOver; cases hpassedOver).trans hfirst
  rw [hfilter] at hexit houtput
  exact ⟨hfilter, hexit, houtput nofun, hother other _ rfl rfl rfl⟩

/-- On every relative path at which something stands, `./` often enough makes it settings that are
passed over. -/
theorem settingsPassedOver_prolong {files : Files} {path : String}
    (hhere : files.isDirectory files.workingDirectory = true) (hpath : path.toList ≠ [])
    (hrelative : Files.isAbsolute path = false) (hstands : (files.stands? path).isSome = true)
    {n : Nat} (hlong : Files.maxPathSize < 2 * n + path.utf8ByteSize) :
    settingsPassedOver { settingsFile := some (Files.prolong path n) } files = true := by
  have hbars : files.bars (Files.prolong path n) = true := by
    refine Files.bars_of_tooLong ?_
    rwa [Files.utf8ByteSize_prolong]
  refine (settingsPassedOver_eq_true_iff _ files).mpr ⟨Files.prolong path n, rfl, ?_, hbars⟩
  rw [Files.stands?_prolong hhere hpath hrelative, hstands]

/-- Settings that name a column badly are an error where they are found. They are none behind a
directory that the program may not look into, and none at the end of a path that is too long. -/
theorem settings_passed_over_in_silence :
    let settings : FileNode := .file "[columns]\ngroup = \"group id\"\n".toUTF8
    let files : Files :=
      ((({} : Files).put ⟨["config.toml".toList]⟩ settings).put ⟨["locked".toList]⟩
        (.directory .none)).put ⟨["locked".toList, "config.toml".toList]⟩ settings
    let invocation : Invocation := { json := true, command := .answer (.normalize {}) }
    let outcome (path : String) := run { settingsFile := some path } files invocation
    let promised (path : String) := firstFailure { settingsFile := some path } files {}
    let long := Files.prolong "config.toml" 2100
    files.Rooted
      ∧ (promised "config.toml" = some ("CONFIG_ERROR", 5)
          ∧ (outcome "config.toml").failure? = some ("CONFIG_ERROR", 5))
      ∧ (promised "locked/config.toml" = some ("CONFIG_ERROR", 5)
          ∧ (outcome "locked/config.toml").failure? = none)
      ∧ promised long = some ("CONFIG_ERROR", 5) ∧ (outcome long).failure? = none := by
  intro settings files invocation outcome promised long
  have hrooted : files.Rooted := ((Files.rooted_empty.put rfl rfl).put rfl rfl).put rfl rfl
  have hfailure (path : String) :=
    @failure?_run { settingsFile := some path } files invocation {} rfl
  have hsilent (path : String)
      (hpassed : settingsPassedOver { settingsFile := some path } files = true) :
      promised path = some ("CONFIG_ERROR", 5) ∧ (outcome path).failure? = none := by
    have hunusable := not_settingsUsable_of_passedOver { settingsFile := some path } files hpassed
    refine ⟨?_, ?_⟩
    · show firstFailure _ _ _ = _
      unfold firstFailure
      rw [hunusable]
      rfl
    · rw [hfailure, hpassed]
      rfl
  have hlong := @settingsPassedOver_prolong files "config.toml" rfl (by decide) (by decide)
    (by decide +kernel) 2100 (by decide)
  refine ⟨hrooted, ⟨by decide +kernel, ?_⟩, hsilent _ (by decide +kernel), hsilent _ hlong⟩
  rw [hfailure]
  decide +kernel

end GroupScope.CommandLine
