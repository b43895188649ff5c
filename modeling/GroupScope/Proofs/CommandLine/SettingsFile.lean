import GroupScope.CommandLine.Arguments
import GroupScope.Proofs.CommandLine.Failure
import GroupScope.Proofs.Files.Store
/-!
# What runs do to files

A query changes nothing, and a run that fails changes no file. What is left is the settings file:

    written    the default text stands at the target of the settings path,
               and all other files are as they were

Without force a run fails if something stands at the settings path, whether or not it is found: what
keeps it from being found keeps it from being written. But the path is looked at before its
directories are made, and making them can open the way to a file: nothing stands at
`missing/../config.toml` as long as there is no `missing`. Then the file at the target is
overwritten, force or not. This takes a `..` in the path; on any other path no file is lost without
force.

The main statement is `files_after_uses`.
-/

namespace GroupScope.CommandLine

open Files (MakesDirectories)

/-! ## §1. Writing the settings file. -/

/-- The default settings file. -/
def templateBytes : ByteArray := Settings.template.toUTF8

/-- What an attempt at writing the settings file comes to. -/
inductive Attempt (environment : Environment) (files : Files) (force : Bool) : Outcome → Prop
  /-- It fails. Directories may have been made by then. -/
  | failed {later : Files} {error : FileError} (hmade : MakesDirectories files later) :
      Attempt environment files force (.failed later error)
  /-- The default text is put at the target of the settings path. -/
  | written {path text : String} {made : Files}
      (hpath : environment.settingsPath? = some path)
      (hforce : files.contains path = true → force = true)
      (hmade : MakesDirectories files made)
      (hlocate : made.locate path = .ok (files.target path))
      (hwrite : made.writeFault? (files.target path) = none) :
      Attempt environment files force
        { files := made.put (files.target path) (.file templateBytes), result := .ok text }

section

variable {environment : Environment} {files : Files} {invocation : Invocation} {force : Bool}
  {path : String} {outcome : Outcome}

theorem attempt_writeSettings :
    Attempt environment files force (writeSettings environment files invocation force) := by
  unfold writeSettings settingsPath
  cases hpath : environment.settingsPath? with
  | none => exact .failed .refl
  | some path =>
    simp only
    split
    · exact .failed .refl
    · next hrefused =>
      have hforce : files.contains path = true → force = true := by
        intro hcontains
        simpa [hcontains] using hrefused
      have hmade := files.ensureParent_makes path
      split
      · exact .failed hmade
      · split
        · next fault hfault =>
          rw [Files.files_write_of_fault hfault]
          exact .failed hmade
        · next hwritten =>
          obtain ⟨hlocate, hwrite, hfiles⟩ := Files.files_write hwritten
          rw [hmade.target_eq] at hlocate hwrite hfiles
          rw [hfiles]
          exact .written hpath hforce hmade hlocate hwrite

theorem attempt_run (h : invocation.command = .writeSettings force) :
    Attempt environment files force (run environment files invocation) := by
  unfold run
  rw [h]
  exact attempt_writeSettings

/-- A path at which something stands is refused, and nothing is changed. -/
theorem run_of_contains (h : invocation.command = .writeSettings false)
    (hpath : environment.settingsPath? = some path) (hcontains : files.contains path = true) :
    run environment files invocation = .failed files (.settingsPresent path) := by
  unfold run writeSettings settingsPath
  simp only [h, hpath, hcontains, Bool.not_false, and_self, if_true]

theorem Attempt.rooted (h : Attempt environment files force outcome) (hfiles : files.Rooted) :
    outcome.files.Rooted := by
  cases h with
  | failed hmade => exact hfiles.makeDirectories hmade
  | written hpath hforce hmade hlocate hwrite =>
    have hrooted := hfiles.makeDirectories hmade
    obtain ⟨hfree, hparent⟩ := Files.isDirectory_of_writeFault? hwrite
    exact hrooted.put (hparent hrooted) hfree

theorem Attempt.content?_of_failed (h : Attempt environment files force outcome)
    (hfailed : outcome.failure? ≠ none) (place : Location) :
    outcome.files.content? place = files.content? place := by
  cases h with
  | failed hmade => exact hmade.content?_eq
  | written => exact absurd rfl hfailed

theorem ofText_of_toList {text : String} {chars : List Char} (htext : text.toList = chars)
    (hchars : ((Toml.Document.takeLines (Toml.dropMark chars).length {} (Toml.dropMark chars)).map
      Toml.Document.root).bind Settings.ofEntries? = some {}) :
    Settings.ofText text = .ok {} := by
  subst htext
  unfold Settings.ofText Toml.read
  rw [hchars]
  rfl

/-- Settings in the default text are the default settings. -/
theorem ofText_template : Settings.ofText Settings.template = .ok {} := by
  have hlines : ∃ chars, Settings.template.toList = chars ∧
      ((Toml.Document.takeLines (Toml.dropMark chars).length {} (Toml.dropMark chars)).map
        Toml.Document.root).bind Settings.ofEntries? = some {} := by
    -- The characters of a text are found much faster line by line.
    unfold Settings.template
    simp only [String.toList_append]
    exact ⟨_, rfl, by decide +kernel⟩
  obtain ⟨chars, htext, hchars⟩ := hlines
  exact ofText_of_toList htext hchars

/-- A default text at the end of the settings path gives the default settings. -/
theorem value_loadSettings_of_template (hpath : environment.settingsPath? = some path)
    (hopen : files.open? path = .ok (.file templateBytes)) :
    (loadSettings environment files).run.value = .ok {} := by
  have hcontains : files.contains path = true := by
    unfold Files.contains
    rw [hopen]
  have hread : files.readText path = .ok Settings.template := by
    unfold Files.readText
    rw [hopen]
    exact Files.textIn_file rfl
  have hsettings : settingsAt files path = .ok {} := by
    unfold settingsAt
    rw [if_pos hcontains, hread]
    show (Settings.ofText Settings.template).mapError FileError.ofSettings = .ok {}
    rw [ofText_template]
    rfl
  rw [value_loadSettings]
  unfold settingsPath
  rw [hpath]
  show (settingsAt files path).mapError CommandError.files = _
  rw [hsettings]
  rfl

/-- **Success changes one file**, the one at the target of the settings path, to the default text,
and from there the default settings are read. -/
theorem Attempt.of_succeeded (h : Attempt environment files force outcome)
    (hsucceeded : outcome.failure? = none) :
    ∃ path, environment.settingsPath? = some path
      ∧ ((files.stands? path).isSome = true → force = true)
      ∧ outcome.files.locate path = .ok (files.target path)
      ∧ outcome.files.content? (files.target path) = some templateBytes
      ∧ (∀ place, place ≠ files.target path →
          outcome.files.content? place = files.content? place)
      ∧ (loadSettings environment outcome.files).run.value = .ok {} := by
  cases h with
  | failed => cases hsucceeded
  | @written path text made hpath hforce hmade hlocate hwrite =>
    obtain ⟨hfault, hfollow⟩ := Files.locate_eq_ok_iff.mp hlocate
    obtain ⟨hfree, -⟩ := Files.isDirectory_of_writeFault? hwrite
    -- No directory made way for the file, so the path still leads to it.
    have hlocate' : (made.put (files.target path) (.file templateBytes)).locate path =
        .ok (files.target path) :=
      Files.locate_eq_ok_iff.mpr ⟨hfault, Files.follow_put hfree hfollow⟩
    have hopen : (made.put (files.target path) (.file templateBytes)).open? path =
        .ok (.file templateBytes) := Files.open?_of_locate hlocate' Files.node?_put_self
    have hcontent : (made.put (files.target path) (.file templateBytes)).content?
        (files.target path) = some templateBytes := by
      unfold Files.content?
      rw [Files.node?_put_self]
    refine ⟨path, hpath, fun hstands => hforce (hmade.contains_of_stands hstands hlocate),
      hlocate', hcontent, fun place hplace => ?_, value_loadSettings_of_template hpath hopen⟩
    exact (Files.content?_congr (Files.node?_put_of_ne hplace)).trans hmade.content?_eq

/-- Only one kind of error is met. -/
theorem Attempt.failure?_of_failed (h : Attempt environment files force outcome)
    (hfailed : outcome.failure? ≠ none) : outcome.failure? = some ("CONFIG_ERROR", 5) := by
  cases h with
  | failed => rfl
  | written => exact absurd rfl hfailed

/-- **What stands at the path is refused without force**, whether or not it is found. -/
theorem Attempt.failed_of_stands (h : Attempt environment files false outcome)
    (hpath : environment.settingsPath? = some path)
    (hstands : (files.stands? path).isSome = true) :
    outcome.failure? = some ("CONFIG_ERROR", 5) := by
  refine h.failure?_of_failed fun hsucceeded => ?_
  obtain ⟨path', hpath', hforce, -⟩ := h.of_succeeded hsucceeded
  obtain rfl : path' = path := Option.some.inj (hpath'.symm.trans hpath)
  cases hforce hstands

/-- **No file is lost without force on a path that does not go up.** -/
theorem Attempt.content?_of_not_mem (h : Attempt environment files false outcome)
    (hfiles : files.Rooted) (hpath : environment.settingsPath? = some path)
    (hnames : ['.', '.'] ∉ Files.pathNames path) {place : Location} {content : ByteArray}
    (hcontent : files.content? place = some content) :
    outcome.files.content? place = some content := by
  cases h with
  | failed hmade => exact hmade.content?_eq.trans hcontent
  | @written path' text made hpath' hforce hmade hlocate hwrite =>
    obtain rfl : path' = path := Option.some.inj (hpath'.symm.trans hpath)
    by_cases hplace : place = files.target path'
    · -- The file stood at the path, so it would have been found when the path was looked at.
      subst hplace
      have hstands := hfiles.stands?_of_grown hnames hmade hcontent hlocate
      cases hforce (hmade.contains_of_stands hstands hlocate)
    · exact (Files.content?_congr (Files.node?_put_of_ne hplace)).trans
        (hmade.content?_eq.trans hcontent)

/-- Every file is kept just when success does not meet another text at the target of the path. -/
theorem Attempt.keeps_iff (h : Attempt environment files force outcome)
    (hpath : environment.settingsPath? = some path) :
    (∀ place content, files.content? place = some content →
        outcome.files.content? place = some content) ↔
      (outcome.failure? = none → ∀ content, files.content? (files.target path) = some content →
        content = templateBytes) := by
  constructor
  · intro hkept hsucceeded content hcontent
    obtain ⟨path', hpath', -, -, htemplate, -⟩ := h.of_succeeded hsucceeded
    obtain rfl : path' = path := Option.some.inj (hpath'.symm.trans hpath)
    exact Option.some.inj ((hkept _ content hcontent).symm.trans htemplate)
  · intro htarget place content hcontent
    by_cases hsucceeded : outcome.failure? = none
    · obtain ⟨path', hpath', -, -, htemplate, hothers, -⟩ := h.of_succeeded hsucceeded
      obtain rfl : path' = path := Option.some.inj (hpath'.symm.trans hpath)
      by_cases hplace : place = files.target path'
      · subst hplace
        rw [htemplate, htarget hsucceeded content hcontent]
      · rw [hothers place hplace, hcontent]
    · rw [h.content?_of_failed hsucceeded, hcontent]

/-! ## §2. Runs. -/

theorem files_run_answer {query : Query} (h : invocation.command = .answer query) :
    (run environment files invocation).files = files := by
  unfold run
  rw [h]

theorem rooted_run (hfiles : files.Rooted) (environment : Environment) (invocation : Invocation) :
    (run environment files invocation).files.Rooted := by
  cases hcommand : invocation.command with
  | answer query => rwa [files_run_answer hcommand]
  | writeSettings force => exact (attempt_run hcommand).rooted hfiles

/-- **A run that fails changes no file.** -/
theorem content?_run_of_failed (h : (run environment files invocation).failure? ≠ none)
    (place : Location) :
    (run environment files invocation).files.content? place = files.content? place := by
  cases hcommand : invocation.command with
  | answer query => rw [files_run_answer hcommand]
  | writeSettings force => exact (attempt_run hcommand).content?_of_failed h place

end

/-! ## §3. Uses in a row. -/

/-- One use of the program: what it finds in its environment, and its arguments. -/
structure Use where
  environment : Environment
  arguments : List String

/-- The run that the use asks for, unless its arguments are refused. -/
def Use.invocation? (use : Use) : Except UsageStop Invocation :=
  Invocation.ofArguments use.environment.directoryFile use.arguments

/-- The files after a use. Where there is nothing to run, nothing changes. -/
def Use.filesAfter (files : Files) (use : Use) : Files :=
  match use.invocation? with
  | .error _ => files
  | .ok invocation => (run use.environment files invocation).files

/-- The files after uses in a row. -/
def filesAfter (files : Files) (uses : List Use) : Files := uses.foldl Use.filesAfter files

/-- The use succeeds at writing a settings file, which has its target at the location. -/
def Use.Writes (use : Use) (files : Files) (place : Location) : Prop :=
  ∃ invocation force path, use.invocation? = .ok invocation
    ∧ invocation.command = .writeSettings force
    ∧ (run use.environment files invocation).failure? = none
    ∧ use.environment.settingsPath? = some path
    ∧ place = files.target path

theorem Use.rooted_filesAfter {files : Files} (h : files.Rooted) (use : Use) :
    (use.filesAfter files).Rooted := by
  unfold Use.filesAfter
  cases use.invocation? with
  | error stop => exact h
  | ok invocation => exact rooted_run h use.environment invocation

theorem rooted_filesAfter {files : Files} (h : files.Rooted) (uses : List Use) :
    (filesAfter files uses).Rooted := by
  induction uses generalizing files with
  | nil => exact h
  | cons use rest ih => exact ih (use.rooted_filesAfter h)

/-- One use leaves a file as it is, or writes the default text there. -/
theorem Use.content?_filesAfter (use : Use) (files : Files) (place : Location) :
    (use.filesAfter files).content? place = files.content? place
      ∨ (use.filesAfter files).content? place = some templateBytes ∧ use.Writes files place := by
  unfold Use.filesAfter
  cases hinvocation : use.invocation? with
  | error stop => exact .inl rfl
  | ok invocation =>
    simp only
    cases hcommand : invocation.command with
    | answer query => exact .inl (by rw [files_run_answer hcommand])
    | writeSettings force =>
      have hattempt : Attempt use.environment files force _ := attempt_run hcommand
      by_cases hsucceeded : (run use.environment files invocation).failure? = none
      · obtain ⟨path, hpath, -, -, htemplate, hothers, -⟩ := hattempt.of_succeeded hsucceeded
        by_cases hplace : place = files.target path
        · exact .inr ⟨hplace ▸ htemplate, invocation, force, path, hinvocation, hcommand,
            hsucceeded, hpath, hplace⟩
        · exact .inl (hothers place hplace)
      · exact .inl (hattempt.content?_of_failed hsucceeded place)

/-- **A file that is not as it was is a settings file**: it has the default text, and one of the
uses wrote it. -/
theorem content?_filesAfter (files : Files) (uses : List Use) (place : Location) :
    (filesAfter files uses).content? place = files.content? place
      ∨ (filesAfter files uses).content? place = some templateBytes
        ∧ ∃ before use after, uses = before ++ use :: after
          ∧ use.Writes (filesAfter files before) place := by
  -- If none of the later uses wrote the file, the first one did, or it is as it was.
  induction uses generalizing files with
  | nil => exact .inl rfl
  | cons use rest ih =>
    show (filesAfter (use.filesAfter files) rest).content? place = _ ∨
      (filesAfter (use.filesAfter files) rest).content? place = _ ∧ _
    rcases ih (use.filesAfter files) with hrest | ⟨htemplate, before, other, after, hrest, hwrites⟩
    · rw [hrest]
      rcases use.content?_filesAfter files place with hkept | ⟨htemplate, hwrites⟩
      · exact .inl hkept
      · exact .inr ⟨htemplate, [], use, rest, rfl, hwrites⟩
    · exact .inr ⟨htemplate, use :: before, other, after, by rw [hrest]; rfl, hwrites⟩

/-! ## §4. All at once. -/

/-- **Files change only where a settings file is written.** After uses in a row, every file is as it
was, or it has the default text and one of the uses wrote it. Whatever is run next, a query changes
nothing, and a run that fails changes no file. A run that writes the settings file changes the file
at the target of the settings path to the default text and no other, and then the default settings
are read. Without force it fails if something stands at the path, and changes nothing at all if that
is found; otherwise every file is kept just when the run does not meet another text at the target,
and always if the path does not go up. -/
theorem files_after_uses {start : Files} (h : start.Rooted) (uses : List Use) :
    let files := filesAfter start uses
    (∀ place, files.content? place = start.content? place
        ∨ files.content? place = some templateBytes
          ∧ ∃ before use after, uses = before ++ use :: after
            ∧ use.Writes (filesAfter start before) place)
      ∧ ∀ (environment : Environment) (invocation : Invocation),
        let outcome := run environment files invocation
        ((∀ force, invocation.command ≠ .writeSettings force) → outcome.files = files)
          ∧ (outcome.failure? ≠ none →
              ∀ place, outcome.files.content? place = files.content? place)
          ∧ (∀ force, invocation.command = .writeSettings force → outcome.failure? = none →
              ∃ path, environment.settingsPath? = some path
                ∧ outcome.files.locate path = .ok (files.target path)
                ∧ outcome.files.content? (files.target path) = some templateBytes
                ∧ (∀ place, place ≠ files.target path →
                    outcome.files.content? place = files.content? place)
                ∧ (loadSettings environment outcome.files).run.value = .ok {})
          ∧ ∀ path, environment.settingsPath? = some path →
              invocation.command = .writeSettings false →
              let keeps := ∀ place content, files.content? place = some content →
                outcome.files.content? place = some content
              ((files.stands? path).isSome = true →
                  outcome.failure? = some ("CONFIG_ERROR", 5)
                    ∧ ∀ place, outcome.files.content? place = files.content? place)
                ∧ (files.contains path = true →
                  outcome.failure? = some ("CONFIG_ERROR", 5) ∧ outcome.files = files)
                ∧ (keeps ↔ (outcome.failure? = none →
                    ∀ content, files.content? (files.target path) = some content →
                      content = templateBytes))
                ∧ (['.', '.'] ∉ Files.pathNames path → keeps) := by
  intro files
  have hfiles : files.Rooted := rooted_filesAfter h uses
  refine ⟨content?_filesAfter start uses, fun environment invocation => ?_⟩
  intro outcome
  refine ⟨fun hquery => ?_, content?_run_of_failed, fun force hcommand hsucceeded => ?_,
    fun path hpath hcommand => ?_⟩
  · cases hcommand : invocation.command with
    | answer query => exact files_run_answer hcommand
    | writeSettings force => exact absurd hcommand (hquery force)
  · obtain ⟨path, hpath, -, hwritten⟩ := (attempt_run hcommand).of_succeeded hsucceeded
    exact ⟨path, hpath, hwritten⟩
  · intro keeps
    have hattempt : Attempt environment files false outcome := attempt_run hcommand
    refine ⟨fun hstands => ?_, fun hcontains => ?_, hattempt.keeps_iff hpath,
      fun hnames place content hcontent =>
        hattempt.content?_of_not_mem hfiles hpath hnames hcontent⟩
    · have hfailed := hattempt.failed_of_stands hpath hstands
      exact ⟨hfailed, hattempt.content?_of_failed (by rw [hfailed]; nofun)⟩
    · have hrefused : outcome = .failed files (.settingsPresent path) :=
        run_of_contains hcommand hpath hcontains
      rw [hrefused]
      exact ⟨rfl, rfl⟩

/-- The settings file is written beside a file of notes, and is refused the second time. -/
theorem files_after_uses_of_second_attempt :
    let environment : Environment := { settingsFile := some "gf/config.toml" }
    let start : Files := ({} : Files).put ⟨["notes".toList]⟩ (.file "kept".toUTF8)
    let files := filesAfter start [⟨environment, ["config", "init"]⟩]
    let outcome := run environment files { command := .writeSettings false }
    start.Rooted ∧ outcome.failure? = some ("CONFIG_ERROR", 5) ∧ outcome.files = files := by
  intro environment start files outcome
  have hstart : start.Rooted := Files.rooted_empty.put rfl rfl
  have hcontains : files.contains "gf/config.toml" = true := by decide +kernel
  obtain ⟨-, hrun⟩ := files_after_uses hstart [⟨environment, ["config", "init"]⟩]
  obtain ⟨-, -, -, hunforced⟩ := hrun environment { command := .writeSettings false }
  obtain ⟨-, hrefused, -⟩ := hunforced "gf/config.toml" rfl rfl
  exact ⟨hstart, hrefused hcontains⟩

/-- A path through a missing directory and up again leads nowhere, so it is not refused. Making its
directories opens the way to a file of settings, and the file is overwritten without force. -/
theorem settings_overwritten_without_force :
    let environment : Environment := { settingsFile := some "missing/../config.toml" }
    let place : Location := ⟨["config.toml".toList]⟩
    let files : Files := ({} : Files).put place (.file "groups_enabled = false\n".toUTF8)
    let outcome := run environment files { command := .writeSettings false }
    files.Rooted
      ∧ files.content? place = some "groups_enabled = false\n".toUTF8
      ∧ outcome.failure? = none
      ∧ outcome.files.content? place = some templateBytes
      ∧ outcome.files.content? place ≠ files.content? place := by
  intro environment place files outcome
  have hcontent : files.content? place = some "groups_enabled = false\n".toUTF8 := rfl
  have hsucceeded : outcome.failure? = none := by decide +kernel
  have hattempt : Attempt environment files false outcome := attempt_run rfl
  obtain ⟨path, hpath, -, -, htemplate, -⟩ := hattempt.of_succeeded hsucceeded
  obtain rfl : "missing/../config.toml" = path := Option.some.inj hpath
  have hplace : files.target "missing/../config.toml" = place := by decide +kernel
  rw [hplace] at htemplate
  refine ⟨Files.rooted_empty.put rfl rfl, hcontent, hsucceeded, htemplate, ?_⟩
  rw [htemplate, hcontent]
  exact fun h => absurd (Option.some.inj h) (by decide +kernel)

end GroupScope.CommandLine
