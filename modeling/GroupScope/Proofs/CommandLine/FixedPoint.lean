import GroupScope.CommandLine.Arguments
import GroupScope.Proofs.CommandLine.Agreement
/-!
# Normalized output as input

What `normalize --json` prints can be handed to it again, as the parameters before a request that
asks for nothing:

    normalize --json …            prints  T
    normalize --json --params T   prints  T

Three things carry this. The printed text is read back, so parameters come back as they were. They
hold one reading only, so nothing is left that a request for nothing could settle. And the text is
an object, so on the command line it is a value and no option. The main statement is
`normalize_again`.
-/

namespace GroupScope

/-- A request for nothing leaves one reading as it is. -/
theorem Parameters.SingleReading.absorb_nothing {p : Parameters} (h : p.SingleReading)
    (context : Context) (settings : Settings) :
    p.absorb (resolve none {} context settings).value = p := by
  rw [absorb_eq (resolve_outcome none {} context settings)]
  have hgroup : p.groupAfter (resolve none {} context settings).value = p.group :=
    h.settledGroup_eq
  rw [hgroup]
  simp [resolve, replaceBy]

namespace CommandLine

/-! ## §1. On the command line. -/

/-- A text that does not start with a hyphen is no option. -/
theorem Progress.take_of_ne_hyphen {p : Progress} (hp : p.trailing = false) {argument : String}
    (h : argument.toList.head? ≠ some '-') : p.take argument = p.takeOther argument := by
  unfold take
  rw [hp]
  split
  next htrailing => cases htrailing
  next =>
    split
    next => rfl
    next =>
      split
      case h_5 => rfl
      all_goals simp_all

/-- The arguments that hand over parameters and ask for nothing. -/
def resumeArguments (parameters : String) : List String :=
  ["normalize", "--json", "--params", parameters]

/-- What these arguments ask for. -/
def resumeInvocation (parameters : String) : Invocation :=
  { json := true, command := .answer (.normalize { parameters := some parameters }) }

theorem ofArguments_resume {parameters : String} (h : parameters.toList.head? ≠ some '-') :
    Invocation.ofArguments none (resumeArguments parameters) =
      .ok (resumeInvocation parameters) := by
  -- All but the last argument are known words; the last one is awaited as a value.
  let awaiting : Progress :=
    { level := .normalize, outer := [[]], flags := [.json]
      pending := some { slot := .parameters } }
  have hwords : Progress.readAll {} (resumeArguments parameters) =
      awaiting.readAll [parameters] := rfl
  have htake : awaiting.take parameters = awaiting.takeOther parameters :=
    Progress.take_of_ne_hyphen rfl h
  unfold Invocation.ofArguments
  rw [hwords, Progress.readAll]
  show ((awaiting.take parameters >>= _) >>= _) = _
  rw [htake]
  rfl

/-! ## §2. The second run. -/

/-- What is ready when the parameters of a request are handed over and nothing is asked for. -/
def Prepared.resume (prepared : Prepared) : Prepared where
  settings := prepared.settings
  table := {}
  viewer := .anonymous
  page := none
  existing := prepared.parameters
  request := {}

/-- **A second request changes no parameters** if it asks for nothing. -/
theorem Prepared.parameters_resume (prepared : Prepared) :
    prepared.resume.parameters = prepared.parameters :=
  (Parameters.singleReading_absorb prepared.existing prepared.resolution).absorb_nothing _ _

/-- Neither the viewer nor the directory is looked at again. -/
theorem prepared?_resume {environment : Environment} {files : Files} {options : RequestOptions}
    {prepared : Prepared} (h : prepared? environment files options = .ok prepared) {given : String}
    (hgiven : Json.read given = some prepared.parameters.toJson.canonical) :
    prepared? { environment with directoryFile := none } files { parameters := some given } =
      .ok prepared.resume := by
  have hread : parametersIn given = .ok prepared.parameters := by
    unfold parametersIn
    rw [hgiven]
    simp only
    rw [Prepared.ofJson_parameters h]
    rfl
  obtain ⟨settings, table, existing, request, hsettings, -, -, -, rfl⟩ := prepared?_eq_ok_iff.mp h
  exact prepared?_eq_ok_iff.mpr ⟨settings, {}, _, {}, hsettings, rfl, hread, rfl, rfl⟩

/-! ## §3. Both runs. -/

/-- A line ends with its line end, and nothing else is added to its text. -/
theorem line_injective {a b : String} (h : Report.line a = Report.line b) : a = b := by
  have hlist : a.toList ++ "\n".toList = b.toList ++ "\n".toList := by
    rw [← String.toList_append, ← String.toList_append]
    exact congrArg String.toList h
  exact String.toList_inj.mp (List.append_cancel_right hlist)

/-- Printed parameters are an object, with the line end behind it or without. -/
theorem head?_of_printed {p : Parameters} {given : String}
    (h : given = p.toJson.pretty ∨ given = Report.line p.toJson.pretty) :
    given.toList.head? = some '\x7b' := by
  have hpretty : p.toJson.pretty.toList.head? = some '\x7b' := by
    rw [Parameters.toJson_eq_object]
    unfold Json.pretty Json.prettyAt Json.block
    split <;> simp [String.toList_append]
  rcases h with rfl | rfl
  · exact hpretty
  · rw [Report.line, String.toList_append, List.head?_append, hpretty]
    rfl

/-- Printed parameters are read back, with the line end behind them or without. -/
theorem read_of_printed {p : Parameters} {given : String}
    (h : given = p.toJson.pretty ∨ given = Report.line p.toJson.pretty) :
    Json.read given = some p.toJson.canonical := by
  rcases h with rfl | rfl
  · exact Json.read_pretty p.readable_toJson
  · exact Json.read_pretty_newline p.readable_toJson

/-- **Normalized output is a fixed point.** What a run of `normalize` with JSON output printed,
under any flags and for any request, is handed over as the parameters of a run that asks for
nothing, with its line end or without, under the same settings but without a directory. That run
succeeds and prints the same text. -/
theorem normalize_again {environment : Environment} {files : Files} {options : RequestOptions}
    {flags : Invocation} {text : String}
    (h : (run environment files (flags.asking (.normalize options))).result = .ok text)
    {given : String} (hgiven : given = text ∨ Report.line given = text) :
    ∃ invocation,
      Invocation.ofArguments none ["normalize", "--json", "--params", given] = .ok invocation
        ∧ (run { environment with directoryFile := none } files invocation).result = .ok text := by
  rw [result_normalize] at h
  cases hprepared : prepared? environment files options with
  | error e =>
    rw [hprepared] at h
    cases h
  | ok prepared =>
    rw [hprepared] at h
    have htext : Report.line prepared.parameters.toJson.pretty = text := Except.ok.inj h
    have hprinted : given = prepared.parameters.toJson.pretty ∨
        given = Report.line prepared.parameters.toJson.pretty := by
      rcases hgiven with hgiven | hgiven
      · exact .inr (hgiven.trans htext.symm)
      · exact .inl (line_injective (hgiven.trans htext.symm))
    have hhead : given.toList.head? ≠ some '-' := by
      rw [head?_of_printed hprinted]
      decide
    refine ⟨resumeInvocation given, ofArguments_resume hhead, ?_⟩
    -- What is ready for the second run are the parameters that the first one printed.
    show (run _ files (Invocation.asking { command := .answer .welcome } _)).result = _
    rw [result_normalize, prepared?_resume hprepared (read_of_printed hprinted)]
    show Except.ok (Report.line prepared.resume.parameters.toJson.pretty) = _
    rw [prepared.parameters_resume, htext]

/-- The first run has a viewer and older parameters with an entry that is no id; the second one gets
what was printed without its line end. -/
theorem normalize_again_of_native_list :
    let environment : Environment :=
      { settingsFile := some "settings.toml", directoryFile := some "groups.toml" }
    let options : RequestOptions :=
      { expression := some "5, -7", parameters := some "\x7b\"group__in\": \"4, x\"\x7d",
        viewer := some 3 }
    let flags : Invocation := { verbose := true, command := .answer .welcome }
    let given := "\x7b\n  \"group_in\": [\n    5\n  ],\n  \"group_notin\": [\n    7\n  ],\n" ++
      "  \"group__in\": [\n    4,\n    0\n  ]\n\x7d"
    (run environment {} (flags.asking (.normalize options))).result = .ok (Report.line given)
      ∧ ∃ invocation,
          Invocation.ofArguments none ["normalize", "--json", "--params", given] = .ok invocation
            ∧ (run { environment with directoryFile := none } {} invocation).result =
                .ok (Report.line given) := by
  intro environment options flags given
  have hprepared : prepared? environment {} options =
      .ok { settings := {}, table := {}, viewer := .user 3, page := none,
            existing := { nativeIncluded := some [4, 0] },
            request := { expression := some (.text "5, -7") } } := by rfl
  have hpretty : Json.pretty (Parameters.toJson
      { included := some [5], excluded := some [7], nativeIncluded := some [4, 0] }) = given := by
    decide +kernel
  have hfirst : (run environment {} (flags.asking (.normalize options))).result =
      .ok (Report.line given) := by
    rw [result_normalize, hprepared, ← hpretty]
    rfl
  exact ⟨hfirst, normalize_again hfirst (.inr rfl)⟩

end CommandLine

end GroupScope
