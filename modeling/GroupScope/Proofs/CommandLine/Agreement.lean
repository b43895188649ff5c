import GroupScope.CommandLine.Run
import GroupScope.Proofs.Parameters.Reread
import GroupScope.Proofs.Report.Values
/-!
# Three commands on one request

`normalize`, `compile` and `explain` get a request ready in the same way, so they fail together and
for the same reason. If they do not, they print one story:

    explain      params     is what normalize prints
    explain      sql        is the names and conditions that compile prints
    explain      the rest   is the one resolution that the parameters came from

The main statement is `explain_agrees`.
-/

namespace GroupScope.CommandLine

/-! ## §1. What a command prints. -/

theorem Task.value_bind (x : Task α) (f : α → Task β) :
    (x >>= f).run.value = x.run.value >>= fun a => (f a).run.value := by
  show (ExceptT.bindCont f x.run.value).value = _
  cases x.run.value <;> rfl

/-- The request that the options ask for with all that it is worked on with, or the reason why it
could not be got ready. -/
def prepared? (environment : Environment) (files : Files) (options : RequestOptions) :
    Except CommandError Prepared :=
  (prepare environment files options).run.value

/-- The invocation of a query that asks for JSON, under the other flags of an invocation. -/
def Invocation.asking (flags : Invocation) (query : Query) : Invocation :=
  { flags with json := true, command := .answer query }

/-- What the expression of the request is resolved to. -/
def Prepared.resolution (prepared : Prepared) : Resolution :=
  (resolve prepared.request.expression prepared.request.native prepared.context
    prepared.settings).value

/-- The parameters from before with the request folded in. -/
def Prepared.parameters (prepared : Prepared) : Parameters :=
  prepared.existing.absorb prepared.resolution

/-- The fragments that the parameters are compiled to. -/
def Prepared.predicates (prepared : Prepared) : PredicateSet :=
  (prepared.parameters.compile prepared.context).value

/-- The explanation of the request. -/
def Prepared.explanation (prepared : Prepared) (expression : Option String) : Explanation where
  expression := expression
  resolution := prepared.resolution
  dropped := DroppedItem.ofTable prepared.table prepared.resolution.dropped
  parameters := prepared.parameters
  predicates := prepared.predicates

section

variable (environment : Environment) (files : Files) (options : RequestOptions) (flags : Invocation)

/-- Once a request is ready, nothing fails any more. -/
theorem value_prepare_bind {rest : Prepared → Task String} {text : Prepared → String}
    (h : ∀ prepared, (rest prepared).run.value = .ok (text prepared)) :
    (prepare environment files options >>= rest).run.value =
      (prepared? environment files options).map text := by
  rw [Task.value_bind]
  show prepared? environment files options >>= _ = _
  cases prepared? environment files options with
  | error e => rfl
  | ok prepared => exact h prepared

theorem result_normalize :
    (run environment files (flags.asking (.normalize options))).result =
      (prepared? environment files options).map fun prepared =>
        Report.line prepared.parameters.toJson.pretty :=
  value_prepare_bind environment files options fun _ => rfl

theorem result_compile :
    (run environment files (flags.asking (.compile options []))).result =
      (prepared? environment files options).map fun prepared =>
        Report.line
          (Report.predicatesValue prepared.predicates prepared.settings.columns).pretty := by
  refine value_prepare_bind environment files options fun prepared => ?_
  rw [← Report.predicatesJson_eq]
  rfl

theorem result_explain :
    (run environment files (flags.asking (.explain options))).result =
      (prepared? environment files options).map fun prepared =>
        Report.line (Report.explanationValue (prepared.explanation options.expression)
          prepared.settings.columns).pretty := by
  refine value_prepare_bind environment files options fun prepared => ?_
  rw [← Report.explanationJson_eq]
  rfl

end

/-! ## §2. Getting a request ready. -/

section

variable {environment : Environment} {files : Files} {options : RequestOptions}
  {prepared : Prepared}

/-- A request is got ready in four steps; what is reported on the way changes nothing. -/
theorem prepared?_eq :
    prepared? environment files options = (do
      let settings ← (loadSettings environment files).run.value
      let table ← directoryOf files options
      let existing ← existingOf options
      let request ← requestOf options
      .ok ⟨settings, table, .ofUser? options.viewer, options.page, existing, request⟩) := by
  unfold prepared? prepare
  simp only [Task.value_bind]
  rfl

/-- A request that is ready went through every step. -/
theorem prepared?_eq_ok_iff :
    prepared? environment files options = .ok prepared ↔
      ∃ settings table existing request,
        (loadSettings environment files).run.value = .ok settings
          ∧ directoryOf files options = .ok table
          ∧ existingOf options = .ok existing
          ∧ requestOf options = .ok request
          ∧ prepared =
              ⟨settings, table, .ofUser? options.viewer, options.page, existing, request⟩ := by
  rw [prepared?_eq]
  simp only [bind_eq_ok_iff]
  constructor
  · rintro ⟨settings, hsettings, table, htable, existing, hexisting, request, hrequest, h⟩
    exact ⟨settings, table, existing, request, hsettings, htable, hexisting, hrequest,
      (Except.ok.inj h).symm⟩
  · rintro ⟨settings, table, existing, request, hsettings, htable, hexisting, hrequest, rfl⟩
    exact ⟨settings, hsettings, table, htable, existing, hexisting, request, hrequest, rfl⟩

/-- The parameters before a request were read, or there were none. -/
theorem legible_existingOf {existing : Parameters} (h : existingOf options = .ok existing) :
    existing.Legible := by
  unfold existingOf at h
  cases hparameters : options.parameters with
  | none =>
    rw [hparameters] at h
    injection h with h
    subst h
    simp [Parameters.Legible]
  | some text =>
    rw [hparameters] at h
    simp only [parametersIn] at h
    cases hvalue : Json.read text with
    | none =>
      rw [hvalue] at h
      cases h
    | some value =>
      rw [hvalue] at h
      exact Parameters.legible_of_ofJson (mapError_eq_ok_iff.mp h)

theorem Prepared.legible_parameters (h : prepared? environment files options = .ok prepared) :
    prepared.parameters.Legible := by
  obtain ⟨settings, table, existing, request, -, -, hexisting, -, rfl⟩ := prepared?_eq_ok_iff.mp h
  exact (legible_existingOf hexisting).absorb (resolve_outcome ..)

/-- The parameters that are printed are read as those that the request led to. -/
theorem Prepared.ofJson_parameters (h : prepared? environment files options = .ok prepared) :
    Parameters.ofJson prepared.parameters.toJson.canonical = .ok prepared.parameters := by
  rw [Parameters.ofJson_canonical]
  exact Parameters.ofJson_toJson_eq_self_iff.mpr (legible_parameters h)

end

/-! ## §3. All at once. -/

/-- A text is printed, and it is read as the value. -/
def Outcome.Prints (outcome : Outcome) (value : Json) : Prop :=
  ∃ text, outcome.result = .ok text ∧ Json.read text = some value

theorem Outcome.prints_of_pretty {outcome : Outcome} {value : Json}
    (h : outcome.result = .ok (Report.line value.pretty))
    (hvalue : Json.Readable Json.maxDepth value) : outcome.Prints value.canonical :=
  ⟨_, h, Json.read_pretty_newline hvalue⟩

/-- **What an explanation says is so.** On one request, `normalize`, `compile` and `explain` with
JSON output fail together with one error, or all three print. Then the parameters in the explanation
are those that `normalize` prints, its conditions are those that `compile` prints, under the same
names, and what it says about the expression is said of the one resolution that was folded into the
parameters. -/
theorem explain_agrees (environment : Environment) (files : Files) (options : RequestOptions)
    (flags : Invocation) :
    let outcome (query : Query) := run environment files (flags.asking query)
    (∃ error, (outcome (.normalize options)).result = .error error
        ∧ (outcome (.compile options [])).result = .error error
        ∧ (outcome (.explain options)).result = .error error)
      ∨ ∃ parameters predicates report,
          (outcome (.normalize options)).Prints parameters
          ∧ (outcome (.compile options [])).Prints predicates
          ∧ (outcome (.explain options)).Prints report
          ∧ report.field? "params" = some parameters
          ∧ (∃ clauses items, report.field? "sql" = some (.object clauses)
              ∧ predicates.field? "predicates" = some (.array items)
              ∧ items.map (fun item => (item.field? "name", item.field? "sql")) =
                  clauses.map fun (name, clause) => (some (.string name), some clause))
          ∧ ∃ prepared, prepared? environment files options = .ok prepared
              ∧ Parameters.ofJson parameters = .ok (prepared.existing.absorb prepared.resolution)
              ∧ report.field? "directive" = some (Wire.directive prepared.resolution.directive)
              ∧ report.field? "include_ids" = some (.ids prepared.resolution.included)
              ∧ report.field? "exclude_ids" = some (.ids prepared.resolution.excluded)
              ∧ ∃ dropped, report.field? "dropped" = some (.array dropped)
                  ∧ dropped.map (fun item => item.field? "token") =
                      prepared.resolution.dropped.map fun text => some (.string text) := by
  intro outcome
  have hnormalize := result_normalize environment files options flags
  have hcompile := result_compile environment files options flags
  have hexplain := result_explain environment files options flags
  cases hprepared : prepared? environment files options with
  | error error =>
    rw [hprepared] at hnormalize hcompile hexplain
    exact .inl ⟨error, hnormalize, hcompile, hexplain⟩
  | ok prepared =>
    rw [hprepared] at hnormalize hcompile hexplain
    refine .inr ⟨_, _, _,
      Outcome.prints_of_pretty hnormalize prepared.parameters.readable_toJson,
      Outcome.prints_of_pretty hcompile (Report.readable_predicatesValue _ _),
      Outcome.prints_of_pretty hexplain (Report.readable_explanationValue _ _), ?_⟩
    obtain ⟨hparams, hsql, hdirective, hincluded, hexcluded, hdropped⟩ :=
      Report.field?_explanationValue (prepared.explanation options.expression)
        prepared.settings.columns
    obtain ⟨items, hitems, hfields⟩ :=
      Report.field?_predicatesValue prepared.predicates prepared.settings.columns
    refine ⟨hparams, ⟨_, items, hsql, hitems, ?_⟩, prepared, rfl,
      Prepared.ofJson_parameters hprepared, hdirective, hincluded, hexcluded, _, hdropped, ?_⟩
    · rw [hfields, Report.clauseFields, List.map_map]
      rfl
    · show List.map _ (List.map _ (List.map _ _)) = _
      rw [List.map_map, List.map_map]
      exact List.map_congr_left fun text _ => Report.field?_droppedJson _

end GroupScope.CommandLine
