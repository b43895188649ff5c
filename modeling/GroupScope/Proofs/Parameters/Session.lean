import GroupScope.Proofs.Parameters.RoundTrip
import GroupScope.Proofs.Parameters.Update
/-!
# Sessions never read twice

Between two requests a host may change who is looking, the page, the directory and the settings, and
it may write its parameters down and read them back. However these moves follow each other, once a
request has been normalized there is no state in which an unresolved expression stands beside a
derived list:

    s.run (before ++ normalize request :: after) = ok t   with   t.parameters.SingleReading

One move keeps the property (`Move.step_keeps`), a normalized request brings it about, and a run
does what its moves do.
-/

namespace GroupScope

/-! ## §1. Moves and runs. -/

/-- What a host keeps from one request to the next. -/
structure Session where
  /-- The parameters, as they are. -/
  parameters : Parameters
  /-- Who is looking, and from where. -/
  context : Context
  /-- The settings. -/
  settings : Settings

/-- What may happen to a session. -/
inductive Session.Move where
  /-- A request is normalized under the context and the settings of the moment. -/
  | normalize (request : Request)
  /-- Another viewer looks. -/
  | viewer (viewer : Viewer)
  /-- The viewer is on another page. -/
  | page (page : Option GroupId)
  /-- Lookups are answered by another directory. -/
  | directory (directory : Directory)
  /-- The settings change; group support may be switched on or off. -/
  | settings (settings : Settings)
  /-- The parameters are written down and read back. -/
  | roundTrip

namespace Session

/-- The session after a move. Only reading back could fail. -/
def step (s : Session) : Move → Except FilterError Session
  | .normalize request =>
    .ok { s with parameters := (s.parameters.normalize request s.context s.settings).value }
  | .viewer viewer => .ok { s with context := { s.context with viewer } }
  | .page page => .ok { s with context := { s.context with page } }
  | .directory directory => .ok { s with context := { s.context with directory } }
  | .settings settings => .ok { s with settings }
  | .roundTrip => do
    let parameters ← Parameters.ofJson s.parameters.toJson
    pure { s with parameters }

/-- The session after moves in a row. -/
def run (s : Session) : List Move → Except FilterError Session
  | [] => .ok s
  | move :: moves => do
    let s ← s.step move
    s.run moves

/-! ## §2. One move. -/

/-- What a move makes of the parameters. -/
def parametersAfter (s : Session) : Move → Parameters
  | .normalize request => (s.parameters.normalize request s.context s.settings).value
  | .roundTrip => s.parameters.reread
  | _ => s.parameters

/-- **Every move succeeds**, and its effect on the parameters is known. -/
theorem step_eq (s : Session) (move : Move) :
    ∃ t, s.step move = .ok t ∧ t.parameters = s.parametersAfter move := by
  cases move with
  | roundTrip =>
    refine ⟨{ s with parameters := s.parameters.reread }, ?_, rfl⟩
    unfold step
    rw [Parameters.ofJson_toJson]
    rfl
  | normalize | viewer | page | directory | settings => exact ⟨_, rfl, rfl⟩

theorem singleReading_normalize (s : Session) (request : Request) :
    (s.parametersAfter (.normalize request)).SingleReading :=
  Parameters.singleReading_absorb s.parameters _

/-- **Every move keeps one reading.** -/
theorem singleReading_parametersAfter {s : Session} (h : s.parameters.SingleReading) (move : Move) :
    (s.parametersAfter move).SingleReading := by
  cases move with
  | normalize request => exact s.singleReading_normalize request
  | roundTrip =>
    rintro ⟨he, hd⟩
    exact h ⟨Parameters.hasExpression_of_reread he, hd⟩
  | viewer | page | directory | settings => exact h

/-! ## §3. Moves in a row. -/

theorem run_append (s : Session) (first second : List Move) :
    s.run (first ++ second) = (s.run first).bind (·.run second) := by
  induction first generalizing s with
  | nil => rfl
  | cons move moves ih =>
    obtain ⟨t, ht, -⟩ := s.step_eq move
    show (s.step move).bind (·.run (moves ++ second)) = ((s.step move).bind (·.run moves)).bind _
    rw [ht]
    exact ih t

theorem run_ok (s : Session) (moves : List Move) : ∃ t, s.run moves = .ok t := by
  induction moves generalizing s with
  | nil => exact ⟨s, rfl⟩
  | cons move moves ih =>
    obtain ⟨t, ht, -⟩ := s.step_eq move
    obtain ⟨u, hu⟩ := ih t
    refine ⟨u, ?_⟩
    show (s.step move).bind (·.run moves) = .ok u
    rw [ht]
    exact hu

/-- What every move keeps of the parameters, moves in a row keep. -/
theorem parameters_of_run {P : Parameters → Prop}
    (hkeeps : ∀ (s : Session) (move : Move), P s.parameters → P (s.parametersAfter move))
    {s t : Session} (h : P s.parameters) {moves : List Move} (hr : s.run moves = .ok t) :
    P t.parameters := by
  induction moves generalizing s with
  | nil =>
    injection hr with hr
    subst hr
    exact h
  | cons move moves ih =>
    obtain ⟨u, hu, hp⟩ := s.step_eq move
    have hr' : (s.step move).bind (·.run moves) = .ok t := hr
    rw [hu] at hr'
    refine ih ?_ hr'
    rw [hp]
    exact hkeeps s move h

theorem singleReading_of_run {s t : Session} (h : s.parameters.SingleReading) {moves : List Move}
    (hr : s.run moves = .ok t) : t.parameters.SingleReading :=
  parameters_of_run (fun _ move hs => singleReading_parametersAfter hs move) h hr

/-- **No double reading.** Whatever a session starts from, the moves up to any point after a
normalized request succeed, and leave no unresolved expression beside a derived list. -/
theorem run_singleReading (s : Session) (before after : List Move) (request : Request) :
    ∃ t, s.run (before ++ .normalize request :: after) = .ok t
      ∧ ¬(t.parameters.hasExpression = true ∧ t.parameters.hasDerived = true) := by
  -- Of the moves before the request only their success matters: the request settles the rest.
  obtain ⟨u, hu⟩ := s.run_ok before
  obtain ⟨v, hv, hp⟩ := u.step_eq (.normalize request)
  obtain ⟨t, ht⟩ := v.run_ok after
  refine ⟨t, ?_, singleReading_of_run ?_ ht⟩
  · rw [run_append, hu]
    show (u.step (.normalize request)).bind (·.run after) = .ok t
    rw [hv]
    exact ht
  · rw [hp]
    exact u.singleReading_normalize request

end Session

end GroupScope
