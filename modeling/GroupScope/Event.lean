import GroupScope.Directory
import GroupScope.Expression.Resolution
/-!
# Events

Nothing a viewer types makes a request fail, so what went wrong on the way is told by events. A
computation that reports events is a `Logged` value: the result, and the events in order. Sequencing
two computations appends their events:

    (x >>= f).events = x.events ++ (f x.value).events
-/

namespace GroupScope

/-- Something worth a line in the log. -/
inductive Event where
  /-- The settings were read from a file, or defaulted for want of one. -/
  | settingsLoaded (path : String)
  /-- An expression was ignored because groups are switched off. -/
  | groupsDisabled
  /-- A text expression was one of the keywords. -/
  | keywordTaken (directive : Directive)
  /-- The directory could not look up a slug. -/
  | slugLookupFailed (slug : String) (failure : LookupFailure)
  | itemDropped (text : String)
  /-- The directory could not look up the viewer's groups. -/
  | membershipLookupFailed (user : UserId) (failure : LookupFailure)
  /-- The marker for the viewer's groups was ignored because nobody is logged in. -/
  | markerIgnored
  | fragmentAdded (name : PredicateName) (predicate : Predicate)
  /-- Storing a fragment replaced this one. -/
  | fragmentReplaced (name : PredicateName) (predicate : Predicate)
  /-- A fragment was switched off by name. -/
  | fragmentSwitchedOff (name : PredicateName)
  deriving DecidableEq, Repr

/-- A result together with the events on the way to it. -/
structure Logged (α : Type) where
  value : α
  /-- What happened, in order. -/
  events : List Event

namespace Logged

/-- Reports one event. -/
def report (event : Event) : Logged Unit := ⟨(), [event]⟩

instance : Monad Logged where
  pure a := ⟨a, []⟩
  bind x f := ⟨(f x.value).value, x.events ++ (f x.value).events⟩

@[simp] theorem value_pure (a : α) : (pure a : Logged α).value = a := rfl

@[simp] theorem events_pure (a : α) : (pure a : Logged α).events = [] := rfl

@[simp] theorem value_bind (x : Logged α) (f : α → Logged β) :
    (x >>= f).value = (f x.value).value := rfl

@[simp] theorem events_bind (x : Logged α) (f : α → Logged β) :
    (x >>= f).events = x.events ++ (f x.value).events := rfl

@[simp] theorem value_map (f : α → β) (x : Logged α) : (f <$> x).value = f x.value := rfl

@[simp] theorem value_report (event : Event) : (report event).value = () := rfl

@[simp] theorem events_report (event : Event) : (report event).events = [event] := rfl

/-- Results with equal values and events are equal. -/
theorem ext {x y : Logged α} (value : x.value = y.value) (events : x.events = y.events) : x = y := by
  cases x; cases y; subst value events; rfl

/-- Sequencing is associative, and what reports nothing changes nothing. -/
instance : LawfulMonad Logged :=
  LawfulMonad.mk' Logged
    (fun x => ext rfl (List.append_nil x.events))
    (fun _ _ => ext rfl (List.nil_append _))
    (fun _ _ _ => ext rfl (List.append_assoc ..))

end Logged

/-! ## What a log line says -/

/-- How much detail a reader of the log asks for to see an event. -/
inductive Event.Level where
  /-- Decisions about a request. -/
  | debug
  /-- Every step. -/
  | trace
  deriving DecidableEq, Repr

/-- The level of an event. -/
def Event.level : Event → Event.Level
  | .fragmentAdded _ _ | .fragmentReplaced _ _ => .trace
  | _ => .debug

/-- The level as text. -/
def Event.Level.text : Event.Level → String
  | .debug => "debug"
  | .trace => "trace"

/-- A directive in a log line. -/
def Directive.label : Directive → String
  | .plain => "None"
  | .currentGroup => "CurrentGroup"
  | .myGroups => "MyGroups"
  | .noGroup => "NoGroup"
  | .mustHaveGroup => "MustHaveGroup"

/-- Ids in a log line. -/
def idsLabel (ids : List GroupId) : String :=
  "[" ++ String.intercalate ", " (ids.map fun id => toString id.toNat) ++ "]"

/-- A predicate in a log line. -/
def Predicate.label : Predicate → String
  | .noGroup => "NoGroup"
  | .hasGroup => "HasGroup"
  | .inGroups ids => "InGroups \x7b ids: " ++ idsLabel ids ++ " \x7d"
  | .notInGroups ids => "NotInGroups \x7b ids: " ++ idsLabel ids ++ " \x7d"
  | .visible memberOf => "Visible \x7b member_of: " ++ idsLabel memberOf ++ " \x7d"

/-- The sentence of a log line. -/
def Event.message : Event → String
  | .settingsLoaded _ => "loaded config"
  | .groupsDisabled => "group support disabled, ignoring group expression"
  | .keywordTaken _ => "group expression resolved to directive"
  | .slugLookupFailed _ _ => "slug lookup failed, treating as miss"
  | .itemDropped _ => "dropping unresolvable group token"
  | .membershipLookupFailed _ _ => "membership lookup failed, treating as no groups"
  | .markerIgnored => "ignoring my-groups marker for anonymous viewer"
  | .fragmentAdded _ _ => "adding predicate fragment"
  | .fragmentReplaced _ _ => "replaced earlier fragment"
  | .fragmentSwitchedOff _ => "dropped fragment on request"

/-- The named values of a log line. -/
def Event.details : Event → List (String × Json)
  | .settingsLoaded path => [("path", .string path)]
  | .groupsDisabled => []
  | .keywordTaken directive => [("directive", .string directive.label)]
  | .slugLookupFailed slug failure =>
    [("slug", .string slug), ("error", .string failure.message)]
  | .itemDropped text => [("token", .string text)]
  | .membershipLookupFailed user failure =>
    [("user", .id user), ("error", .string failure.message)]
  | .markerIgnored => []
  | .fragmentAdded name predicate =>
    [("name", .string name.text), ("predicate", .string predicate.label)]
  | .fragmentReplaced name predicate =>
    [("name", .string name.text), ("replaced", .string predicate.label)]
  | .fragmentSwitchedOff name => [("fragment", .string name.text)]

/-- The log line as a value. -/
def Event.toJson (event : Event) : Json :=
  .object [("level", .string event.level.text),
    ("fields", .object (("message", .string event.message) :: event.details))]

end GroupScope
