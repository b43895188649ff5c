import GroupScope.Expression.Resolution
/-!
# Search parameters

The parameters of a search that concern groups, as a host keeps them between requests. The *derived*
lists come from a resolved expression, the *native* ones from the host. Where both are set, a
derived list that is not empty wins.
-/

namespace GroupScope

/-- The value of the parameter for the expression. -/
inductive GroupParameter where
  /-- The marker for the viewer's groups, looked up when predicates are compiled. -/
  | my
  /-- An expression that is not resolved yet. -/
  | expression (expression : Expression)
  deriving DecidableEq, Repr

/-- The parameters of a search that concern groups. -/
structure Parameters where
  /-- The expression or the marker. -/
  group : Option GroupParameter := none
  /-- The derived inclusion list. -/
  included : Option (List GroupId) := none
  /-- The derived exclusion list. -/
  excluded : Option (List GroupId) := none
  /-- The native inclusion list. -/
  nativeIncluded : Option (List GroupId) := none
  /-- The native exclusion list. -/
  nativeExcluded : Option (List GroupId) := none
  /-- Only items without a group are wanted. -/
  withoutGroup : Bool := false
  /-- Only items with some group are wanted. -/
  withGroup : Bool := false
  deriving DecidableEq, Repr

namespace Parameters

/-- An unresolved expression is present. -/
def hasExpression (p : Parameters) : Bool :=
  match p.group with
  | some (.expression _) => true
  | _ => false

/-- The marker for the viewer's groups is present. -/
def isMyGroups (p : Parameters) : Bool :=
  match p.group with
  | some .my => true
  | _ => false

/-- A derived list is present. -/
def hasDerived (p : Parameters) : Bool := p.included.isSome || p.excluded.isSome

/-- The derived list unless it is unset or empty, and else the native list; unset lists are empty.
-/
def effective (derived native : Option (List GroupId)) : List GroupId :=
  match derived with
  | some (id :: rest) => id :: rest
  | _ => native.getD []

/-- The ids to include. -/
def effectiveIncluded (p : Parameters) : List GroupId := effective p.included p.nativeIncluded

/-- The ids to exclude. -/
def effectiveExcluded (p : Parameters) : List GroupId := effective p.excluded p.nativeExcluded

end Parameters

end GroupScope
