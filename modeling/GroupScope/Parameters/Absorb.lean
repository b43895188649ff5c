import GroupScope.Parameters.Codec
import GroupScope.Expression.Resolve
/-!
# Folding a request into the parameters

`absorb` folds a resolved expression into the parameters that were there before. Native lists never
overwrite ones that are already set. An unresolved expression never survives next to a derived list,
whether that list was just derived or was there before:

    (p.absorb r).hasExpression && (p.absorb r).hasDerived = false
-/

namespace GroupScope

namespace Parameters

/-- Takes over the native lists that are not set yet. -/
def adoptNative (p : Parameters) (native : NativeLists) : Parameters :=
  { p with
    nativeIncluded := p.nativeIncluded.or native.included
    nativeExcluded := p.nativeExcluded.or native.excluded }

/-- Takes over id lists that are not empty, and removes the expression once a derived list is
present. -/
def adoptLists (p : Parameters) (included excluded : List GroupId) : Parameters :=
  let p := if included.isEmpty then p else { p with included := some included }
  let p := if excluded.isEmpty then p else { p with excluded := some excluded }
  -- A derived list may also have been there before.
  let derivedNow := !included.isEmpty || !excluded.isEmpty
  if derivedNow || (p.hasExpression && p.hasDerived) then { p with group := none } else p

/-- Folds a resolution into the parameters. -/
def absorb (p : Parameters) (r : Resolution) : Parameters :=
  let p := p.adoptNative r.native
  match r.directive with
  | .currentGroup => { p with included := some r.included, group := none }
  | .myGroups => { p with group := some .my }
  | .noGroup => { p with withoutGroup := true, group := none }
  | .mustHaveGroup => { p with withGroup := true }.adoptLists r.included r.excluded
  | .plain => p.adoptLists r.included r.excluded

end Parameters

/-- Reads an expression from a host's value and resolves it. -/
def resolveJson (value : Json) (native : NativeLists) (context : Context) (settings : Settings) :
    Except FilterError (Logged Resolution) := do
  let expression ← (Expression.ofJson? value).mapError .expression
  pure (resolve expression native context settings)

/-- Resolves a request and folds it into the parameters. -/
def Parameters.normalize (existing : Parameters) (request : Request) (context : Context)
    (settings : Settings) : Logged Parameters := do
  let resolution ← resolve request.expression request.native context settings
  pure (existing.absorb resolution)

/-- Reads parameters and request from a host's values, then normalizes. The parameters are read
first. -/
def Parameters.normalizeJson (existing request : Json) (context : Context) (settings : Settings) :
    Except FilterError (Logged Parameters) := do
  let existing ← Parameters.ofJson existing
  let request ← Request.ofJson request
  pure (existing.normalize request context settings)

end GroupScope
