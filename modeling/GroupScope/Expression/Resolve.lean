import GroupScope.Expression.Item
import GroupScope.Lookup
import GroupScope.Settings
/-!
# Resolving expressions

A text expression is cleaned first. If what is left is a keyword whose condition holds, its
directive is the answer:

    this   when the request comes from the page of a group
    my     when a user is logged in
    0      always

Otherwise, and for numbers and lists, the items are resolved one by one. An item that names no group
is dropped and reported; nothing in an expression is ever an error. Exclusions without inclusions
mean that an item must belong to some other group.
-/

namespace GroupScope

/-- The words with a meaning of their own. -/
inductive Keyword where
  /-- The current group. -/
  | this
  /-- The groups of the viewer. -/
  | my
  /-- No group. -/
  | zero
  deriving DecidableEq, Repr

/-- The keyword that a cleaned text spells. -/
def Keyword.ofChars? (text : List Char) : Option Keyword :=
  if text = ['t', 'h', 'i', 's'] then some .this
  else if text = ['m', 'y'] then some .my
  else if text = ['0'] then some .zero
  else none

/-- The ids and the dropped items of a list of items. -/
structure Resolution.Lists where
  /-- Ids to include. -/
  included : List GroupId := []
  /-- Ids to exclude. -/
  excluded : List GroupId := []
  /-- Items that named no group. -/
  dropped : List String := []
  deriving DecidableEq, Repr

/-- The group that an item names. The empty slug is never looked up. -/
def Item.resolve (item : Item) (context : Context) : Logged (Option GroupId) :=
  match item.reference with
  | .id id => pure id
  | .slug slug => if slug.isEmpty then pure none else context.resolveSlug slug

/-- Puts an item with its group in front of the lists; without a group it is dropped. -/
def Resolution.Lists.add (lists : Resolution.Lists) (item : Item) :
    Option GroupId → Resolution.Lists
  | some id =>
    if item.excluded then { lists with excluded := id :: lists.excluded }
    else { lists with included := id :: lists.included }
  | none => { lists with dropped := item.text :: lists.dropped }

/-- Resolves one item, and reports it if it is dropped. -/
def Item.resolveOrDrop (item : Item) (context : Context) : Logged (Option GroupId) := do
  let id ← item.resolve context
  if id.isNone then Logged.report (.itemDropped item.text)
  pure id

/-- Resolves items from first to last. -/
def resolveItems (context : Context) : List Item → Logged Resolution.Lists
  | [] => pure {}
  | item :: rest => do
    let id ← item.resolveOrDrop context
    let lists ← resolveItems context rest
    pure (lists.add item id)

/-- The resolution that plain lists stand for. -/
def Resolution.ofLists (lists : Resolution.Lists) (native : NativeLists) : Resolution :=
  { included := lists.included
    excluded := lists.excluded
    dropped := lists.dropped
    native
    directive :=
      if lists.included.isEmpty && !lists.excluded.isEmpty then .mustHaveGroup else .plain }

/-- What a keyword stands for; nothing when its condition does not hold. -/
def Keyword.resolve? (keyword : Keyword) (context : Context) (native : NativeLists) :
    Option Resolution :=
  match keyword with
  | .this =>
    context.currentGroup.map fun id => { included := [id], directive := .currentGroup, native }
  | .my => if context.viewer.isUser then some { directive := .myGroups, native } else none
  | .zero => some { directive := .noGroup, native }

/-- The resolution of a text that is a keyword in this context. -/
def keywordResolution? (text : List Char) (context : Context) (native : NativeLists) :
    Option Resolution :=
  (Keyword.ofChars? text).bind fun keyword => keyword.resolve? context native

/-- The resolution of items. -/
def Resolution.ofItems (items : List Item) (context : Context) (native : NativeLists) :
    Logged Resolution := do
  let lists ← resolveItems context items
  pure (.ofLists lists native)

/-- The resolution of an expression when groups are switched on. -/
def Expression.resolve (expression : Expression) (context : Context) (native : NativeLists) :
    Logged Resolution :=
  match expression with
  | .text s =>
    let cleaned := Text.clean s.toList
    match keywordResolution? cleaned context native with
    | some resolution => do
      Logged.report (.keywordTaken resolution.directive)
      pure resolution
    | none => Resolution.ofItems (Item.ofText cleaned) context native
  | .integer value =>
    -- Zero alone means "no group"; as one of several items it would mean nothing.
    if value = 0 then pure { directive := .noGroup, native }
    else Resolution.ofItems (Item.ofText (decimalText value).toList) context native
  | .list items =>
    Resolution.ofItems (Item.ofPieces (items.map fun item => item.itemText.toList)) context native

/-- The resolution of a request's expression. A missing expression contributes nothing, and neither
does any expression when groups are switched off. -/
def resolve (expression : Option Expression) (native : NativeLists) (context : Context)
    (settings : Settings) : Logged Resolution :=
  match expression with
  | none => pure { native }
  | some expression =>
    if settings.groupsEnabled then expression.resolve context native
    else do
      Logged.report .groupsDisabled
      pure { native }

end GroupScope
