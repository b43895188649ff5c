import GroupScope.Proofs.Event.Items
import GroupScope.Proofs.Predicate.Compiled
/-!
# Replaying what was logged

Compiling logs every fragment that it stores, and right behind it the fragment that was stored under
the same name before, if there was one:

    added group A,  added exclude B,  added group C,  replaced group A,  …

Whoever stores the logged fragments one after the other arrives at the compiled set, and at each of
them finds under its name just what the log says is replaced. That holds of one step, and of steps
one after the other. The main statement is `log_replays`.
-/

namespace GroupScope

/-! ## §1. Logs and sets. -/

/-- The fragment that was stored, if that is what the event reports. -/
def Event.added? : Event → Option (PredicateName × Predicate)
  | .fragmentAdded name predicate => some (name, predicate)
  | _ => none

/-- The fragment that was replaced, if that is what the event reports. -/
def Event.replaced? : Event → Option (PredicateName × Predicate)
  | .fragmentReplaced name predicate => some (name, predicate)
  | _ => none

/-- The set after the fragments that a log says were stored are stored in order. -/
def PredicateSet.replay (set : PredicateSet) (log : List Event) : PredicateSet :=
  (log.filterMap Event.added?).foldl (fun set fragment => (set.insert fragment.1 fragment.2).2) set

/-- The log tells how one set becomes another. A fragment is stored where there was none, or what it
replaces is told next; all else that is told has nothing to do with sets. -/
inductive Recounts : PredicateSet → List Event → PredicateSet → Prop
  | nil (set : PredicateSet) : Recounts set [] set
  | stored {set last : PredicateSet} {name : PredicateName} {log : List Event} (q : Predicate)
      (hfree : set.get? name = none) (hlog : Recounts (set.update name (some q)) log last) :
      Recounts set (.fragmentAdded name q :: log) last
  | replaced {set last : PredicateSet} {name : PredicateName} {held : Predicate} {log : List Event}
      (q : Predicate) (hheld : set.get? name = some held)
      (hlog : Recounts (set.update name (some q)) log last) :
      Recounts set (.fragmentAdded name q :: .fragmentReplaced name held :: log) last
  | other {set last : PredicateSet} {event : Event} {log : List Event}
      (hadded : event.added? = none) (hreplaced : event.replaced? = none)
      (hlog : Recounts set log last) : Recounts set (event :: log) last

namespace Recounts

variable {set middle last : PredicateSet} {log more before after : List Event}
  {name : PredicateName} {q held : Predicate}

/-- Logs one after the other tell what happens one after the other. -/
theorem append (h : Recounts set log middle) (hmore : Recounts middle more last) :
    Recounts set (log ++ more) last := by
  induction h with
  | nil set => exact hmore
  | stored q hfree _ ih => exact .stored q hfree (ih hmore)
  | replaced q hheld _ ih => exact .replaced q hheld (ih hmore)
  | other hadded hreplaced _ ih => exact .other hadded hreplaced (ih hmore)

/-- **The log replays** to the set that it leads to. -/
theorem replay_eq (h : Recounts set log last) : set.replay log = last := by
  induction h with
  | nil set => rfl
  | stored q hfree _ ih => exact ih
  | replaced q hheld _ ih => exact ih
  | other hadded _ _ ih =>
    unfold PredicateSet.replay
    rw [List.filterMap_cons_none hadded]
    exact ih

/-- Nothing is told to be replaced before something is stored. -/
theorem replaced?_head? (h : Recounts set log last) : log.head?.bind Event.replaced? = none := by
  cases h with
  | nil | stored | replaced => rfl
  | other _ hreplaced _ => exact hreplaced

/-- What is left of a log, from a place where nothing is told to be replaced, leads on from the set
that was replayed so far. -/
theorem rest (h : Recounts set (before ++ after) last)
    (hafter : after.head?.bind Event.replaced? = none) :
    Recounts (set.replay before) after last := by
  generalize hlog : before ++ after = log at h
  induction h generalizing before with
  | nil set =>
    obtain ⟨rfl, rfl⟩ := List.append_eq_nil_iff.mp hlog
    exact .nil set
  | stored q hfree hrest ih =>
    cases before with
    | nil =>
      cases hlog
      exact .stored q hfree hrest
    | cons event before =>
      cases hlog
      exact ih rfl
  | replaced q hheld hrest ih =>
    match before with
    | [] =>
      cases hlog
      exact .replaced q hheld hrest
    | [event] =>
      -- Between the two events of a replacement, the log may not be cut.
      cases hlog
      cases hafter
    | event :: next :: before =>
      cases hlog
      have hreplay := ih (show before ++ after = _ from rfl)
      exact hreplay
  | other hadded hreplaced hrest ih =>
    cases before with
    | nil =>
      cases hlog
      exact .other hadded hreplaced hrest
    | cons event before =>
      cases hlog
      have hreplay := ih rfl
      unfold PredicateSet.replay at hreplay ⊢
      rw [List.filterMap_cons_none hadded]
      exact hreplay

/-- **Right behind a stored fragment** stands what the replay held under its name. -/
theorem replaced?_after_added (h : Recounts set (before ++ .fragmentAdded name q :: after) last) :
    after.head?.bind Event.replaced? =
      ((set.replay before).get? name).map fun held => (name, held) := by
  cases h.rest rfl with
  | stored _ hfree hrest =>
    rw [hfree, hrest.replaced?_head?]
    rfl
  | replaced _ hheld _ =>
    rw [hheld]
    rfl
  | other hadded _ _ => cases hadded

/-- **Right before a replaced fragment** stands one that was stored under its name. -/
theorem added_before_replaced
    (h : Recounts set (before ++ .fragmentReplaced name held :: after) last) :
    ∃ earlier q, before = earlier ++ [.fragmentAdded name q] := by
  generalize hlog : before ++ .fragmentReplaced name held :: after = log at h
  induction h generalizing before with
  | nil set => cases before <;> cases hlog
  | stored q hfree hrest ih =>
    cases before with
    | nil => cases hlog
    | cons event before =>
      cases hlog
      obtain ⟨earlier, q, rfl⟩ := ih rfl
      exact ⟨_ :: earlier, q, rfl⟩
  | replaced q hheld hrest ih =>
    match before with
    | [] => cases hlog
    | [event] =>
      cases hlog
      exact ⟨[], q, rfl⟩
    | event :: next :: before =>
      cases hlog
      obtain ⟨earlier, q, rfl⟩ := ih rfl
      exact ⟨_ :: _ :: earlier, q, rfl⟩
  | other hadded hreplaced hrest ih =>
    cases before with
    | nil =>
      cases hlog
      cases hreplaced
    | cons event before =>
      cases hlog
      obtain ⟨earlier, q, rfl⟩ := ih rfl
      exact ⟨_ :: earlier, q, rfl⟩

end Recounts

/-! ## §2. Compiling. -/

section

variable (set : PredicateSet) (context : Context)

/-- Storing a fragment is told as it happens. -/
theorem recounts_add (name : PredicateName) (q : Predicate) :
    Recounts set (set.add name q).events (set.add name q).value := by
  rw [PredicateSet.value_add]
  unfold PredicateSet.add PredicateSet.insert
  cases h : set.get? name with
  | none => exact .stored q h (.nil _)
  | some held => exact .replaced q h (.nil _)

theorem recounts_addSome (name : PredicateName) (content : Option Predicate) :
    Recounts set (set.addSome name content).events (set.addSome name content).value := by
  cases content with
  | none => exact .nil set
  | some q => exact recounts_add set name q

theorem recounts_addMarker (memberships : Option (List GroupId)) :
    Recounts set (set.addMarker memberships).events (set.addMarker memberships).value := by
  cases memberships with
  | none => exact .other rfl rfl (.nil set)
  | some groups => exact recounts_add set .group (ofMemberships groups)

/-- Looking memberships up has nothing to do with sets. -/
theorem recounts_memberships : Recounts set context.memberships.events set := by
  unfold Context.memberships
  cases context.viewer with
  | anonymous => exact .nil set
  | user user =>
    simp only
    cases context.directory.groupsOf user with
    | ok groups => exact .nil set
    | error failure => exact .other rfl rfl (.nil set)

end

/-- **Compiling is told step by step**, from the empty set to the compiled one. -/
theorem recounts_compile (p : Parameters) (context : Context) :
    Recounts .empty (p.compile context).events (p.compile context).value := by
  unfold Parameters.compile
  refine (recounts_addSome _ _ _).append ?_
  refine (recounts_addSome _ _ _).append ?_
  refine (recounts_addSome _ _ _).append ?_
  refine (recounts_addSome _ _ _).append ?_
  refine (recounts_memberships _ context).append ?_
  cases p.isMyGroups with
  | true => exact (recounts_addMarker _ _).append (recounts_addSome _ _ _)
  | false => exact recounts_addSome _ _ _

/-! ## §3. The log. -/

/-- **The log replays to the result.** With groups switched on, an expression that is no keyword is
logged item by item: a failed lookup right before its item is dropped, and every dropped item in its
place among the dropped ones. The fragments that compiling logs as stored, stored again from the
empty set on, yield the compiled set. One of them is followed by a replaced one just when the replay
so far holds one under its name, namely by that one; and no other event is. -/
theorem log_replays :
    (∀ (expression : Option Expression) (native : NativeLists) (context : Context)
        (settings : Settings), settings.groupsEnabled = true →
        (∀ e ∈ expression, e.isKeywordIn context = false) →
        let resolved := resolve expression native context settings
        resolved.events = (requestedItems expression).flatMap (fun item => item.log context)
          ∧ resolved.value.dropped = resolved.events.filterMap Event.dropped?)
      ∧ ∀ (p : Parameters) (context : Context),
        let compiled := p.compile context
        PredicateSet.empty.replay compiled.events = compiled.value
          ∧ (∀ before name q after, compiled.events = before ++ .fragmentAdded name q :: after →
              after.head?.bind Event.replaced? =
                ((PredicateSet.empty.replay before).get? name).map fun held => (name, held))
          ∧ ∀ before name held after,
              compiled.events = before ++ .fragmentReplaced name held :: after →
                ∃ earlier q, before = earlier ++ [.fragmentAdded name q] := by
  refine ⟨fun _ native _ _ hon h => events_resolve native hon h, ?_⟩
  intro p context compiled
  have hcompiled : Recounts .empty compiled.events compiled.value := recounts_compile p context
  refine ⟨hcompiled.replay_eq, ?_, ?_⟩
  · intro before name q after hlog
    rw [hlog] at hcompiled
    exact hcompiled.replaced?_after_added
  · intro before name held after hlog
    rw [hlog] at hcompiled
    exact hcompiled.added_before_replaced

/-- A lookup that fails, and a group that is stored three times over: both can be read off the log.
-/
theorem log_replays_of_triple_store :
    let directory : Directory :=
      { groupOf := fun slug => if slug = "lost" then .error ⟨"down"⟩ else .ok none
        groupsOf := fun _ => .ok [9] }
    let context : Context := { viewer := .user 3, directory }
    let expression : Expression := .text "5, -lost, ghost"
    let p : Parameters := { group := some .my, withoutGroup := true, nativeIncluded := some [5] }
    expression.isKeywordIn context = false
      ∧ (resolve (some expression) {} context {}).events =
          [.slugLookupFailed "lost" ⟨"down"⟩, .itemDropped "-lost", .itemDropped "ghost"]
      ∧ (resolve (some expression) {} context {}).value.dropped = ["-lost", "ghost"]
      ∧ (p.compile context).events =
          [.fragmentAdded .group .noGroup,
            .fragmentAdded .group (.inGroups [5]), .fragmentReplaced .group .noGroup,
            .fragmentAdded .group (.inGroups [9]), .fragmentReplaced .group (.inGroups [5]),
            .fragmentAdded .privacy (.visible [9])]
      ∧ (p.compile context).value =
          { group := some (.inGroups [9]), privacy := some (.visible [9]) } := by
  intro directory context expression p
  have hkeyword : expression.isKeywordIn context = false := by decide +kernel
  obtain ⟨hevents, hdropped⟩ :=
    log_replays.1 (some expression) {} context {} rfl fun e he => Option.some.inj he ▸ hkeyword
  have hresolved : (resolve (some expression) {} context {}).events =
      [.slugLookupFailed "lost" ⟨"down"⟩, .itemDropped "-lost", .itemDropped "ghost"] := by
    rw [hevents]
    decide +kernel
  have hcompiled : (p.compile context).events =
      [.fragmentAdded .group .noGroup,
        .fragmentAdded .group (.inGroups [5]), .fragmentReplaced .group .noGroup,
        .fragmentAdded .group (.inGroups [9]), .fragmentReplaced .group (.inGroups [5]),
        .fragmentAdded .privacy (.visible [9])] := by
    decide +kernel
  have hvalue := (log_replays.2 p context).1
  refine ⟨hkeyword, hresolved, ?_, hcompiled, ?_⟩
  · rw [hdropped, hresolved]
    rfl
  · rw [← hvalue, hcompiled]
    rfl

end GroupScope
