import Mathlib.Data.List.Induction
import NameCheck.Proofs.Replay

/-!
Walks that are stopped. A visitor decides by what it was told before whether to go on after an event. Whatever it
decides, it is told what a visitor that never stops is told, up to the first event at which it stops and nothing after
that one (`UpToStop`).
-/
namespace NameCheck

open Syntax (Node Module)

variable {σ : Type}

/-- A visitor that writes down what it is told. After an event it goes on if it answers so to what it was told before
and to the event. -/
def listener (wantsFunctions : Bool) (answers : List Event → Event → Bool) : Visitor (List Event) where
  wantsFunctions := wantsFunctions
  visit := fun past event => (past ++ [event], answers past event)

/-- The answer of a visitor to an event, given what it was told before. -/
def Visitor.answersAfter (v : Visitor σ) (start : σ) (past : List Event) (event : Event) : Bool :=
  (v.visit (past.foldl (fun state event => (v.visit state event).1) start) event).2

/-- Told these events one after the other, a visitor goes on after each of them. -/
def GoesOn (answers : List Event → Event → Bool) (events : List Event) : Prop :=
  ∀ before event after, events = before ++ event :: after → answers before event = true

/-- What is told of all events to a visitor: all of them if it never stops, else those up to the first at which it
stops. -/
inductive UpToStop (answers : List Event → Event → Bool) (all : List Event) : List Event → Prop where
  | whole (goesOn : GoesOn answers all) : UpToStop answers all all
  | stopped {before after : List Event} {event : Event} (splits : all = before ++ event :: after)
    (goesOn : GoesOn answers before) (stops : answers before event = false) : UpToStop answers all (before ++ [event])

/-! ## Going on -/

variable {answers : List Event → Event → Bool}

theorem goesOn_nil : GoesOn answers [] := by
  intro before event after splits
  simp at splits

/-- An event among some events and a last one is the last one or stands among the others. -/
theorem splits_snoc {events before after : List Event} {last event : Event}
    (splits : events ++ [last] = before ++ event :: after) :
    (after = [] ∧ events = before ∧ last = event) ∨ ∃ rest, events = before ++ event :: rest := by
  rcases List.eq_nil_or_concat after with rfl | ⟨rest, other, rfl⟩
  · obtain ⟨same, lasts⟩ := List.append_inj' splits rfl
    exact .inl ⟨rfl, same, by simpa using lasts⟩
  · have regrouped : events ++ [last] = (before ++ event :: rest) ++ [other] := by simpa using splits
    exact .inr ⟨rest, (List.append_inj' regrouped rfl).1⟩

/-- A visitor goes on after one event more if it went on so far and its answer to that event says so. -/
theorem goesOn_snoc {events : List Event} {last : Event} (goesOn : GoesOn answers events)
    (more : answers events last = true) : GoesOn answers (events ++ [last]) := by
  intro before event after splits
  rcases splits_snoc splits with ⟨-, rfl, rfl⟩ | ⟨rest, earlier⟩
  · exact more
  · exact goesOn before event rest earlier

/-- Nothing is told after an event at which the visitor stops. -/
theorem UpToStop.last {all told before after : List Event} {event : Event} (upToStop : UpToStop answers all told)
    (splits : told = before ++ event :: after) (stops : answers before event = false) : after = [] := by
  cases upToStop with
  | whole goesOn => simp [goesOn before event after splits] at stops
  | stopped _ goesOn _ =>
    rcases splits_snoc splits with ⟨none, -, -⟩ | ⟨rest, earlier⟩
    · exact none
    · simp [goesOn before event rest earlier] at stops

/-! ## Replays -/

/-- What a listener gets to, as long as it goes on and once it has stopped. -/
theorem replay_listener (wants : Bool) (answers : List Event → Event → Bool) (all : List Event) :
    ((listener wants answers).replay [] all = (all, false) ∧ GoesOn answers all) ∨
      ∃ before event after, all = before ++ event :: after ∧ GoesOn answers before ∧ answers before event = false ∧
        (listener wants answers).replay [] all = (before ++ [event], true) := by
  induction all using List.reverseRecOn with
  | nil => exact .inl ⟨rfl, goesOn_nil⟩
  | append_singleton events last ih =>
    rw [Visitor.replay_snoc]
    rcases ih with ⟨reached, goesOn⟩ | ⟨before, event, after, rfl, goesOn, stops, reached⟩
    · rw [reached]
      cases more : answers events last with
      | true => exact .inl ⟨by simp [Visitor.react, listener, more], goesOn_snoc goesOn more⟩
      | false => exact .inr ⟨events, last, [], rfl, goesOn, more, by simp [Visitor.react, listener, more]⟩
    · exact .inr ⟨before, event, after ++ [last], by simp, goesOn, stops, by simp [reached, Visitor.react]⟩

theorem replay_upToStop (wants : Bool) (answers : List Event → Event → Bool) (all : List Event) :
    UpToStop answers all ((listener wants answers).replay [] all).1 := by
  rcases replay_listener wants answers all with ⟨reached, goesOn⟩ | ⟨before, event, after, splits, goesOn, stops, reached⟩
  · rw [reached]
    exact .whole goesOn
  · rw [reached]
    exact .stopped splits goesOn stops

/-- Any visitor makes of events what it makes of those that the listener with its answers writes down. -/
theorem replay_eq_listener (v : Visitor σ) (start : σ) (events : List Event) :
    v.replay start events =
      (((listener v.wantsFunctions (v.answersAfter start)).replay [] events).1.foldl
          (fun state event => (v.visit state event).1) start,
        ((listener v.wantsFunctions (v.answersAfter start)).replay [] events).2) := by
  induction events using List.reverseRecOn with
  | nil => rfl
  | append_singleton events event ih =>
    rw [Visitor.replay_snoc, Visitor.replay_snoc, ih]
    generalize (listener v.wantsFunctions (v.answersAfter start)).replay [] events = reached
    cases stopped : reached.2 with
    | true => simp [Visitor.react, stopped]
    | false => simp [Visitor.react, stopped, listener, Visitor.answersAfter]

/-! ## Walks -/

theorem walkModule_state (v : Visitor σ) (module : Module) (start : σ) :
    (walkModule v module start).state = (v.replay start (toldEvents v.wantsFunctions module)).1 :=
  congrArg Prod.fst (walkModule_replays v module start).told

/-- What a listener that never stops is told. -/
theorem walkModule_listener_tireless (wants : Bool) (module : Module) :
    (walkModule (listener wants fun _ _ => true) module []).state = toldEvents wants module := by
  rw [walkModule_state]
  rcases replay_listener wants (fun _ _ => true) (toldEvents wants module) with ⟨reached, -⟩ | ⟨_, _, _, -, -, stops, -⟩
  · exact congrArg Prod.fst reached
  · cases stops

/-- A visitor, whatever it answers to what it is told, is told of a module what one that never stops is told, up to the
first event at which it stops; no event follows one at which it stops. This is so for visitors with any state, which only
matters by the answers that they give. -/
theorem walk_tells_up_to_stop (wants : Bool) (answers : List Event → Event → Bool) (module : Module) :
    UpToStop answers (walkModule (listener wants fun _ _ => true) module []).state
        (walkModule (listener wants answers) module []).state ∧
      (∀ before event after, (walkModule (listener wants answers) module []).state = before ++ event :: after →
        answers before event = false → after = []) ∧
      ∀ {σ : Type} (v : Visitor σ) (start : σ), v.wantsFunctions = wants → v.answersAfter start = answers →
        (walkModule v module start).state = (walkModule (listener wants answers) module []).state.foldl
          (fun state event => (v.visit state event).1) start := by
  have upToStop : UpToStop answers (walkModule (listener wants fun _ _ => true) module []).state
      (walkModule (listener wants answers) module []).state := by
    rw [walkModule_listener_tireless, walkModule_state]
    exact replay_upToStop wants answers (toldEvents wants module)
  refine ⟨upToStop, fun before event after => upToStop.last, ?_⟩
  rintro σ v start rfl rfl
  rw [walkModule_state, walkModule_state, replay_eq_listener]
  rfl

/-- `use(function f() {}, () => 0)`, without the literal. -/
def twoCallbacks : Module :=
  ⟨[.call ⟨0, 30⟩ (.ident ⟨⟨0, 3⟩, "use"⟩)
    [.fnExpr ⟨⟨4, 20⟩, false⟩ (some ⟨⟨13, 14⟩, "f"⟩) [], .arrow ⟨⟨22, 29⟩, false⟩ []] []]⟩

/-- Counts what it is told and stops at the second event. -/
def stopsAtSecond : Visitor Nat where
  wantsFunctions := true
  visit := fun count _ => (count + 1, count == 0)

theorem twoCallbacks_stopped :
    (walkModule (listener true fun _ _ => true) twoCallbacks []).state.length = 3 ∧
      (walkModule stopsAtSecond twoCallbacks 0).state = 2 ∧
      ∃ before event after, (walkModule (listener true (stopsAtSecond.answersAfter 0)) twoCallbacks []).state =
          before ++ event :: after ∧ stopsAtSecond.answersAfter 0 before event = false ∧ after = [] := by
  obtain ⟨-, last, visitors⟩ := walk_tells_up_to_stop true (stopsAtSecond.answersAfter 0) twoCallbacks
  obtain ⟨first, second, told⟩ : ∃ first second,
      (walkModule (listener true (stopsAtSecond.answersAfter 0)) twoCallbacks []).state = [first, second] := ⟨_, _, rfl⟩
  refine ⟨rfl, ?_, [first], second, [], told, rfl, last [first] second [] told rfl⟩
  rw [visitors stopsAtSecond 0 rfl rfl, told]
  rfl

end NameCheck
