import NameCheck.Proofs.Findings

/-!
What wanting functions changes for a visitor. A walk that nobody wants functions from tells of none
(`toldEvents_unwanted`); one that tells of them tells everything else as before, in the same order
(`interleaved_plain`).
-/
namespace NameCheck

open Syntax (Node Module)

variable {σ : Type}

/-- The same visitor, told of functions or not. -/
def Visitor.wanting (v : Visitor σ) (wants : Bool) : Visitor σ := { v with wantsFunctions := wants }

/-- A visitor that also writes down what it is told. -/
def Visitor.logging (v : Visitor σ) : Visitor (σ × List Event) where
  wantsFunctions := v.wantsFunctions
  visit := fun (state, told) event => (((v.visit state event).1, told ++ [event]), (v.visit state event).2)

/-- What a visitor is told of a module, in order. -/
def Visitor.received (v : Visitor σ) (module : Module) (start : σ) : List Event :=
  (walkModule v.logging module (start, [])).state.2

/-- The second list is the first one with functions put in between. -/
inductive Interleaved : List Event → List Event → Prop where
  | nil : Interleaved [] []
  | event (event : Event) {without withFunctions : List Event} (rest : Interleaved without withFunctions) :
    Interleaved (event :: without) (event :: withFunctions)
  | function (cursor : Cursor) {without withFunctions : List Event} (rest : Interleaved without withFunctions) :
    Interleaved without (.function cursor :: withFunctions)

theorem interleaved_plain (events : List Event) : Interleaved (events.filterMap Event.plain?) events := by
  induction events with
  | nil => exact .nil
  | cons event events ih =>
    cases event with
    | function cursor => exact .function cursor ih
    | _ => exact .event _ ih

/-! ## Walks without functions -/

section Unwanted

variable {v : Visitor σ} (unwanted : v.wantsFunctions = false)
include unwanted

theorem deliver_unwanted (cursor : Cursor) (w : Walk σ) : w.deliver v cursor = w := by
  simp [Walk.deliver, unwanted]

theorem deliverChild_unwanted (parent node : Node) (w : Walk σ) : w.deliverChild v parent node = w := by
  simp [Walk.deliverChild, unwanted]

theorem deliverUnclaimed_unwanted (f : Function) (w : Walk σ) : w.deliverUnclaimed v f = w := by
  simp [Walk.deliverUnclaimed, unwanted]

theorem deliverArguments_unwanted (call : Node) (arguments : List Node) (w : Walk σ) :
    w.deliverArguments v call arguments = w := by
  unfold Walk.deliverArguments
  induction arguments.filter (!Walk.isSpread ·) with
  | nil => rfl
  | cons argument rest ih => rw [List.foldl_cons, deliverChild_unwanted unwanted, ih]

theorem deliverFrom_unwanted (node : Node) (w : Walk σ) : w.deliverFrom v node = w := by
  unfold Walk.deliverFrom
  split <;>
    simp only [deliver_unwanted unwanted, deliverChild_unwanted unwanted, deliverUnclaimed_unwanted unwanted,
      deliverArguments_unwanted unwanted]

/-- A walk without functions does nothing at a node but tell what the node is. -/
theorem enter_unwanted (node : Node) (w : Walk σ) (going : w.stopped = false) :
    w.enter v node = w.announce v node := by
  rw [Walk.enter_eq, if_neg (by simp [going]), deliverFrom_unwanted unwanted, ite_self]

end Unwanted

/-- A walk that goes on and has told of no function. -/
structure TellsNoFunction (w : Walk (List Event)) : Prop where
  going : w.stopped = false
  plain : ∀ event ∈ w.state, event.plain? = some event

theorem enter_tellsNoFunction (node : Node) (w : Walk (List Event)) (before : TellsNoFunction w) :
    TellsNoFunction (w.enter (recorder false) node) := by
  rw [enter_unwanted rfl node w before.going]
  unfold Walk.announce
  split
  · rename_i event is
    have told : w.tell (recorder false) event = { w with state := w.state ++ [event] } := by
      simp [Walk.tell, before.going, collector]
    rw [told]
    refine ⟨before.going, fun other member => ?_⟩
    rcases List.mem_append.mp member with earlier | last
    · exact before.plain other earlier
    · rw [List.mem_singleton.mp last]
      exact event?_plain is
  · exact before

theorem plain_unwanted {module : Module} {event : Event} (told : event ∈ toldEvents false module) :
    event.plain? = some event := by
  have start : TellsNoFunction ⟨[], [], false⟩ := ⟨rfl, fun event member => by cases member⟩
  have walked : TellsNoFunction (walkModule (recorder false) module []) :=
    walkNodes_preserves (fun node _ => walkNode_preserves enter_tellsNoFunction node) start
  exact walked.plain event told

/-- A walk without functions tells all that a walk with functions tells, apart from the functions. -/
theorem toldEvents_unwanted (module : Module) :
    toldEvents false module = (toldEvents true module).filterMap Event.plain? := by
  calc toldEvents false module
      = (toldEvents false module).filterMap Event.plain? := by
        rw [List.filterMap_congr fun event told => plain_unwanted told, List.filterMap_some]
    _ = (toldEvents true module).filterMap Event.plain? := by rw [toldEvents_plain, toldEvents_plain]

/-! ## Visitors -/

theorem foldl_logging (v : Visitor σ) (events told : List Event) (state : σ) :
    events.foldl (fun state event => (v.logging.visit state event).1) (state, told) =
      (events.foldl (fun state event => (v.visit state event).1) state, told ++ events) := by
  induction events generalizing state told with
  | nil => rw [List.append_nil]; rfl
  | cons event events ih =>
    rw [List.foldl_cons, List.foldl_cons]
    exact (ih _ _).trans (by rw [List.append_assoc]; rfl)

/-- A visitor that never stops receives all that there is to tell. -/
theorem received_tireless {v : Visitor σ} (tireless : ∀ state event, (v.visit state event).2 = true) (module : Module)
    (start : σ) : v.received module start = toldEvents v.wantsFunctions module := by
  have walked := walkModule_tireless (v := v.logging) (fun state event => tireless state.1 event) module (start, [])
  rw [Visitor.received, walked, foldl_logging]
  rfl

/-- A visitor that never stops receives the same events apart from functions, in the same order, whether it wants
functions or not. Wanting them only puts functions in between; without that it receives none. What it receives is what
makes its state. -/
theorem wanting_interleaves_functions (v : Visitor σ) (tireless : ∀ state event, (v.visit state event).2 = true)
    (module : Module) (start : σ) :
    ((v.wanting true).received module start).filterMap Event.plain? =
        ((v.wanting false).received module start).filterMap Event.plain? ∧
      Interleaved ((v.wanting false).received module start) ((v.wanting true).received module start) ∧
      (∀ cursor, .function cursor ∉ (v.wanting false).received module start) ∧
      ∀ wants, (walkModule (v.wanting wants) module start).state =
        ((v.wanting wants).received module start).foldl (fun state event => (v.visit state event).1) start := by
  have received : ∀ wants, (v.wanting wants).received module start = toldEvents wants module := fun wants =>
    received_tireless (v := v.wanting wants) tireless module start
  simp only [received]
  refine ⟨?_, ?_, ?_, ?_⟩
  · rw [toldEvents_plain, toldEvents_plain]
  · rw [toldEvents_unwanted]
    exact interleaved_plain _
  · intro cursor told
    cases plain_unwanted told
  · intro wants
    rw [walkModule_tireless (v := v.wanting wants) tireless]
    rfl

/-- Counts what it is told. -/
def eventCounter : Visitor Nat where
  wantsFunctions := false
  visit := fun count _ => (count + 1, true)

/-- `use(function f() { g() })`. -/
def callInCallback : Module :=
  ⟨[.call ⟨0, 25⟩ (.ident ⟨⟨0, 3⟩, "use"⟩)
    [.fnExpr ⟨⟨4, 24⟩, false⟩ (some ⟨⟨13, 14⟩, "f"⟩) [.call ⟨19, 22⟩ (.ident ⟨⟨19, 20⟩, "g"⟩) [] []]] []]⟩

theorem callInCallback_interleaved :
    (∀ state event, (eventCounter.visit state event).2 = true) ∧
      Interleaved ((eventCounter.wanting false).received callInCallback 0)
        ((eventCounter.wanting true).received callInCallback 0) ∧
      (walkModule (eventCounter.wanting false) callInCallback 0).state = 2 ∧
      (walkModule (eventCounter.wanting true) callInCallback 0).state = 3 := by
  have tireless : ∀ state event, (eventCounter.visit state event).2 = true := fun _ _ => rfl
  obtain ⟨-, interleaved, -, states⟩ := wanting_interleaves_functions eventCounter tireless callInCallback 0
  exact ⟨tireless, interleaved, (states false).trans rfl, (states true).trans rfl⟩

end NameCheck
