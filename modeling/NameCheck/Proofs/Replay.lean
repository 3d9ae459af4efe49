import Mathlib.Data.List.Induction
import NameCheck.Proofs.Parts

/-!
What a walk tells does not depend on whom it tells. The walk of any visitor follows that of a visitor that writes every
event down and never stops (`Replays`): its state is what the visitor makes of those events one after the other, up to
the first at which it stops.
-/
namespace NameCheck

open Syntax (Node Module)

variable {σ : Type}

/-- Writes down every event and never stops. -/
abbrev recorder (wantsFunctions : Bool) : Visitor (List Event) := collector wantsFunctions some none

/-- All that a walk of a module has to tell, in order. -/
def toldEvents (wantsFunctions : Bool) (module : Module) : List Event := collectEvents wantsFunctions some none module

/-- What a visitor makes of an event, unless it has stopped. -/
def Visitor.react (v : Visitor σ) (reached : σ × Bool) (event : Event) : σ × Bool :=
  if reached.2 then reached else ((v.visit reached.1 event).1, !(v.visit reached.1 event).2)

/-- What a visitor makes of events one after the other, and whether it stopped on the way. -/
def Visitor.replay (v : Visitor σ) (start : σ) (events : List Event) : σ × Bool :=
  events.foldl v.react (start, false)

theorem Visitor.replay_snoc (v : Visitor σ) (start : σ) (events : List Event) (event : Event) :
    v.replay start (events ++ [event]) = v.react (v.replay start events) event := by
  simp [replay]

/-- A visitor that never stops makes of events what its visits make of them. -/
theorem Visitor.replay_tireless {v : Visitor σ} (tireless : ∀ state event, (v.visit state event).2 = true) (start : σ)
    (events : List Event) :
    v.replay start events = (events.foldl (fun state event => (v.visit state event).1) start, false) := by
  induction events using List.reverseRecOn with
  | nil => rfl
  | append_singleton events event ih => simp [replay_snoc, ih, react, tireless]

namespace Walk

/-! ## Steps of a walk -/

/-- Tells the visitor what a node is, apart from functions. -/
def announce (v : Visitor σ) (node : Node) (w : Walk σ) : Walk σ :=
  match event? node with
  | some event => w.tell v event
  | none => w

theorem enter_eq (v : Visitor σ) (node : Node) (w : Walk σ) :
    w.enter v node = if w.stopped then w
      else if (w.announce v node).stopped then w.announce v node else (w.announce v node).deliverFrom v node := rfl

theorem tell_stopped (v : Visitor σ) (event : Event) {w : Walk σ} (stopped : w.stopped = true) :
    w.tell v event = w := by
  simp [tell, stopped]

/-- The functions that a walk may tell when it enters a node, each with the node that may name it: the function that the
node is and those that it holds. -/
inductive ToldAt : Node → Cursor → Prop where
  | declared (head : Syntax.FunctionHead) (name : Syntax.Ident) (parts : List Node) :
    ToldAt (.fnDecl head name parts) ⟨⟨.decl, head, some name⟩, none⟩
  | reached {node : Node} {f : Function} (is : Function.ofExpr? node = some f) : ToldAt node ⟨f, none⟩
  | method (kind : Syntax.MethodKind) (head : Syntax.FunctionHead) (key : Syntax.Key) (keyParts parts : List Node) :
    ToldAt (.method kind head key keyParts parts)
      ⟨⟨Function.ofMethodKind kind, head, none⟩, some (.method kind head key keyParts parts)⟩
  | constructor (head : Syntax.FunctionHead) (parts : List Node) :
    ToldAt (.constructor head parts) ⟨⟨.constructor, head, none⟩, some (.constructor head parts)⟩
  | classMethod (head : Syntax.FunctionHead) (keyParts parts : List Node) :
    ToldAt (.classMethod head keyParts parts) ⟨⟨.method, head, none⟩, some (.classMethod head keyParts parts)⟩
  | held {node part : Node} {f : Function} (inside : (part, .held) ∈ node.places)
    (is : Function.ofExpr? part = some f) : ToldAt node ⟨f, some node⟩

/-- What telling functions and remembering them preserves, telling the functions of a node preserves. -/
theorem deliverFrom_preserves {P : Walk σ → Prop} {v : Visitor σ} {node : Node}
    (claim : ∀ w claimed, P w → P { w with claimed })
    (told : ∀ w cursor, ToldAt node cursor → P w → P (w.tell v (.function cursor))) {w : Walk σ} (holds : P w) :
    P (w.deliverFrom v node) := by
  have deliver : ∀ w cursor, ToldAt node cursor → P w → P (w.deliver v cursor) := by
    intro w cursor at_ holds
    rw [Walk.deliver]
    split
    · exact told w cursor at_ holds
    · exact holds
  have child : ∀ part w, (part, .held) ∈ node.places → P w → P (w.deliverChild v node part) := by
    intro part w inside holds
    rw [deliverChild]
    split
    · split
      · exact deliver _ _ (.held inside ‹_›) (claim w _ holds)
      · exact holds
    · exact holds
  have unclaimed : ∀ f, Function.ofExpr? node = some f → P (w.deliverUnclaimed v f) := by
    intro f is
    rw [deliverUnclaimed]
    split
    · split
      · exact claim w _ holds
      · exact deliver w _ (.reached is) holds
    · exact holds
  have arguments : ∀ nodes, (∀ part ∈ nodes, (part, .held) ∈ node.places) → P (w.deliverArguments v node nodes) := by
    intro nodes inside
    have kept : ∀ part ∈ nodes.filter (!isSpread ·), (part, .held) ∈ node.places := fun part member =>
      inside part (List.mem_filter.mp member).1
    unfold deliverArguments
    clear unclaimed
    generalize nodes.filter (!isSpread ·) = nodes at kept
    induction nodes generalizing w with
    | nil => exact holds
    | cons part rest ih =>
      exact ih (child part w (kept part List.mem_cons_self) holds) fun part member =>
        kept part (List.mem_cons_of_mem _ member)
  cases node with
  | fnDecl head name parts => exact deliver w _ (.declared head name parts) holds
  | fnExpr head name parts => exact unclaimed ⟨.expr, head, name⟩ rfl
  | arrow head parts => exact unclaimed ⟨.arrow, head, none⟩ rfl
  | method kind head key keyParts parts => exact deliver w _ (.method kind head key keyParts parts) holds
  | constructor head parts => exact deliver w _ (.constructor head parts) holds
  | classMethod head keyParts parts => exact deliver w _ (.classMethod head keyParts parts) holds
  | call span callee nodes types | optCall span callee nodes types =>
    exact arguments nodes fun part member => by simp [Node.places, member]
  | declarator span target init =>
    cases init with
    | none => exact holds
    | some init => exact child init w (by simp [Node.places]) holds
  | assign span operator target value | keyValue span key keyParts value | patternDefault span target value =>
    exact child value w (by simp [Node.places]) holds
  | field span keyParts value types =>
    cases value with
    | none => exact holds
    | some value => exact child value w (by simp [Node.places]) holds
  | patternShorthand span key value =>
    cases value with
    | none => exact holds
    | some value => exact child value w (by simp [Node.places]) holds
  | _ => exact holds

/-- What telling the events of a node and remembering functions preserves, entering the node preserves. -/
theorem enter_preserves {P : Walk σ → Prop} {v : Visitor σ} {node : Node}
    (claim : ∀ w claimed, P w → P { w with claimed })
    (event : ∀ w event, event? node = some event → P w → P (w.tell v event))
    (told : ∀ w cursor, ToldAt node cursor → P w → P (w.tell v (.function cursor))) {w : Walk σ} (holds : P w) :
    P (w.enter v node) := by
  have announced : P (w.announce v node) := by
    unfold announce
    split
    · exact event w _ ‹_› holds
    · exact holds
  rw [enter_eq]
  split
  · exact holds
  · split
    · exact announced
    · exact deliverFrom_preserves claim told announced

end Walk

/-- What the walk of each of some nodes preserves, their walk preserves. -/
theorem walkNodes_preserves {P : Walk σ → Prop} {v : Visitor σ} {nodes : List Node}
    (each : ∀ node ∈ nodes, ∀ {w}, P w → P (walkNode v node w)) {w : Walk σ} (holds : P w) :
    P (walkNodes v nodes w) := by
  induction nodes generalizing w with
  | nil => exact holds
  | cons node rest ih =>
    exact ih (fun node member => each node (List.mem_cons_of_mem _ member)) (each node List.mem_cons_self holds)

/-- What entering any node preserves, the walk of a node preserves. -/
theorem walkNode_preserves {P : Walk σ → Prop} {v : Visitor σ} (enter : ∀ node w, P w → P (w.enter v node))
    (node : Node) : ∀ {w}, P w → P (walkNode v node w) := by
  induction node using Node.inductionOnParts with
  | step node ih =>
    intro w holds
    rw [walkNode_eq]
    refine walkNodes_preserves ?_ (enter node w holds)
    intro part member
    obtain ⟨place, inside, rfl⟩ := List.mem_map.mp member
    exact ih place inside

/-! ## Following the recorder -/

/-- A walk that stands where its visitor gets to with the events written down by another walk. As long as it is not
stopped it also remembers the same functions. -/
structure Replays (v : Visitor σ) (start : σ) (w : Walk σ) (r : Walk (List Event)) : Prop where
  told : (w.state, w.stopped) = v.replay start r.state
  claims : w.stopped = false → w.claimed = r.claimed
  going : r.stopped = false

namespace Replays

variable {v : Visitor σ} {start : σ} {w : Walk σ} {r : Walk (List Event)}

theorem tell (replays : Replays v start w r) (event : Event) :
    Replays v start (w.tell v event) (r.tell (recorder v.wantsFunctions) event) := by
  obtain ⟨told, claims, going⟩ := replays
  have written : r.tell (recorder v.wantsFunctions) event = { r with state := r.state ++ [event] } := by
    simp [Walk.tell, going, collector]
  rw [written]
  refine ⟨?_, ?_, going⟩
  · simp only
    rw [Visitor.replay_snoc, ← told]
    cases stopped : w.stopped with
    | true => simp [Walk.tell, Visitor.react, stopped]
    | false => simp [Walk.tell, Visitor.react, stopped]
  · intro notStopped
    cases stopped : w.stopped with
    | true => simp [Walk.tell, stopped] at notStopped
    | false => simpa [Walk.tell, stopped] using claims stopped

/-- Both walks may come to remember other functions, if they are the same for both. -/
theorem claim (replays : Replays v start w r) (change : List Span → List Span) :
    Replays v start { w with claimed := change w.claimed } { r with claimed := change r.claimed } :=
  ⟨replays.told, fun notStopped => congrArg change (replays.claims notStopped), replays.going⟩

theorem deliver (replays : Replays v start w r) (cursor : Cursor) :
    Replays v start (w.deliver v cursor) (r.deliver (recorder v.wantsFunctions) cursor) := by
  cases wants : v.wantsFunctions with
  | true => simpa [Walk.deliver, wants, collector] using replays.tell (.function cursor)
  | false => simpa [Walk.deliver, wants, collector] using replays

theorem deliverChild (replays : Replays v start w r) (parent node : Node) :
    Replays v start (w.deliverChild v parent node) (r.deliverChild (recorder v.wantsFunctions) parent node) := by
  simp only [Walk.deliverChild, collector]
  split
  · split
    · rename_i f _
      exact (replays.claim (·.insert f.span)).deliver ⟨f, some parent⟩
    · exact replays
  · exact replays

theorem deliverUnclaimed (replays : Replays v start w r) (going : w.stopped = false) (f : Function) :
    Replays v start (w.deliverUnclaimed v f) (r.deliverUnclaimed (recorder v.wantsFunctions) f) := by
  simp only [Walk.deliverUnclaimed, collector, replays.claims going]
  split
  · split
    · have erased := replays.claim (·.erase f.span)
      rwa [replays.claims going] at erased
    · exact replays.deliver ⟨f, none⟩
  · exact replays

theorem deliverArguments (replays : Replays v start w r) (parent : Node) (arguments : List Node) :
    Replays v start (w.deliverArguments v parent arguments)
      (r.deliverArguments (recorder v.wantsFunctions) parent arguments) := by
  unfold Walk.deliverArguments
  generalize arguments.filter (!Walk.isSpread ·) = arguments
  induction arguments generalizing w r with
  | nil => exact replays
  | cons argument rest ih => exact ih (replays.deliverChild parent argument)

theorem deliverFrom (replays : Replays v start w r) (going : w.stopped = false) (node : Node) :
    Replays v start (w.deliverFrom v node) (r.deliverFrom (recorder v.wantsFunctions) node) := by
  unfold Walk.deliverFrom
  split
  · exact replays.deliver _
  · exact replays.deliverUnclaimed going _
  · exact replays.deliverUnclaimed going _
  · exact replays.deliverArguments _ _
  · exact replays.deliverArguments _ _
  · exact replays.deliverChild _ _
  · exact replays.deliverChild _ _
  · exact replays.deliverChild _ _
  · exact replays.deliver _
  · exact replays.deliver _
  · exact replays.deliver _
  · exact replays.deliverChild _ _
  · exact replays.deliverChild _ _
  · exact replays.deliverChild _ _
  · exact replays

/-- A stopped walk stays where its visitor got to, whatever functions the other walk goes on to write down. -/
theorem deliverFrom_stopped (replays : Replays v start w r) (stopped : w.stopped = true) (node : Node) :
    Replays v start w (r.deliverFrom (recorder v.wantsFunctions) node) := by
  refine Walk.deliverFrom_preserves (P := Replays v start w) ?_ ?_ replays
  · intro r claimed replays
    exact ⟨replays.told, fun going => by simp [stopped] at going, replays.going⟩
  · intro r cursor _ replays
    have next := replays.tell (.function cursor)
    rwa [Walk.tell_stopped v _ stopped] at next

theorem announce (replays : Replays v start w r) (node : Node) :
    Replays v start (w.announce v node) (r.announce (recorder v.wantsFunctions) node) := by
  unfold Walk.announce
  split
  · exact replays.tell _
  · exact replays

theorem enter (replays : Replays v start w r) (node : Node) :
    Replays v start (w.enter v node) (r.enter (recorder v.wantsFunctions) node) := by
  have announced := replays.announce node
  have entered : r.enter (recorder v.wantsFunctions) node =
      (r.announce (recorder v.wantsFunctions) node).deliverFrom (recorder v.wantsFunctions) node := by
    rw [Walk.enter_eq, if_neg (by simp [replays.going]), if_neg (by simp [announced.going])]
  rw [entered, Walk.enter_eq]
  cases stopped : w.stopped with
  | true =>
    have same : w.announce v node = w := by
      unfold Walk.announce
      split
      · exact Walk.tell_stopped v _ stopped
      · rfl
    rw [same] at announced
    exact announced.deliverFrom_stopped stopped node
  | false =>
    cases stoppedNow : (w.announce v node).stopped with
    | true => exact announced.deliverFrom_stopped stoppedNow node
    | false => exact announced.deliverFrom stoppedNow node

end Replays

/-- Walks of nodes keep following one another if the walks of each of them do. -/
theorem walkNodes_replays {v : Visitor σ} {start : σ} {nodes : List Node}
    (each : ∀ node ∈ nodes, ∀ {w r}, Replays v start w r →
      Replays v start (walkNode v node w) (walkNode (recorder v.wantsFunctions) node r))
    {w : Walk σ} {r : Walk (List Event)} (replays : Replays v start w r) :
    Replays v start (walkNodes v nodes w) (walkNodes (recorder v.wantsFunctions) nodes r) := by
  induction nodes generalizing w r with
  | nil => exact replays
  | cons node rest ih =>
    exact ih (fun node member => each node (List.mem_cons_of_mem _ member)) (each node List.mem_cons_self replays)

/-- Walks of a node keep following one another. -/
theorem walkNode_replays {v : Visitor σ} {start : σ} (node : Node) : ∀ {w r}, Replays v start w r →
    Replays v start (walkNode v node w) (walkNode (recorder v.wantsFunctions) node r) := by
  induction node using Node.inductionOnParts with
  | step node ih =>
    intro w r replays
    rw [walkNode_eq, walkNode_eq]
    refine walkNodes_replays ?_ (replays.enter node)
    intro part member
    obtain ⟨place, inside, rfl⟩ := List.mem_map.mp member
    exact ih place inside

/-- The walk of a module by any visitor follows the events that the walk has to tell. -/
theorem walkModule_replays (v : Visitor σ) (module : Module) (start : σ) :
    Replays v start (walkModule v module start) (walkModule (recorder v.wantsFunctions) module []) :=
  walkNodes_replays (fun node _ => walkNode_replays node) ⟨rfl, fun _ => rfl, rfl⟩

/-- A visitor that never stops is told all that there is to tell, and the walk ends remembering the same functions. -/
theorem walkModule_tireless {v : Visitor σ} (tireless : ∀ state event, (v.visit state event).2 = true)
    (module : Module) (start : σ) :
    walkModule v module start =
      ⟨(toldEvents v.wantsFunctions module).foldl (fun state event => (v.visit state event).1) start,
        (walkModule (recorder v.wantsFunctions) module []).claimed, false⟩ := by
  have replays := walkModule_replays v module start
  have told := replays.told
  rw [Visitor.replay_tireless tireless, Prod.mk.injEq] at told
  obtain ⟨state, going⟩ := told
  have claims := replays.claims going
  rw [toldEvents, collectEvents, ← state, ← claims, ← going]

end NameCheck
