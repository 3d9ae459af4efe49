import NameCheck.Proofs.Replay
import NameCheck.Rule.AsyncName
import NameCheck.Rule.HookCallback
import NameCheck.Rule.IconName

/-!
What the rules that walk find. Apart from functions a walk tells of every node of a module that has something to tell,
once and before the nodes inside it (`toldEvents_plain`), so that each rule looks at every node of its kind.
-/
namespace NameCheck

open Syntax (Node Module)

/-- An event that tells of no function. -/
def Event.plain? : Event → Option Event
  | .function _ => none
  | event => some event

/-! ## Events apart from functions -/

theorem event?_plain {node : Node} {event : Event} (is : Walk.event? node = some event) :
    event.plain? = some event := by
  cases node <;> simp only [Walk.event?, Option.some.injEq, reduceCtorEq] at is <;> rw [← is] <;> rfl

/-- A walk that has told, apart from functions, what it had told before and then what some nodes have to tell. -/
structure Tells (nodes : List Node) (w w' : Walk (List Event)) : Prop where
  going : w'.stopped = false
  told : w'.state.filterMap Event.plain? = w.state.filterMap Event.plain? ++ nodes.filterMap Walk.event?

theorem Tells.append {first second : List Node} {w w₁ w₂ : Walk (List Event)} (before : Tells first w w₁)
    (after : Tells second w₁ w₂) : Tells (first ++ second) w w₂ :=
  ⟨after.going, by rw [after.told, before.told, List.filterMap_append, List.append_assoc]⟩

theorem announce_tells (wants : Bool) (node : Node) {w : Walk (List Event)} (going : w.stopped = false) :
    Tells [node] w (w.announce (recorder wants) node) := by
  unfold Walk.announce
  split
  · rename_i event is
    refine ⟨by simp [Walk.tell, going, collector], ?_⟩
    simp [Walk.tell, going, collector, event?_plain is, is]
  · rename_i silent
    exact ⟨going, by simp [silent]⟩

theorem enter_tells (wants : Bool) (node : Node) {w : Walk (List Event)} (going : w.stopped = false) :
    Tells [node] w (w.enter (recorder wants) node) := by
  have announced := announce_tells wants node going
  rw [Walk.enter_eq, if_neg (by simp [going]), if_neg (by simp [announced.going])]
  refine Walk.deliverFrom_preserves (P := Tells [node] w) ?_ ?_ announced
  · intro later claimed tells
    exact ⟨tells.going, tells.told⟩
  · intro later cursor _ tells
    refine ⟨by simp [Walk.tell, tells.going, collector], ?_⟩
    simp [Walk.tell, tells.going, collector, tells.told, Event.plain?]

theorem walkNodes_tells {wants : Bool} {nodes : List Node}
    (each : ∀ node ∈ nodes, ∀ {w}, w.stopped = false → Tells node.nodes w (walkNode (recorder wants) node w))
    {w : Walk (List Event)} (going : w.stopped = false) :
    Tells (nodes.flatMap Node.nodes) w (walkNodes (recorder wants) nodes w) := by
  induction nodes generalizing w with
  | nil => exact ⟨going, by simp [walkNodes]⟩
  | cons node rest ih =>
    have first := each node List.mem_cons_self going
    exact first.append (ih (fun node member => each node (List.mem_cons_of_mem _ member)) first.going)

/-- The walk of a node tells, apart from functions, what it and every node inside it have to tell. -/
theorem walkNode_tells (wants : Bool) (node : Node) : ∀ {w}, w.stopped = false →
    Tells node.nodes w (walkNode (recorder wants) node w) := by
  induction node using Node.inductionOnParts with
  | step node ih =>
    intro w going
    have entered := enter_tells wants node going
    have parts : node.nodes = [node] ++ node.parts.flatMap Node.nodes := by
      rw [Node.nodes_eq, Node.parts, List.flatMap_map]
      rfl
    rw [walkNode_eq, parts]
    refine entered.append (walkNodes_tells ?_ entered.going)
    intro part member
    obtain ⟨place, inside, rfl⟩ := List.mem_map.mp member
    exact ih place inside

/-- Apart from functions a walk tells what the nodes of the module have to tell, whether functions are wanted or not. -/
theorem toldEvents_plain (wants : Bool) (module : Module) :
    (toldEvents wants module).filterMap Event.plain? = module.nodes.filterMap Walk.event? :=
  (walkNodes_tells (fun node _ => walkNode_tells wants node) (w := ⟨[], [], false⟩) rfl).told

/-! ## Collected events -/

theorem collectEvents_eq {α : Type} (wants : Bool) (keep : Event → Option α) (module : Module) :
    collectEvents wants keep none module = (toldEvents wants module).filterMap keep := by
  have tireless : ∀ found event, ((collector wants keep none).visit found event).2 = true := by
    intro found event
    simp only [collector]
    split <;> rfl
  rw [collectEvents, walkModule_tireless tireless]
  change (toldEvents wants module).foldl _ [] = _
  generalize toldEvents wants module = events
  induction events using List.reverseRecOn with
  | nil => rfl
  | append_singleton events event ih =>
    rw [List.foldl_append, List.filterMap_append, ih]
    simp only [List.foldl_cons, List.foldl_nil, collector]
    cases kept : keep event with
    | none => simp [kept]
    | some found => simp [kept]

/-- What is kept of a walk, if no function is, is what is kept of the events of the nodes. -/
theorem collectEvents_nodes {α : Type} (wants : Bool) {keep : Event → Option α}
    (plain : ∀ cursor, keep (.function cursor) = none) (module : Module) :
    collectEvents wants keep none module = module.nodes.filterMap fun node => (Walk.event? node).bind keep := by
  have kept : ∀ event : Event, event.plain?.bind keep = keep event := by
    intro event
    cases event with
    | function cursor => exact (plain cursor).symm
    | _ => rfl
  calc collectEvents wants keep none module
      = (toldEvents wants module).filterMap keep := collectEvents_eq wants keep module
    _ = ((toldEvents wants module).filterMap Event.plain?).filterMap keep := by
        rw [List.filterMap_filterMap]
        simp only [kept]
    _ = module.nodes.filterMap fun node => (Walk.event? node).bind keep := by
        rw [toldEvents_plain, List.filterMap_filterMap]

/-! ## Rules -/

/-- What is wrong with a node by the rule about callbacks of hooks: a call, optional or not, is checked. -/
def HookCallback.checkNode : Node → Option Violation
  | .call span callee arguments types => checkCall (.call span callee arguments types) span callee arguments
  | .optCall span callee arguments types => checkCall (.optCall span callee arguments types) span callee arguments
  | _ => none

/-- What is wrong with a node by the rule about asynchronous functions: a declaration is checked, and so is a default
export of a function that has a name. -/
def AsyncName.checkNode : Node → Option Violation
  | .fnDecl head name _ => checkDeclaration name head
  | .exportDefault _ (.function (some name) head) _ => checkDeclaration name head
  | _ => none

/-- What is wrong with a node by the rule about icons: an import is checked. -/
def IconName.checkNode : Node → Option Violation
  | .importDecl span source locals _ => checkImport span source locals
  | _ => none

/-- The first argument of a call, spread or not, gives a name if it is a function that has one. -/
theorem HookCallback.firstArgumentName?_cons (call argument : Node) (rest : List Node) :
    firstArgumentName? call (argument :: rest) =
      (Function.ofExpr? argument).bind fun f => Cursor.name? ⟨f, some call⟩ := by
  cases argument <;> rfl

theorem HookCallback.violations_eq (module : Module) : violations module = module.nodes.filterMap checkNode := by
  rw [violations, collectEvents_nodes false (fun _ => rfl)]
  congr 1
  funext node
  cases node <;> rfl

theorem AsyncName.violations_eq (module : Module) : violations module = module.nodes.filterMap checkNode := by
  rw [violations, collectEvents_nodes false (fun _ => rfl)]
  congr 1
  funext node
  cases node with
  | exportDefault span kind decl =>
    cases kind with
    | function name head => cases name <;> rfl
    | _ => rfl
  | _ => rfl

theorem IconName.violations_eq (module : Module) : violations module = module.nodes.filterMap checkNode := by
  rw [violations, collectEvents_nodes false (fun _ => rfl)]
  congr 1
  funext node
  cases node <;> rfl

end NameCheck
