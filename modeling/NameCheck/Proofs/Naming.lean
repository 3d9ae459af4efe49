import NameCheck.FunctionName
import NameCheck.Proofs.Delivery

/-!
Which names functions get. A walk tells a function with a node only if the node holds or is that function
(`Walk.ToldAt`), so a node names the function that it was told with if it names functions at all, and no other function
(`ofParent?_isSome`).
-/
namespace NameCheck

open Syntax (Node Module)

/-- Whether two functions are the same one: a function is known by its kind and its span. -/
def Function.Same (f g : Function) : Prop := f.kind = g.kind ∧ f.span = g.span

/-- Whether a node gives a name to the function that it holds or is: a declarator, a plain assignment, a property, method
or accessor of an object whose key is not computed, and a default value in a pattern do so. -/
def Syntax.Node.GivesName : Node → Prop
  | .declarator _ _ _ => True
  | .assign _ operator _ _ => operator = .assign
  | .keyValue _ key _ _ => ∀ span, key ≠ .computed span
  | .method _ _ key _ _ => ∀ span, key ≠ .computed span
  | .patternDefault _ _ _ => True
  | .patternShorthand _ _ _ => True
  | _ => False

/-! ## Functions that are told -/

/-- Every function that a walk has told was told at a node that is or holds it. -/
def ToldAtNodes (w : Walk (List Event)) : Prop :=
  ∀ cursor ∈ w.state.filterMap Event.cursor?, ∃ node, Walk.ToldAt node cursor

theorem ToldAtNodes.tell {w : Walk (List Event)} (before : ToldAtNodes w) (wants : Bool) {event : Event}
    (now : ∀ cursor, event.cursor? = some cursor → ∃ node, Walk.ToldAt node cursor) :
    ToldAtNodes (w.tell (recorder wants) event) := by
  cases stopped : w.stopped with
  | true => rwa [Walk.tell_stopped _ _ stopped]
  | false =>
    intro cursor told
    have written : (w.tell (recorder wants) event).state = w.state ++ [event] := by
      simp [Walk.tell, stopped, collector]
    have either : cursor ∈ w.state.filterMap Event.cursor? ∨ event.cursor? = some cursor := by
      rw [written, List.filterMap_append, List.mem_append] at told
      exact told.imp_right fun last => by simpa using List.mem_filterMap.mp last
    rcases either with earlier | last
    · exact before cursor earlier
    · exact now cursor last

theorem enter_toldAtNodes (wants : Bool) (node : Node) {w : Walk (List Event)} (before : ToldAtNodes w) :
    ToldAtNodes (w.enter (recorder wants) node) := by
  refine Walk.enter_preserves (fun _ _ before => before) ?_ ?_ before
  · intro w event is before
    exact before.tell wants fun cursor tells => by simp [cursor?_of_event? is] at tells
  · intro w told at_ before
    refine before.tell wants fun cursor tells => ⟨node, ?_⟩
    obtain rfl : told = cursor := by simpa [Event.cursor?] using tells
    exact at_

/-- A walk tells no function but those that the nodes it enters are or hold. -/
theorem toldAt_of_mem {module : Module} {cursor : Cursor} (told : cursor ∈ toldCursors module) :
    ∃ node, Walk.ToldAt node cursor := by
  have start : ToldAtNodes ⟨[], [], false⟩ := by simp [ToldAtNodes]
  exact walkNodes_preserves (fun node _ => walkNode_preserves (fun node _ => enter_toldAtNodes true node) node) start
    cursor told

/-! ## Names -/

theorem isPlain_iff (key : Syntax.Key) : FunctionName.isPlain key = true ↔ ∀ span, key ≠ .computed span := by
  cases key <;> simp [FunctionName.isPlain]

/-- An expression is a function just if it is the same as the function that the expression is. -/
theorem isExpr_iff {part : Node} {g : Function} (is : Function.ofExpr? part = some g) (f : Function) :
    f.isExpr part = true ↔ f.Same g := by
  unfold Function.ofExpr? at is
  unfold Function.isExpr Function.Same
  split at is
  · obtain rfl := Option.some.inj is
    simp [*, Function.span]
  · obtain rfl := Option.some.inj is
    simp [*, Function.span]
  · cases is

/-- The node with which a function was told names a function just if it gives names and the function is that one. -/
theorem ofParent?_isSome {node parent : Node} {g : Function} (told : Walk.ToldAt node ⟨g, some parent⟩) (f : Function) :
    (FunctionName.ofParent? f parent).isSome = true ↔ f.Same g ∧ parent.GivesName := by
  cases told with
  | method kind head key keyParts parts =>
    rw [FunctionName.ofParent?, Option.isSome_ite, Bool.and_eq_true, Bool.and_eq_true, isPlain_iff, beq_iff_eq,
      beq_iff_eq]
    exact ⟨fun ⟨⟨plain, kind⟩, span⟩ => ⟨⟨kind, span⟩, plain⟩, fun ⟨⟨kind, span⟩, plain⟩ => ⟨⟨plain, kind⟩, span⟩⟩
  | constructor head parts => simp [FunctionName.ofParent?, Node.GivesName]
  | classMethod head keyParts parts => simp [FunctionName.ofParent?, Node.GivesName]
  | @held _ part _ inside is =>
    have same := isExpr_iff is f
    cases node with
    | declarator span target init =>
      obtain rfl : init = some part := by simpa [Node.places] using inside
      simp [FunctionName.ofParent?, Node.GivesName, same]
    | assign span operator target value =>
      obtain rfl : part = value := by simpa [Node.places] using inside
      cases operator <;> simp [FunctionName.ofParent?, Node.GivesName, same]
    | keyValue span key keyParts value =>
      obtain rfl : part = value := by simpa [Node.places] using inside
      rw [FunctionName.ofParent?, Option.isSome_ite, Bool.and_eq_true, isPlain_iff, same, and_comm]
      rfl
    | patternDefault span target value =>
      obtain rfl : part = value := by simpa [Node.places] using inside
      simp [FunctionName.ofParent?, Node.GivesName, same]
    | patternShorthand span key value =>
      obtain rfl : value = some part := by simpa [Node.places] using inside
      simp [FunctionName.ofParent?, Node.GivesName, same]
    | method kind head key keyParts parts => simp [Node.places] at inside
    | _ => simp [FunctionName.ofParent?, Node.GivesName]

/-- A function without a name of its own gets one from the node with which a function was told just if that node gives
names and it was told with this function. -/
theorem name?_isSome {module : Module} {told : Cursor} (member : told ∈ toldCursors module) {f : Function}
    (unnamed : f.ownName = none) :
    (Cursor.name? ⟨f, told.parent⟩).isSome = true ↔
      f.Same told.function ∧ ∃ parent, told.parent = some parent ∧ parent.GivesName := by
  obtain ⟨node, at_⟩ := toldAt_of_mem member
  obtain ⟨g, holder⟩ := told
  cases holder with
  | none => simp [Cursor.name?, unnamed]
  | some parent => simp [Cursor.name?, unnamed, ofParent?_isSome at_]

theorem ofExpr?_named {node : Node} {f : Function} (is : Function.ofExpr? node = some f) :
    f.kind = .expr ∨ (f.kind = .arrow ∧ f.ownName = none) := by
  unfold Function.ofExpr? at is
  split at is
  · obtain rfl := Option.some.inj is
    exact .inl rfl
  · obtain rfl := Option.some.inj is
    exact .inr ⟨rfl, rfl⟩
  · cases is

/-- Declarations always carry names, and no other functions do but function expressions. -/
theorem ownName_told {module : Module} {cursor : Cursor} (member : cursor ∈ toldCursors module) :
    (cursor.function.kind = .decl → ∃ id, cursor.function.ownName = some id) ∧
      ∀ id, cursor.function.ownName = some id → cursor.function.kind = .decl ∨ cursor.function.kind = .expr := by
  obtain ⟨node, at_⟩ := toldAt_of_mem member
  cases at_ with
  | declared head name parts => exact ⟨fun _ => ⟨name, rfl⟩, fun _ _ => .inl rfl⟩
  | reached is | held _ is =>
    rcases ofExpr?_named is with expr | ⟨arrow, unnamed⟩
    · exact ⟨fun decl => by simp [expr] at decl, fun _ _ => .inr expr⟩
    · exact ⟨fun decl => by simp [arrow] at decl, fun id named => by simp [unnamed] at named⟩
  | method kind head key keyParts parts => cases kind <;> simp [Function.ofMethodKind]
  | constructor head parts => simp
  | classMethod head keyParts parts => simp

/-- If functions differ in kind or span, a walk tells no function twice. -/
theorem toldCursors_pairwise {module : Module} (distinct : module.expressionSpans.Nodup)
    (known : (module.cursors.map fun cursor => (cursor.function.kind, cursor.function.span)).Nodup) :
    (toldCursors module).Pairwise fun i j => ¬ i.function.Same j.function := by
  have told := ((toldCursors_perm distinct).map fun cursor => (cursor.function.kind, cursor.function.span)).nodup_iff.mpr known
  refine (List.pairwise_map.mp told).imp fun differ same => differ ?_
  exact Prod.ext same.1 same.2

/-- Let a walk tell two functions. A declaration, and a function expression with a name of its own, has that name under
the node of either. Any other function has no name under the node of another function, and under its own node it has one
just if that node gives names. If no two functions of a module are of one kind and at one place, functions that are told
apart are different ones. -/
theorem only_own_node_names (module : Module) :
    (∀ i ∈ toldCursors module, ∀ j ∈ toldCursors module,
      (i.function.kind = .decl → ∃ id, i.function.ownName = some id) ∧
        (∀ id, i.function.ownName = some id → (i.function.kind = .decl ∨ i.function.kind = .expr) ∧
          Cursor.name? ⟨i.function, j.parent⟩ = some (.ident id)) ∧
        (i.function.ownName = none → ¬ i.function.Same j.function → Cursor.name? ⟨i.function, j.parent⟩ = none) ∧
        (i.function.ownName = none → i.function.Same j.function →
          ((Cursor.name? ⟨i.function, j.parent⟩).isSome = true ↔
            ∃ parent, j.parent = some parent ∧ parent.GivesName))) ∧
      (module.expressionSpans.Nodup →
        (module.cursors.map fun cursor => (cursor.function.kind, cursor.function.span)).Nodup →
          (toldCursors module).Pairwise fun i j => ¬ i.function.Same j.function) := by
  refine ⟨fun i told j told' => ⟨(ownName_told told).1, ?_, ?_, ?_⟩, toldCursors_pairwise⟩
  · intro id named
    exact ⟨(ownName_told told).2 id named, by simp [Cursor.name?, named]⟩
  · intro unnamed other
    refine Option.not_isSome_iff_eq_none.mp fun named => other ?_
    exact ((name?_isSome told' unnamed).mp named).1
  · intro unnamed same
    rw [name?_isSome told' unnamed]
    exact and_iff_right same

/-- `x = () => 0`, without the literal. -/
def arrowAssigned : Node := .assign ⟨0, 11⟩ .assign (.ident ⟨⟨0, 1⟩, "x"⟩) (.arrow ⟨⟨4, 11⟩, false⟩ [])

/-- `y: function () {}` in an object. -/
def functionKeyed : Node := .keyValue ⟨16, 34⟩ (.name ⟨⟨16, 17⟩, "y"⟩) [] (.fnExpr ⟨⟨19, 34⟩, false⟩ none [])

/-- `x = () => 0; ({ y: function () {} })`, without the literal. -/
def namedPair : Module := ⟨[arrowAssigned, .group .object ⟨14, 36⟩ [functionKeyed]]⟩

theorem namedPair_names : ∃ first second, toldCursors namedPair = [first, second] ∧ first.name?.isSome = true ∧
    second.name?.isSome = true ∧ Cursor.name? ⟨first.function, second.parent⟩ = none ∧
    (toldCursors namedPair).Pairwise fun i j => ¬ i.function.Same j.function := by
  obtain ⟨names, apart⟩ := only_own_node_names namedPair
  have told : toldCursors namedPair = [⟨⟨.arrow, ⟨⟨4, 11⟩, false⟩, none⟩, some arrowAssigned⟩,
      ⟨⟨.expr, ⟨⟨19, 34⟩, false⟩, none⟩, some functionKeyed⟩] := rfl
  have spans : namedPair.expressionSpans = [⟨4, 11⟩, ⟨19, 34⟩] := by
    simp only [Module.expressionSpans, Module.nodes, namedPair, arrowAssigned, functionKeyed, List.flatMap_cons,
      List.flatMap_nil]
    repeat
      rw [Node.nodes_eq]
      simp only [Node.places, List.map_cons, List.map_nil, List.flatMap_cons, List.flatMap_nil, List.cons_append,
        List.nil_append]
    rfl
  have known : (namedPair.cursors.map fun cursor => (cursor.function.kind, cursor.function.span)) =
      [(.arrow, ⟨4, 11⟩), (.expr, ⟨19, 34⟩)] := by
    simp only [Module.cursors, Module.occurrences, namedPair, arrowAssigned, functionKeyed, List.flatMap_cons,
      List.flatMap_nil]
    repeat
      rw [Node.occurrences_eq]
      simp only [Node.places, List.map_cons, List.map_nil, List.flatMap_cons, List.flatMap_nil, List.cons_append,
        List.nil_append]
    rfl
  have firstTold : ⟨⟨.arrow, ⟨⟨4, 11⟩, false⟩, none⟩, some arrowAssigned⟩ ∈ toldCursors namedPair := by simp [told]
  have secondTold : ⟨⟨.expr, ⟨⟨19, 34⟩, false⟩, none⟩, some functionKeyed⟩ ∈ toldCursors namedPair := by simp [told]
  refine ⟨_, _, told, ?_, ?_, ?_, apart (spans ▸ by decide) (known ▸ by decide)⟩
  · exact ((names _ firstTold _ firstTold).2.2.2 rfl ⟨rfl, rfl⟩).mpr ⟨_, rfl, rfl⟩
  · exact ((names _ secondTold _ secondTold).2.2.2 rfl ⟨rfl, rfl⟩).mpr ⟨_, rfl, fun _ => Syntax.Key.noConfusion⟩
  · exact (names _ firstTold _ secondTold).2.2.1 rfl fun same => FunctionKind.noConfusion same.1

end NameCheck
