import NameCheck.Analysis
import NameCheck.Proofs.Findings
import NameCheck.Proofs.Naming

/-!
Parentheses around expressions change nothing. `Node.unwrap` takes them away, except around what is assigned to, which
they keep from being a name. A walk of the tree without them tells the same events, apart from parentheses inside these
(`toldEvents_unwrap`), so that neither the functions it tells nor what a rule finds depends on them.
-/
namespace NameCheck

open Syntax (Node Module)

namespace Syntax.Node

/-- Whether a node may be an expression, so that parentheses can stand around it. A group counts whatever its form. -/
def isExpression : Node → Bool
  | .ident _ | .paren _ _ | .member _ _ _ _ | .call _ _ _ _ | .optCall _ _ _ _ | .fnExpr _ _ _ | .arrow _ _
  | .assign _ _ _ _ | .group _ _ _ => true
  | _ => false

mutual

/-- A node without parentheses around expressions in it. Those around the target of a declaration, an assignment or a
default value are kept; `target` says whether the node itself is one. -/
def unwrap (target : Bool) : Node → Node
  | .ident id => .ident id
  | .paren span inner =>
    if target || !inner.isExpression then .paren span (inner.unwrap target) else inner.unwrap false
  | .member span chained object name => .member span chained (object.unwrap false) name
  | .call span callee arguments types =>
    .call span (callee.unwrap false) (unwrapAll false arguments) (unwrapAll false types)
  | .optCall span callee arguments types =>
    .optCall span (callee.unwrap false) (unwrapAll false arguments) (unwrapAll false types)
  | .spread span inner => .spread span (inner.unwrap false)
  | .fnDecl head name parts => .fnDecl head name (unwrapAll false parts)
  | .fnExpr head name parts => .fnExpr head name (unwrapAll false parts)
  | .arrow head parts => .arrow head (unwrapAll false parts)
  | .declaration span kind declarators => .declaration span kind (unwrapAll false declarators)
  | .declarator span pattern init => .declarator span (pattern.unwrap true) (unwrapOption init)
  | .assign span operator left value => .assign span operator (left.unwrap true) (value.unwrap false)
  | .keyValue span key keyParts value => .keyValue span key (unwrapAll false keyParts) (value.unwrap false)
  | .method kind head key keyParts parts =>
    .method kind head key (unwrapAll false keyParts) (unwrapAll false parts)
  | .constructor head parts => .constructor head (unwrapAll false parts)
  | .classMethod head keyParts parts => .classMethod head (unwrapAll false keyParts) (unwrapAll false parts)
  | .field span keyParts value types =>
    .field span (unwrapAll false keyParts) (unwrapOption value) (unwrapAll false types)
  | .patternDefault span pattern value => .patternDefault span (pattern.unwrap true) (value.unwrap false)
  | .patternShorthand span key value => .patternShorthand span key (unwrapOption value)
  | .importDecl span source locals attributes => .importDecl span source locals (unwrapAll false attributes)
  | .exportDefault span kind decl => .exportDefault span kind (decl.unwrap false)
  | .group form span parts => .group form span (unwrapAll (form == .annotated) parts)

/-- Nodes without parentheses around expressions in them. The first one is a target if `target` says so: the pattern
before a type. -/
def unwrapAll (target : Bool) : List Node → List Node
  | [] => []
  | node :: rest => node.unwrap target :: unwrapAll false rest

def unwrapOption : Option Node → Option Node
  | none => none
  | some node => some (node.unwrap false)

end

-- Their equations are made here, once; otherwise all proofs below that need them wait for them at the same time.
attribute [local simp] unwrap unwrapAll unwrapOption

theorem unwrapAll_eq (nodes : List Node) : unwrapAll false nodes = nodes.map (unwrap false) := by
  induction nodes with
  | nil => rfl
  | cons node rest ih => rw [unwrapAll, ih, List.map_cons]

/-- Whether a node is a target only matters for parentheses around it. -/
theorem unwrap_eq {node : Node} (bare : ∀ span inner, node ≠ .paren span inner) (target other : Bool) :
    node.unwrap target = node.unwrap other := by
  cases node with
  | paren span inner => exact absurd rfl (bare span inner)
  | _ => simp only [unwrap]

theorem isExpression_unwrap {node : Node} (expression : node.isExpression = true) (target : Bool) :
    (node.unwrap target).isExpression = true := by
  induction node using inductionOnParts generalizing target with
  | step node ih =>
    cases node with
    | paren span inner =>
      rw [unwrap]
      split
      · rfl
      · rename_i inside
        have innerExpression : inner.isExpression = true := by
          simp only [Bool.or_eq_true, Bool.not_eq_true', not_or, Bool.not_eq_false] at inside
          exact inside.2
        exact ih (inner, .grouped) (by simp [places]) innerExpression false
    | ident _ | member _ _ _ _ | call _ _ _ _ | optCall _ _ _ _ | fnExpr _ _ _ | arrow _ _ | assign _ _ _ _
    | group _ _ _ => rfl
    | _ => cases expression

/-- What looks through parentheses does not depend on them, if it does not on those further inside. -/
theorem unwrap_through {α : Type} {look : Node → α} (through : ∀ span inner, look (.paren span inner) = look inner)
    (other : ∀ node target, (∀ span inner, node ≠ .paren span inner) → look (unwrap target node) = look node)
    (node : Node) (target : Bool) : look (node.unwrap target) = look node := by
  induction node using inductionOnParts generalizing target with
  | step node ih =>
    by_cases wrapped : ∃ span inner, node = .paren span inner
    · obtain ⟨span, inner, rfl⟩ := wrapped
      have inside := ih (inner, .grouped) (by simp [places])
      rw [unwrap, through span inner]
      split
      · rw [through, inside target]
      · exact inside false
    · exact other node target fun span inner is => wrapped ⟨span, inner, is⟩

/-- Where all expressions look the same, it does not matter whether parentheses are kept. -/
theorem unwrap_paren {α : Type} {look : Node → α} {a : α} (blind : ∀ node, isExpression node = true → look node = a)
    (target : Bool) (span : Span) (inner : Node) :
    look (unwrap target (.paren span inner)) = look (.paren span inner) := by
  rw [blind _ (isExpression_unwrap rfl target), blind _ rfl]

theorem isSpread_unwrap (node : Node) (target : Bool) : Walk.isSpread (node.unwrap target) = Walk.isSpread node := by
  have blind : ∀ node : Node, node.isExpression = true → Walk.isSpread node = false := by
    intro node expression
    cases node with
    | spread span inner => cases expression
    | _ => rfl
  cases node with
  | paren span inner => exact unwrap_paren blind target span inner
  | _ => rfl

end Syntax.Node

/-! ## Functions and names -/

theorem ofExpr?_unwrap (node : Node) (target : Bool) :
    Function.ofExpr? (node.unwrap target) = Function.ofExpr? node := by
  refine Node.unwrap_through (fun _ _ => rfl) (fun node target bare => ?_) node target
  cases node with
  | paren span inner => exact absurd rfl (bare span inner)
  | _ => simp only [Node.unwrap, Function.ofExpr?, Node.stripParens]

theorem isExpr_unwrap (f : Function) (node : Node) (target : Bool) : f.isExpr (node.unwrap target) = f.isExpr node := by
  refine Node.unwrap_through (fun _ _ => rfl) (fun node target bare => ?_) node target
  cases node with
  | paren span inner => exact absurd rfl (bare span inner)
  | _ => simp only [Node.unwrap, Function.isExpr, Node.stripParens]

theorem isNamespace_unwrap (node : Node) (target : Bool) : isNamespace (node.unwrap target) = isNamespace node := by
  refine Node.unwrap_through (fun _ _ => rfl) (fun node target bare => ?_) node target
  cases node with
  | paren span inner => exact absurd rfl (bare span inner)
  | _ => simp only [Node.unwrap, isNamespace, Node.stripParens]

theorem isHook_unwrap (callee : Node) (target : Bool) : isHook (callee.unwrap target) = isHook callee := by
  refine Node.unwrap_through (fun _ _ => rfl) (fun node target bare => ?_) callee target
  cases node with
  | paren span inner => exact absurd rfl (bare span inner)
  | _ => simp only [Node.unwrap, isHook, Node.stripParens, isNamespace_unwrap]

namespace FunctionName

/-- A target that is no more than a name stays so, and none becomes one. -/
theorem bareName?_unwrap (node : Node) : bareName? (node.unwrap true) = bareName? node := by
  cases node with
  | group form span parts =>
    cases parts with
    | nil => rfl
    | cons first rest =>
      by_cases annotated : form = .annotated
      · subst annotated
        cases first <;> simp [Node.unwrap, Node.unwrapAll, bareName?]
      · simp [Node.unwrap, bareName?, annotated]
  | _ => simp [Node.unwrap, bareName?]

/-- A name without parentheses inside it. -/
def unwrap : FunctionName → FunctionName
  | .assigned target => .assigned (target.unwrap true)
  | .bound pattern => .bound (pattern.unwrap true)
  | name => name

theorem ofPattern_unwrap (node : Node) : ofPattern (node.unwrap true) = (ofPattern node).unwrap := by
  unfold ofPattern
  rw [bareName?_unwrap]
  cases bareName? node <;> rfl

theorem ofTarget_unwrap (node : Node) : ofTarget (node.unwrap true) = (ofTarget node).unwrap := by
  unfold ofTarget
  rw [bareName?_unwrap]
  cases bareName? node <;> rfl

theorem text?_unwrap (name : FunctionName) : name.unwrap.text? = name.text? := by
  cases name with
  | assigned target =>
    cases target with
    | member span chained object id => cases chained <;> rfl
    | _ => simp [unwrap, Node.unwrap, text?]
  | _ => rfl

/-- What surroundings give to a function for a name they give it without parentheses. -/
theorem ofParent?_unwrap (f : Function) (parent : Node) :
    ofParent? f (parent.unwrap true) = (ofParent? f parent).map unwrap := by
  cases parent with
  | declarator span target init =>
    cases init with
    | none => rfl
    | some init =>
      simp only [Node.unwrap, Node.unwrapOption, ofParent?, isExpr_unwrap, ofPattern_unwrap]
      split <;> rfl
  | assign span operator target value =>
    by_cases plain : operator = .assign
    · subst plain
      simp only [Node.unwrap, ofParent?, isExpr_unwrap, ofTarget_unwrap]
      split <;> rfl
    · simp [Node.unwrap, ofParent?, plain]
  | keyValue span key keyParts value =>
    simp only [Node.unwrap, ofParent?, isExpr_unwrap]
    split <;> rfl
  | method kind head key keyParts parts =>
    simp only [Node.unwrap, ofParent?]
    split <;> rfl
  | patternDefault span target value =>
    simp only [Node.unwrap, ofParent?, isExpr_unwrap, ofPattern_unwrap]
    split <;> rfl
  | patternShorthand span key value =>
    cases value with
    | none => rfl
    | some value =>
      simp only [Node.unwrap, Node.unwrapOption, ofParent?, isExpr_unwrap]
      split <;> rfl
  | _ => simp [Node.unwrap, ofParent?]

end FunctionName

/-! ## Walks -/

/-- A function with its surroundings without parentheses inside them. -/
def Cursor.unwrap (cursor : Cursor) : Cursor := { cursor with parent := cursor.parent.map (Node.unwrap true) }

/-- An event without parentheses inside it. -/
def Event.unwrap : Event → Event
  | .call span callee arguments types =>
    .call span (callee.unwrap false) (Node.unwrapAll false arguments) (Node.unwrapAll false types)
  | .optCall span callee arguments types =>
    .optCall span (callee.unwrap false) (Node.unwrapAll false arguments) (Node.unwrapAll false types)
  | .function cursor => .function cursor.unwrap
  | event => event

namespace Walk

/-- A walk that was told the same without parentheses. -/
def unwrap (w : Walk (List Event)) : Walk (List Event) := { w with state := w.state.map Event.unwrap }

variable (wants : Bool) (w : Walk (List Event))

theorem tell_unwrap (event : Event) :
    (w.tell (recorder wants) event).unwrap = w.unwrap.tell (recorder wants) event.unwrap := by
  cases stopped : w.stopped with
  | true => simp [tell, unwrap, stopped]
  | false => simp [tell, unwrap, stopped, collector]

theorem deliver_unwrap (cursor : Cursor) :
    (w.deliver (recorder wants) cursor).unwrap = w.unwrap.deliver (recorder wants) cursor.unwrap := by
  cases wants with
  | true => exact tell_unwrap true w (.function cursor)
  | false => rfl

theorem deliverChild_unwrap (parent part : Node) :
    (w.deliverChild (recorder wants) parent part).unwrap =
      w.unwrap.deliverChild (recorder wants) (parent.unwrap true) (part.unwrap false) := by
  unfold deliverChild
  rw [ofExpr?_unwrap]
  split
  · split
    · exact deliver_unwrap wants _ _
    · rfl
  · rfl

theorem deliverUnclaimed_unwrap (f : Function) :
    (w.deliverUnclaimed (recorder wants) f).unwrap = w.unwrap.deliverUnclaimed (recorder wants) f := by
  have claimed : w.unwrap.claimed = w.claimed := rfl
  unfold deliverUnclaimed
  rw [claimed]
  split
  · split
    · rfl
    · exact deliver_unwrap wants w _
  · rfl

theorem deliverArguments_unwrap (parent : Node) (arguments : List Node) :
    (w.deliverArguments (recorder wants) parent arguments).unwrap =
      w.unwrap.deliverArguments (recorder wants) (parent.unwrap true) (Node.unwrapAll false arguments) := by
  have kept : (Node.unwrapAll false arguments).filter (!isSpread ·) =
      (arguments.filter (!isSpread ·)).map (Node.unwrap false) := by
    rw [Node.unwrapAll_eq, List.filter_map]
    simp [Function.comp_def, Node.isSpread_unwrap]
  unfold deliverArguments
  rw [kept]
  generalize arguments.filter (!isSpread ·) = arguments
  induction arguments generalizing w with
  | nil => rfl
  | cons argument rest ih =>
    rw [List.foldl_cons, ih, List.map_cons, List.foldl_cons, deliverChild_unwrap]

theorem deliverFrom_unwrap {node : Node} (bare : ∀ span inner, node ≠ .paren span inner) (target : Bool) :
    (w.deliverFrom (recorder wants) node).unwrap = w.unwrap.deliverFrom (recorder wants) (node.unwrap target) := by
  rw [Node.unwrap_eq bare target true]
  cases node with
  | paren span inner => exact absurd rfl (bare span inner)
  | fnDecl head name parts | method kind head key keyParts parts | constructor head parts
  | classMethod head keyParts parts => exact deliver_unwrap wants w _
  | fnExpr head name parts | arrow head parts => exact deliverUnclaimed_unwrap wants w _
  | call span callee arguments types | optCall span callee arguments types =>
    exact deliverArguments_unwrap wants w _ arguments
  | declarator span pattern init =>
    cases init with
    | none => rfl
    | some init => exact deliverChild_unwrap wants w _ init
  | assign span operator left value | keyValue span key keyParts value | patternDefault span pattern value =>
    exact deliverChild_unwrap wants w _ value
  | field span keyParts value types =>
    cases value with
    | none => rfl
    | some value => exact deliverChild_unwrap wants w _ value
  | patternShorthand span key value =>
    cases value with
    | none => rfl
    | some value => exact deliverChild_unwrap wants w _ value
  | _ => rfl

theorem announce_unwrap {node : Node} (bare : ∀ span inner, node ≠ .paren span inner) (target : Bool) :
    (w.announce (recorder wants) node).unwrap = w.unwrap.announce (recorder wants) (node.unwrap target) := by
  have event : event? (node.unwrap target) = (event? node).map Event.unwrap := by
    cases node with
    | paren span inner => exact absurd rfl (bare span inner)
    | _ => rfl
  unfold announce
  rw [event]
  cases event? node with
  | none => rfl
  | some event => exact tell_unwrap wants w event

/-- Entering a node is the same without parentheses inside it, if there are none around it. -/
theorem enter_unwrap {node : Node} (bare : ∀ span inner, node ≠ .paren span inner) (target : Bool) :
    (w.enter (recorder wants) node).unwrap = w.unwrap.enter (recorder wants) (node.unwrap target) := by
  have going : w.unwrap.stopped = w.stopped := rfl
  have announced := announce_unwrap wants w bare target
  have still : (w.unwrap.announce (recorder wants) (node.unwrap target)).stopped =
      (w.announce (recorder wants) node).stopped := by rw [← announced]; rfl
  rw [enter_eq, enter_eq, going, still, ← announced, ← deliverFrom_unwrap wants _ bare target]
  split
  · rfl
  · split <;> rfl

end Walk

/-- Parentheses are walked through. -/
theorem walkNode_paren {σ : Type} (v : Visitor σ) (span : Span) (inner : Node) (w : Walk σ) :
    walkNode v (.paren span inner) w = walkNode v inner w := by
  have entered : w.enter v (.paren span inner) = w := by
    cases stopped : w.stopped <;> simp [Walk.enter, Walk.event?, Walk.deliverFrom, stopped]
  rw [walkNode, entered]

/-- A place of a tree and the same place of a tree without parentheses. -/
def Unwrapped (place unwrapped : Node × Syntax.Standing) : Prop := ∃ target, unwrapped = (place.1.unwrap target, place.2)

theorem unwrapped_all (nodes : List Node) (standing : Syntax.Standing) (target : Bool) :
    List.Forall₂ Unwrapped (nodes.map (·, standing)) ((Node.unwrapAll target nodes).map (·, standing)) := by
  induction nodes generalizing target with
  | nil => exact .nil
  | cons node rest ih => exact .cons ⟨target, rfl⟩ (ih false)

theorem unwrapped_option (node : Option Node) (standing : Syntax.Standing) :
    List.Forall₂ Unwrapped (node.toList.map (·, standing)) ((Node.unwrapOption node).toList.map (·, standing)) := by
  cases node with
  | none => exact .nil
  | some node => exact .cons ⟨false, rfl⟩ .nil

/-- Without parentheses inside it, a node has its parts, in their order and without any inside them. -/
theorem places_unwrap {node : Node} (bare : ∀ span inner, node ≠ .paren span inner) (target : Bool) :
    List.Forall₂ Unwrapped node.places (node.unwrap target).places := by
  cases node with
  | paren span inner => exact absurd rfl (bare span inner)
  | ident id => exact .nil
  | member span chained inner name | spread span inner | exportDefault span kind inner => exact .cons ⟨false, rfl⟩ .nil
  | call span callee arguments types | optCall span callee arguments types =>
    exact .cons ⟨false, rfl⟩ (List.rel_append (unwrapped_all arguments _ _) (unwrapped_all types _ _))
  | fnDecl head name parts | fnExpr head name parts | arrow head parts | constructor head parts
  | declaration span kind parts | importDecl span source locals parts | group form span parts =>
    exact unwrapped_all parts _ _
  | declarator span pattern init => exact .cons ⟨true, rfl⟩ (unwrapped_option init _)
  | assign span operator left value | patternDefault span left value =>
    exact .cons ⟨true, rfl⟩ (.cons ⟨false, rfl⟩ .nil)
  | keyValue span key keyParts value =>
    exact List.rel_append (unwrapped_all keyParts _ _) (.cons ⟨false, rfl⟩ .nil)
  | method kind head key keyParts parts | classMethod head keyParts parts =>
    exact List.rel_append (unwrapped_all keyParts _ _) (unwrapped_all parts _ _)
  | field span keyParts value types =>
    exact List.rel_append (unwrapped_all keyParts _ _)
      (List.rel_append (unwrapped_option value _) (unwrapped_all types _ _))
  | patternShorthand span key value => exact unwrapped_option value _

theorem walkNodes_unwrap (wants : Bool) {places unwrapped : List (Node × Syntax.Standing)}
    (related : List.Forall₂ Unwrapped places unwrapped)
    (each : ∀ place ∈ places, ∀ target w, (walkNode (recorder wants) place.1 w).unwrap =
      walkNode (recorder wants) (place.1.unwrap target) w.unwrap) (w : Walk (List Event)) :
    (walkNodes (recorder wants) (places.map Prod.fst) w).unwrap =
      walkNodes (recorder wants) (unwrapped.map Prod.fst) w.unwrap := by
  induction related generalizing w with
  | nil => rfl
  | cons first _ ih =>
    obtain ⟨target, rfl⟩ := first
    simp only [List.map_cons, walkNodes]
    rw [ih (fun place member => each place (List.mem_cons_of_mem _ member)), each _ List.mem_cons_self target]

/-- The walk of a node without parentheses inside it tells what the walk of the node tells, without parentheses. -/
theorem walkNode_unwrap (wants : Bool) (node : Node) (target : Bool) (w : Walk (List Event)) :
    (walkNode (recorder wants) node w).unwrap = walkNode (recorder wants) (node.unwrap target) w.unwrap := by
  induction node using Node.inductionOnParts generalizing target w with
  | step node ih =>
    by_cases bare : ∀ span inner, node ≠ .paren span inner
    · rw [walkNode_eq, walkNode_eq, ← Walk.enter_unwrap wants w bare target]
      exact walkNodes_unwrap wants (places_unwrap bare target) ih _
    · -- Parentheses are walked through, so it does not matter whether they are kept.
      obtain ⟨span, inner, rfl⟩ : ∃ span inner, node = .paren span inner := by simpa using bare
      have inside := ih (inner, .grouped) (by simp [Node.places])
      rw [walkNode_paren, Node.unwrap]
      split
      · rw [walkNode_paren, inside target]
      · exact inside false w

/-- A module without parentheses around expressions in it, apart from targets. -/
def Syntax.Module.unwrap (module : Module) : Module := ⟨Node.unwrapAll false module.items⟩

theorem toldEvents_unwrap (wants : Bool) (module : Module) :
    toldEvents wants module.unwrap = (toldEvents wants module).map Event.unwrap := by
  have walked := walkNodes_unwrap wants (unwrapped_all module.items .loose false)
    (fun place _ => walkNode_unwrap wants place.1) ⟨[], [], false⟩
  simp only [List.map_map, Function.comp_def, List.map_id'] at walked
  exact (congrArg Walk.state walked).symm

/-! ## What is seen of functions -/

/-- The kinds of nodes with which functions are told. -/
inductive HolderKind where
  | declarator | assignment | property | method | getter | setter | patternDefault | patternShorthand | classMember
  | call | optCall | other
deriving DecidableEq, Repr

/-- The kind of the node with which a function is told. -/
def holderKind : Option Node → HolderKind
  | some (.declarator _ _ _) => .declarator
  | some (.assign _ _ _ _) => .assignment
  | some (.keyValue _ _ _ _) => .property
  | some (.method .method _ _ _ _) => .method
  | some (.method .getter _ _ _ _) => .getter
  | some (.method .setter _ _ _ _) => .setter
  | some (.patternDefault _ _ _) => .patternDefault
  | some (.patternShorthand _ _ _) => .patternShorthand
  | some (.constructor _ _) | some (.classMethod _ _ _) | some (.field _ _ _ _) => .classMember
  | some (.call _ _ _ _) => .call
  | some (.optCall _ _ _ _) => .optCall
  | _ => .other

/-- The kinds of names. -/
inductive NameKind where
  | ident | keyed | assigned | bound
deriving DecidableEq, Repr

/-- What a name was taken from. -/
def FunctionName.kind : FunctionName → NameKind
  | .ident _ => .ident
  | .keyed _ => .keyed
  | .assigned _ => .assigned
  | .bound _ => .bound

/-- What is seen of a function that is told: the function, with its kind, where it stands and whether it is asynchronous,
the kind of the node with which it is told, and the kind, the text and the place of its name. -/
def Cursor.seen (cursor : Cursor) : Function × HolderKind × Option (NameKind × Option String × Span) :=
  (cursor.function, holderKind cursor.parent, cursor.name?.map fun name => (name.kind, name.text?, name.span))

theorem holderKind_unwrap (parent : Option Node) : holderKind (parent.map (Node.unwrap true)) = holderKind parent := by
  cases parent with
  | none => rfl
  | some node =>
    cases node with
    | method kind head key keyParts parts => cases kind <;> rfl
    | _ => rfl

theorem FunctionName.span_unwrap (name : FunctionName) : name.unwrap.span = name.span := by
  have span : ∀ node : Node, (node.unwrap true).span = node.span := by
    intro node
    cases node <;> rfl
  cases name with
  | assigned target => exact span target
  | bound pattern => exact span pattern
  | _ => rfl

theorem FunctionName.kind_unwrap (name : FunctionName) : name.unwrap.kind = name.kind := by
  cases name <;> rfl

theorem Cursor.name?_unwrap (cursor : Cursor) : cursor.unwrap.name? = cursor.name?.map FunctionName.unwrap := by
  obtain ⟨f, parent⟩ := cursor
  cases named : f.ownName with
  | some id => simp [Cursor.name?, Cursor.unwrap, named, FunctionName.unwrap]
  | none =>
    cases parent with
    | none => simp [Cursor.name?, Cursor.unwrap, named]
    | some parent => simp [Cursor.name?, Cursor.unwrap, named, FunctionName.ofParent?_unwrap]

/-- Nothing of what is seen of a function depends on parentheses around it. -/
theorem Cursor.seen_unwrap (cursor : Cursor) : cursor.unwrap.seen = cursor.seen := by
  have holder : holderKind cursor.unwrap.parent = holderKind cursor.parent := holderKind_unwrap cursor.parent
  rw [Cursor.seen, holder, Cursor.name?_unwrap, Option.map_map]
  simp only [Function.comp_def, FunctionName.kind_unwrap, FunctionName.text?_unwrap, FunctionName.span_unwrap]
  rfl

theorem toldCursors_unwrap (module : Module) :
    toldCursors module.unwrap = (toldCursors module).map Cursor.unwrap := by
  have cursor : ∀ event : Event, event.unwrap.cursor? = event.cursor?.map Cursor.unwrap := by
    intro event
    cases event <;> rfl
  rw [toldCursors, toldEvents_unwrap, List.filterMap_map, toldCursors, List.map_filterMap]
  simp only [Function.comp_def, cursor]

/-! ## What rules find -/

namespace HookCallback

theorem firstArgumentName?_unwrap (call : Node) (arguments : List Node) :
    firstArgumentName? (call.unwrap true) (Node.unwrapAll false arguments) =
      (firstArgumentName? call arguments).map FunctionName.unwrap := by
  cases arguments with
  | nil => rfl
  | cons argument rest =>
    rw [Node.unwrapAll, firstArgumentName?_cons, firstArgumentName?_cons, ofExpr?_unwrap]
    cases Function.ofExpr? argument with
    | none => rfl
    | some f => exact Cursor.name?_unwrap ⟨f, some call⟩

theorem checkCall_unwrap (call : Node) (span : Span) (callee : Node) (arguments : List Node) :
    checkCall (call.unwrap true) span (callee.unwrap false) (Node.unwrapAll false arguments) =
      checkCall call span callee arguments := by
  rw [checkCall, isHook_unwrap, firstArgumentName?_unwrap, Option.isNone_map]
  rfl

theorem checkEvent_unwrap (event : Event) : checkEvent event.unwrap = checkEvent event := by
  cases event with
  | call span callee arguments types => exact checkCall_unwrap (.call span callee arguments types) span callee arguments
  | optCall span callee arguments types =>
    exact checkCall_unwrap (.optCall span callee arguments types) span callee arguments
  | _ => rfl

end HookCallback

/-- What is kept of the events of a walk does not depend on parentheses, if what is kept of one event does not. -/
theorem collectEvents_unwrap {α : Type} (wants : Bool) {keep : Event → Option α}
    (same : ∀ event, keep event.unwrap = keep event) (module : Module) :
    collectEvents wants keep none module.unwrap = collectEvents wants keep none module := by
  rw [collectEvents_eq, collectEvents_eq, toldEvents_unwrap, List.filterMap_map]
  simp only [Function.comp_def, same]

namespace ConstantName

theorem boundName?_unwrap (node : Node) : boundName? (node.unwrap false) = boundName? node := by
  have blind : ∀ node : Node, node.isExpression = true → boundName? node = none := by
    intro node expression
    cases node with
    | declarator span target init => cases expression
    | _ => rfl
  cases node with
  | paren span inner => exact Node.unwrap_paren blind false span inner
  | declarator span target init => simp only [Node.unwrap, boundName?, FunctionName.bareName?_unwrap]
  | _ => rfl

theorem checkItem_unwrap (node : Node) : checkItem (node.unwrap false) = checkItem node := by
  have blind : ∀ node : Node, node.isExpression = true → checkItem node = [] := by
    intro node expression
    cases node with
    | declaration span kind declarators => cases expression
    | _ => rfl
  cases node with
  | paren span inner => exact Node.unwrap_paren blind false span inner
  | declaration span kind declarators =>
    cases kind with
    | const =>
      simp only [Node.unwrap, checkItem, Node.unwrapAll_eq, List.filterMap_map, Function.comp_def, boundName?_unwrap]
    | _ => rfl
  | _ => rfl

theorem violations_unwrap (module : Module) : violations module.unwrap = violations module := by
  simp only [violations, Module.unwrap, Node.unwrapAll_eq, List.flatMap_map, checkItem_unwrap]

end ConstantName

theorem violations_unwrap {rule : ModuleRule} (builtin : rule ∈ builtinRules) (module : Module) :
    rule.violations module.unwrap = rule.violations module := by
  simp only [builtinRules, List.mem_cons, List.not_mem_nil, or_false] at builtin
  rcases builtin with rfl | rfl | rfl | rfl
  · exact collectEvents_unwrap false HookCallback.checkEvent_unwrap module
  · exact collectEvents_unwrap false (fun event => by cases event <;> rfl) module
  · exact ConstantName.violations_unwrap module
  · exact collectEvents_unwrap false (fun event => by cases event <;> rfl) module

/-- In two modules that only differ in parentheses around expressions, targets apart, a walk tells the same functions in
the same order, of which the same is seen, and each rule finds the same violations at the same places. -/
theorem parens_change_nothing {first second : Module} (same : first.unwrap = second.unwrap) :
    (toldCursors first).map Cursor.seen = (toldCursors second).map Cursor.seen ∧
      ∀ rule ∈ builtinRules, rule.violations first = rule.violations second := by
  have seen : ∀ module : Module, (toldCursors module.unwrap).map Cursor.seen = (toldCursors module).map Cursor.seen := by
    intro module
    rw [toldCursors_unwrap, List.map_map]
    simp only [Function.comp_def, Cursor.seen_unwrap]
  refine ⟨?_, fun rule builtin => ?_⟩
  · rw [← seen first, same, seen second]
  · rw [← violations_unwrap builtin first, same, violations_unwrap builtin second]

/-- `const a = (() => 0); ((React).useX)(((() => a)))`, without what the arrows return. -/
def wrappedScript : Module :=
  ⟨[.declaration ⟨0, 20⟩ .const
      [.declarator ⟨6, 19⟩ (.ident ⟨⟨6, 7⟩, "a"⟩) (some (.paren ⟨10, 19⟩ (.arrow ⟨⟨11, 18⟩, false⟩ [])))],
    .call ⟨21, 48⟩ (.paren ⟨21, 35⟩ (.member ⟨22, 34⟩ false (.paren ⟨22, 29⟩ (.ident ⟨⟨23, 28⟩, "React"⟩))
        ⟨⟨30, 34⟩, "useX"⟩))
      [.paren ⟨36, 47⟩ (.paren ⟨37, 46⟩ (.arrow ⟨⟨38, 45⟩, false⟩ []))] []]⟩

/-- The same nodes without the parentheses. -/
def plainScript : Module :=
  ⟨[.declaration ⟨0, 20⟩ .const [.declarator ⟨6, 19⟩ (.ident ⟨⟨6, 7⟩, "a"⟩) (some (.arrow ⟨⟨11, 18⟩, false⟩ []))],
    .call ⟨21, 48⟩ (.member ⟨22, 34⟩ false (.ident ⟨⟨23, 28⟩, "React"⟩) ⟨⟨30, 34⟩, "useX"⟩)
      [.arrow ⟨⟨38, 45⟩, false⟩ []] []]⟩

theorem wrappedScript_unchanged : wrappedScript ≠ plainScript ∧ wrappedScript.unwrap = plainScript.unwrap ∧
    (toldCursors wrappedScript).map Cursor.seen = (toldCursors plainScript).map Cursor.seen ∧
    (toldCursors wrappedScript).map (fun cursor => (holderKind cursor.parent, cursor.name?.isSome)) =
      [(.declarator, true), (.call, false)] ∧
    (∀ rule ∈ builtinRules, rule.violations wrappedScript = rule.violations plainScript) ∧
    builtinRules.map (fun rule => (rule.violations wrappedScript).map (·.span)) = [[⟨21, 48⟩], [], [⟨0, 20⟩], []] := by
  obtain ⟨seen, found⟩ := parens_change_nothing (show wrappedScript.unwrap = plainScript.unwrap from rfl)
  exact ⟨by simp [wrappedScript, plainScript], rfl, seen, rfl, found, by decide +kernel⟩

end NameCheck
