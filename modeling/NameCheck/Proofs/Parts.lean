import Mathlib.Data.List.Basic
import NameCheck.Walk

/-!
The parts of a node and the nodes of a tree. `Node.places` lists what stands right inside a node, `Node.nodes` and
`Node.occurrences` everything that stands in it at any depth. A walk of a node enters it and then walks its parts
(`walkNode_eq`), so that what a walk does is shown by induction on parts (`Node.inductionOnParts`).
-/
namespace NameCheck

namespace Syntax

/-- How a part stands in a node: the node may give its name to a function there, the part stands where the node itself
stands, or neither. -/
inductive Standing where
  | held
  | grouped
  | loose
deriving DecidableEq, Repr, Inhabited

namespace Node

/-- What stands right inside a node, in the order of a walk. -/
def places : Node → List (Node × Standing)
  | .ident _ => []
  | .paren _ inner => [(inner, .grouped)]
  | .member _ _ object _ => [(object, .loose)]
  | .call _ callee arguments types => (callee, .loose) :: (arguments.map (·, .held) ++ types.map (·, .loose))
  | .optCall _ callee arguments types => (callee, .loose) :: (arguments.map (·, .held) ++ types.map (·, .loose))
  | .spread _ inner => [(inner, .loose)]
  | .fnDecl _ _ parts => parts.map (·, .loose)
  | .fnExpr _ _ parts => parts.map (·, .loose)
  | .arrow _ parts => parts.map (·, .loose)
  | .declaration _ _ declarators => declarators.map (·, .loose)
  | .declarator _ target init => (target, .loose) :: init.toList.map (·, .held)
  | .assign _ _ target value => [(target, .loose), (value, .held)]
  | .keyValue _ _ keyParts value => keyParts.map (·, .loose) ++ [(value, .held)]
  | .method _ _ _ keyParts parts => keyParts.map (·, .loose) ++ parts.map (·, .loose)
  | .constructor _ parts => parts.map (·, .loose)
  | .classMethod _ keyParts parts => keyParts.map (·, .loose) ++ parts.map (·, .loose)
  | .field _ keyParts value types => keyParts.map (·, .loose) ++ (value.toList.map (·, .held) ++ types.map (·, .loose))
  | .patternDefault _ target value => [(target, .loose), (value, .held)]
  | .patternShorthand _ _ value => value.toList.map (·, .held)
  | .importDecl _ _ _ attributes => attributes.map (·, .loose)
  | .exportDefault _ _ decl => [(decl, .loose)]
  | .group _ _ parts => parts.map (·, .loose)

/-- The nodes right inside a node, in the order of a walk. -/
def parts (node : Node) : List Node := node.places.map Prod.fst

theorem places_smaller {node : Node} {place : Node × Standing} (member : place ∈ node.places) :
    sizeOf place.1 < sizeOf node := by
  have listed : ∀ {list : List Node} {standing : Standing}, place ∈ list.map (·, standing) →
      sizeOf place.1 < sizeOf list := by
    intro list standing member
    obtain ⟨part, inside, rfl⟩ := List.mem_map.mp member
    exact List.sizeOf_lt_of_mem inside
  have optional : ∀ {option : Option Node} {standing : Standing}, place ∈ option.toList.map (·, standing) →
      sizeOf place.1 < sizeOf option := by
    intro option standing member
    cases option with
    | none => simp at member
    | some part =>
      obtain rfl : place = (part, standing) := by simpa using member
      simp
  cases node with
  | ident id => simp [places] at member
  | paren span inner | member span chained object name | spread span inner | exportDefault span kind decl =>
    simp only [places, List.mem_singleton] at member
    subst member
    simp only [paren.sizeOf_spec, member.sizeOf_spec, spread.sizeOf_spec, exportDefault.sizeOf_spec]
    omega
  | call span callee arguments types | optCall span callee arguments types =>
    simp only [places, List.mem_cons, List.mem_append] at member
    simp only [call.sizeOf_spec, optCall.sizeOf_spec]
    rcases member with rfl | inArguments | inTypes
    · simp only
      omega
    · have := listed inArguments
      omega
    · have := listed inTypes
      omega
  | fnDecl head name parts | fnExpr head name parts | arrow head parts | constructor head parts
  | group form span parts =>
    have := listed member
    simp only [fnDecl.sizeOf_spec, fnExpr.sizeOf_spec, arrow.sizeOf_spec, constructor.sizeOf_spec, group.sizeOf_spec]
    omega
  | declaration span kind declarators =>
    have := listed member
    simp only [declaration.sizeOf_spec]
    omega
  | importDecl span source locals attributes =>
    have := listed member
    simp only [importDecl.sizeOf_spec]
    omega
  | declarator span target init =>
    simp only [places, List.mem_cons] at member
    simp only [declarator.sizeOf_spec]
    rcases member with rfl | inInit
    · simp only
      omega
    · have := optional inInit
      omega
  | assign span operator target value | patternDefault span target value =>
    simp only [places, List.mem_cons, List.not_mem_nil, or_false] at member
    simp only [assign.sizeOf_spec, patternDefault.sizeOf_spec]
    rcases member with rfl | rfl
    · simp only
      omega
    · simp only
      omega
  | keyValue span key keyParts value =>
    simp only [places, List.mem_append, List.mem_singleton] at member
    simp only [keyValue.sizeOf_spec]
    rcases member with inKey | rfl
    · have := listed inKey
      omega
    · simp only
      omega
  | method kind head key keyParts parts | classMethod head keyParts parts =>
    simp only [places, List.mem_append] at member
    simp only [method.sizeOf_spec, classMethod.sizeOf_spec]
    rcases member with inKey | inParts
    · have := listed inKey
      omega
    · have := listed inParts
      omega
  | field span keyParts value types =>
    simp only [places, List.mem_append] at member
    simp only [field.sizeOf_spec]
    rcases member with inKey | inValue | inTypes
    · have := listed inKey
      omega
    · have := optional inValue
      omega
    · have := listed inTypes
      omega
  | patternShorthand span key value =>
    have := optional member
    simp only [patternShorthand.sizeOf_spec]
    omega

/-- What holds of a node whenever it holds of its parts holds of every node. -/
theorem inductionOnParts {P : Node → Prop} (step : ∀ node, (∀ place ∈ node.places, P place.1) → P node)
    (node : Node) : P node :=
  step node fun place _ => inductionOnParts step place.1
termination_by sizeOf node
decreasing_by exact places_smaller ‹_›

/-! ## All nodes of a tree -/

/-- A node and all nodes inside it, each before what stands inside it. -/
def nodes (node : Node) : List Node :=
  node :: node.places.attach.flatMap fun place => nodes place.1.1
termination_by sizeOf node
decreasing_by exact places_smaller place.2

theorem nodes_eq (node : Node) : node.nodes = node :: node.places.flatMap fun place => place.1.nodes := by
  rw [nodes, List.flatMap_subtype (g := fun place => place.1.nodes) (by simp)]
  simp

/-- The node that may name a function at a part of `node`, where `outer` is the one for `node` itself. -/
def holderAt (outer : Option Node) (node : Node) : Standing → Option Node
  | .held => some node
  | .grouped => outer
  | .loose => none

/-- A node and all nodes inside it, each with the node that may give its name to a function there. -/
def occurrences (holder : Option Node) (node : Node) : List (Option Node × Node) :=
  (holder, node) :: node.places.attach.flatMap fun place => occurrences (holderAt holder node place.1.2) place.1.1
termination_by sizeOf node
decreasing_by exact places_smaller place.2

theorem occurrences_eq (holder : Option Node) (node : Node) :
    node.occurrences holder = (holder, node) ::
      node.places.flatMap fun place => place.1.occurrences (holderAt holder node place.2) := by
  rw [occurrences,
    List.flatMap_subtype (g := fun place => place.1.occurrences (holderAt holder node place.2)) (by simp)]
  simp

theorem map_snd_occurrences (holder : Option Node) (node : Node) :
    (node.occurrences holder).map Prod.snd = node.nodes := by
  induction node using inductionOnParts generalizing holder with
  | step node ih =>
    rw [occurrences_eq, nodes_eq, List.map_cons, List.map_flatMap]
    exact congrArg _ (List.flatMap_congr fun place listed => ih place listed _)

/-- What stands right inside a node of a tree is a node of the tree, too. -/
theorem occurrences_place {root node : Node} {outer holder : Option Node}
    (member : (holder, node) ∈ root.occurrences outer) {place : Node × Standing} (inside : place ∈ node.places) :
    (holderAt holder node place.2, place.1) ∈ root.occurrences outer := by
  induction root using inductionOnParts generalizing outer with
  | step root ih =>
    rw [occurrences_eq, List.mem_cons, List.mem_flatMap] at member ⊢
    rcases member with here | ⟨above, listed, deeper⟩
    · obtain ⟨rfl, rfl⟩ := Prod.mk.inj here
      refine .inr ⟨place, inside, ?_⟩
      rw [occurrences_eq]
      exact List.mem_cons_self
    · exact .inr ⟨above, listed, ih above listed deeper⟩

theorem nodes_sublist {root node : Node} (member : node ∈ root.nodes) : node.nodes.Sublist root.nodes := by
  induction root using inductionOnParts with
  | step root ih =>
    rw [nodes_eq, List.mem_cons, List.mem_flatMap] at member
    rcases member with rfl | ⟨place, listed, deeper⟩
    · exact List.Sublist.refl _
    · have inPlace := ih place listed deeper
      have below : place.1.nodes.Sublist (root.places.flatMap fun place => place.1.nodes) :=
        List.sublist_flatten_of_mem (List.mem_map.mpr ⟨place, listed, rfl⟩)
      rw [nodes_eq root]
      exact (inPlace.trans below).trans (List.sublist_cons_self _ _)

end Node

/-- All nodes of a module, each before what stands inside it. -/
def Module.nodes (module : Module) : List Node := module.items.flatMap Node.nodes

/-- All nodes of a module, each with the node that may give its name to a function there. -/
def Module.occurrences (module : Module) : List (Option Node × Node) := module.items.flatMap (Node.occurrences none)

end Syntax

open Syntax (Node)

/-! ## Walks of parts -/

variable {σ : Type}

theorem walkNodes_append (v : Visitor σ) (first second : List Node) (w : Walk σ) :
    walkNodes v (first ++ second) w = walkNodes v second (walkNodes v first w) := by
  induction first generalizing w with
  | nil => rfl
  | cons node rest ih => exact ih (walkNode v node w)

theorem walkOption_eq (v : Visitor σ) (node : Option Node) (w : Walk σ) :
    walkOption v node w = walkNodes v node.toList w := by
  cases node <;> rfl

/-- A walk of a node enters it and then walks its parts. -/
theorem walkNode_eq (v : Visitor σ) (node : Node) (w : Walk σ) :
    walkNode v node w = walkNodes v node.parts (w.enter v node) := by
  cases node <;>
    simp [walkNode, walkNodes, walkOption_eq, Node.parts, Node.places, walkNodes_append, Function.comp_def]

end NameCheck
