import Mathlib.Data.List.Nodup
import NameCheck.Proofs.Replay

/-!
Which functions a walk tells, and with which nodes. A function that its surroundings may name is told when they are
entered and remembered until it is reached; `Delivers` says what a piece of a walk owes to the functions that were told
before it, what it tells and what it leaves to be reached later.
-/
namespace NameCheck

open Syntax (Node Module)

attribute [local instance] Classical.propDecidable

/-- The function that a visitor is told of by an event. -/
def Event.cursor? : Event → Option Cursor
  | .function cursor => some cursor
  | _ => none

/-- The function that a node is, with the node that may name it: a method, an accessor and a constructor by themselves,
a function expression by the node that holds it, a declaration by none. -/
def cursorAt? : Option Node × Node → Option Cursor
  | (_, .fnDecl head name _) => some ⟨⟨.decl, head, some name⟩, none⟩
  | (holder, .fnExpr head name _) => some ⟨⟨.expr, head, name⟩, holder⟩
  | (holder, .arrow head _) => some ⟨⟨.arrow, head, none⟩, holder⟩
  | (_, .method kind head key keyParts parts) =>
    some ⟨⟨Function.ofMethodKind kind, head, none⟩, some (.method kind head key keyParts parts)⟩
  | (_, .constructor head parts) => some ⟨⟨.constructor, head, none⟩, some (.constructor head parts)⟩
  | (_, .classMethod head keyParts parts) => some ⟨⟨.method, head, none⟩, some (.classMethod head keyParts parts)⟩
  | _ => none

/-- The functions at a node and inside it, each with the node that may name it. -/
def cursorsIn (holder : Option Node) (node : Node) : List Cursor := (node.occurrences holder).filterMap cursorAt?

/-- The functions of a module, each with the node that may name it. -/
def Syntax.Module.cursors (module : Module) : List Cursor := module.occurrences.filterMap cursorAt?

/-- Where a function expression stands. -/
def Syntax.Node.expressionSpan? : Node → Option Span
  | .fnExpr head _ _ => some head.span
  | .arrow head _ => some head.span
  | _ => none

/-- Where the function expressions at a node and inside it stand. -/
def Syntax.Node.expressionSpans (node : Node) : List Span := node.nodes.filterMap Node.expressionSpan?

/-- Where the function expressions of a module stand. -/
def Syntax.Module.expressionSpans (module : Module) : List Span := module.nodes.filterMap Node.expressionSpan?

theorem cursorsIn_eq (holder : Option Node) (node : Node) :
    cursorsIn holder node = (cursorAt? (holder, node)).toList ++
      node.places.flatMap fun place => cursorsIn (Node.holderAt holder node place.2) place.1 := by
  unfold cursorsIn
  rw [Node.occurrences_eq, List.filterMap_cons, List.filterMap_flatMap]
  cases cursorAt? (holder, node) <;> rfl

theorem expressionSpans_eq (node : Node) :
    node.expressionSpans = node.expressionSpan?.toList ++ node.places.flatMap fun place => place.1.expressionSpans := by
  unfold Node.expressionSpans
  rw [Node.nodes_eq, List.filterMap_cons, List.filterMap_flatMap]
  cases node.expressionSpan? <;> rfl

/-! ## Functions told before they are reached -/

/-- The function that is told before its node is reached: an expression that another node may name. -/
def early (holder : Option Node) (node : Node) : List Cursor :=
  match holder, Function.ofExpr? node with
  | some parent, some f => [⟨f, some parent⟩]
  | _, _ => []

def spansOf (cursors : List Cursor) : List Span := cursors.map fun cursor => cursor.function.span

@[simp] theorem spansOf_nil : spansOf [] = [] := rfl

theorem early_none (node : Node) : early none node = [] := rfl

theorem early_of_none {node : Node} (not : Function.ofExpr? node = none) (holder : Option Node) :
    early holder node = [] := by
  cases holder <;> simp [early, not]

theorem early_paren (holder : Option Node) (span : Span) (inner : Node) :
    early holder (.paren span inner) = early holder inner := rfl

theorem ofExpr?_inside {node : Node} {f : Function} (is : Function.ofExpr? node = some f) :
    f.span ∈ node.expressionSpans := by
  induction node using Node.inductionOnParts with
  | step node ih =>
    rw [expressionSpans_eq]
    cases node with
    | paren span inner =>
      have inside := ih (inner, .grouped) (by simp [Node.places]) is
      simp [Node.places, inside]
    | fnExpr head name parts | arrow head parts =>
      simp only [Function.ofExpr?, Node.stripParens, Option.some.injEq] at is
      simp [← is, Node.expressionSpan?, Function.span]
    | _ => simp [Function.ofExpr?, Node.stripParens] at is

theorem early_inside {holder : Option Node} {node : Node} {span : Span} (member : span ∈ spansOf (early holder node)) :
    span ∈ node.expressionSpans := by
  unfold early at member
  split at member
  · rename_i f is
    obtain rfl : span = f.span := by simpa [spansOf] using member
    exact ofExpr?_inside is
  · simp [spansOf] at member

/-! ## Pieces of a walk -/

/-- How often a walk has told a function. -/
noncomputable def timesTold (w : Walk (List Event)) (cursor : Cursor) : Nat :=
  (w.state.filterMap Event.cursor?).count cursor

/-- A piece of a walk from `w` to `w'` reaches the functions `reached`, which were told before it, tells the functions
`ahead`, which are reached after it, and gives its share to the telling of the functions `cursors`. -/
structure Delivers (reached ahead cursors : List Cursor) (w w' : Walk (List Event)) : Prop where
  going : w'.stopped = false
  distinct : w'.claimed.Nodup
  told : ∀ cursor, timesTold w' cursor + reached.count cursor =
    timesTold w cursor + cursors.count cursor + ahead.count cursor
  claimed : ∀ span, span ∈ w'.claimed ↔ (span ∈ w.claimed ∧ span ∉ spansOf reached) ∨ span ∈ spansOf ahead

/-- A walk that may reach a node: of the function expressions there it remembers just those told before. -/
structure Ready (reached : List Cursor) (spans : List Span) (w : Walk (List Event)) : Prop where
  going : w.stopped = false
  distinct : w.claimed.Nodup
  claimed : ∀ span ∈ spans, span ∈ w.claimed ↔ span ∈ spansOf reached

namespace Delivers

variable {reached reached' ahead ahead' cursors cursors' : List Cursor} {w w₁ w₂ : Walk (List Event)}

theorem idle (going : w.stopped = false) (distinct : w.claimed.Nodup) : Delivers [] [] [] w w :=
  ⟨going, distinct, fun cursor => by simp, fun span => by simp [spansOf]⟩

/-- One piece of a walk after another, if the second reaches nothing that the first told ahead. -/
theorem append (first : Delivers reached ahead cursors w w₁) (second : Delivers reached' ahead' cursors' w₁ w₂)
    (apart : ∀ span ∈ spansOf ahead, span ∉ spansOf reached') :
    Delivers (reached ++ reached') (ahead ++ ahead') (cursors ++ cursors') w w₂ := by
  refine ⟨second.going, second.distinct, ?_, ?_⟩
  · intro cursor
    have firstTold := first.told cursor
    have secondTold := second.told cursor
    simp only [List.count_append]
    omega
  · intro span
    have := apart span
    simp only [spansOf, List.map_append, List.mem_append] at *
    rw [second.claimed span, first.claimed span]
    simp only [spansOf]
    tauto

/-- One piece of a walk after another that reaches what the first told ahead. -/
theorem trans (first : Delivers reached ahead cursors w w₁) (second : Delivers ahead [] cursors' w₁ w₂)
    (new : ∀ span ∈ spansOf ahead, span ∈ w.claimed → span ∈ spansOf reached) :
    Delivers reached [] (cursors ++ cursors') w w₂ := by
  refine ⟨second.going, second.distinct, ?_, ?_⟩
  · intro cursor
    have firstTold := first.told cursor
    have secondTold := second.told cursor
    simp only [List.count_append, List.count_nil] at *
    omega
  · intro span
    have := new span
    rw [second.claimed span, first.claimed span]
    simp only [spansOf, List.map_nil, List.not_mem_nil, or_false] at *
    tauto

end Delivers

/-! ## Steps -/

theorem tell_function (told : Cursor) {w : Walk (List Event)} (going : w.stopped = false) (distinct : w.claimed.Nodup) :
    Delivers [] [] [told] w (w.tell (recorder true) (.function told)) := by
  refine ⟨by simp [Walk.tell, going, collector], by simpa [Walk.tell, going] using distinct, ?_, ?_⟩
  · intro cursor
    simp [timesTold, Walk.tell, going, collector, Event.cursor?]
  · intro span
    simp [Walk.tell, going, spansOf]

theorem cursor?_of_event? {node : Node} {event : Event} (is : Walk.event? node = some event) :
    event.cursor? = none := by
  cases node <;> simp only [Walk.event?, Option.some.injEq, reduceCtorEq] at is <;> rw [← is] <;> rfl

/-- What a node is apart from functions is told without any function. -/
theorem announce_delivers (node : Node) {w : Walk (List Event)} (going : w.stopped = false)
    (distinct : w.claimed.Nodup) : Delivers [] [] [] w (w.announce (recorder true) node) := by
  unfold Walk.announce
  split
  · rename_i event is
    have plain := cursor?_of_event? is
    refine ⟨by simp [Walk.tell, going, collector], by simpa [Walk.tell, going] using distinct, ?_, ?_⟩
    · intro cursor
      simp [timesTold, Walk.tell, going, collector, plain]
    · intro span
      simp [Walk.tell, going, spansOf]
  · exact .idle going distinct

/-- A function that a node may name is told ahead. -/
theorem deliverChild_delivers (parent node : Node) {w : Walk (List Event)} (going : w.stopped = false)
    (distinct : w.claimed.Nodup) :
    Delivers [] (early (some parent) node) [] w (w.deliverChild (recorder true) parent node) := by
  unfold Walk.deliverChild early
  cases is : Function.ofExpr? node with
  | none => exact .idle going distinct
  | some f =>
    have claim : ({ w with claimed := w.claimed.insert f.span } : Walk (List Event)).claimed.Nodup :=
      List.Nodup.insert distinct
    have told := tell_function ⟨f, some parent⟩ (w := { w with claimed := w.claimed.insert f.span }) going claim
    refine ⟨told.going, told.distinct, ?_, ?_⟩
    · intro cursor
      have := told.told cursor
      simp [timesTold, Walk.deliver, collector] at this ⊢
      omega
    · intro span
      have := told.claimed span
      simp [Walk.deliver, collector, spansOf] at this ⊢
      rw [this]
      exact or_comm

theorem deliverArguments_delivers (parent : Node) (arguments : List Node) {w : Walk (List Event)}
    (going : w.stopped = false) (distinct : w.claimed.Nodup) :
    Delivers [] (arguments.flatMap (early (some parent))) [] w
      (w.deliverArguments (recorder true) parent arguments) := by
  unfold Walk.deliverArguments
  induction arguments generalizing w with
  | nil => exact .idle going distinct
  | cons argument rest ih =>
    cases spread : Walk.isSpread argument with
    | true =>
      have silent : early (some parent) argument = [] := by
        cases argument <;> first | rfl | simp [Walk.isSpread] at spread
      simpa [spread, silent] using ih going distinct
    | false =>
      have child := deliverChild_delivers parent argument going distinct
      have both := child.append (ih child.going child.distinct) (by simp [spansOf])
      simpa [spread] using both

/-- A function expression that is reached is told, unless it was told before. -/
theorem deliverUnclaimed_delivers {holder : Option Node} {node : Node} {f : Function} {w : Walk (List Event)}
    (is : Function.ofExpr? node = some f) (ready : Ready (early holder node) [f.span] w) :
    Delivers (early holder node) [] [⟨f, holder⟩] w (w.deliverUnclaimed (recorder true) f) := by
  have known := ready.claimed f.span (by simp)
  unfold Walk.deliverUnclaimed
  cases holder with
  | none =>
    have unknown : f.span ∉ w.claimed := by simpa [early, spansOf] using known
    simpa [collector, unknown, Walk.deliver, early] using tell_function ⟨f, none⟩ ready.going ready.distinct
  | some parent =>
    have claimed : f.span ∈ w.claimed := by simpa [early, is, spansOf] using known
    simp only [collector, List.contains_iff_mem, claimed, early, is, if_true]
    refine ⟨ready.going, ready.distinct.erase _, fun cursor => by simp [timesTold], ?_⟩
    intro span
    simp only [ready.distinct.mem_erase_iff, spansOf, List.map_cons, List.map_nil, List.mem_singleton, List.not_mem_nil,
      or_false, ne_eq]
    exact and_comm

/-- The functions that are told when a node is entered and reached at some of its places. -/
def earlyAt (holder : Option Node) (node : Node) (places : List (Node × Syntax.Standing)) : List Cursor :=
  places.flatMap fun place => early (Node.holderAt holder node place.2) place.1

theorem earlyAt_append (holder : Option Node) (node : Node) (first second : List (Node × Syntax.Standing)) :
    earlyAt holder node (first ++ second) = earlyAt holder node first ++ earlyAt holder node second := by
  simp [earlyAt]

theorem earlyAt_cons (holder : Option Node) (node : Node) (place : Node × Syntax.Standing)
    (rest : List (Node × Syntax.Standing)) :
    earlyAt holder node (place :: rest) =
      early (Node.holderAt holder node place.2) place.1 ++ earlyAt holder node rest := rfl

theorem earlyAt_nil (holder : Option Node) (node : Node) : earlyAt holder node [] = [] := rfl

theorem earlyAt_loose (holder : Option Node) (node : Node) (parts : List Node) :
    earlyAt holder node (parts.map (·, .loose)) = [] := by
  simp [earlyAt, Node.holderAt, early_none]

theorem earlyAt_held (holder : Option Node) (node : Node) (parts : List Node) :
    earlyAt holder node (parts.map (·, .held)) = parts.flatMap (early (some node)) := by
  simp [earlyAt, Node.holderAt, List.flatMap_map]

theorem earlyAt_inside {holder : Option Node} {node : Node} {places : List (Node × Syntax.Standing)} {span : Span}
    (member : span ∈ spansOf (earlyAt holder node places)) :
    span ∈ places.flatMap fun place => place.1.expressionSpans := by
  simp only [spansOf, earlyAt, List.map_flatMap, List.mem_flatMap] at member ⊢
  obtain ⟨place, listed, inside⟩ := member
  exact ⟨place, listed, early_inside inside⟩

/-- Entering a node tells the function that it is and, ahead, those that it may name. -/
theorem deliverFrom_delivers {holder : Option Node} {node : Node} {w : Walk (List Event)}
    (ready : Ready (early holder node) node.expressionSpans w) :
    Delivers (early holder node) (earlyAt holder node node.places) (cursorAt? (holder, node)).toList w
      (w.deliverFrom (recorder true) node) := by
  have own := fun cursor => tell_function cursor ready.going ready.distinct
  have child := fun part => deliverChild_delivers node part ready.going ready.distinct
  have all := fun arguments => deliverArguments_delivers node arguments ready.going ready.distinct
  have idle := Delivers.idle ready.going ready.distinct
  have unclaimed : ∀ f, Function.ofExpr? node = some f →
      Delivers (early holder node) [] [⟨f, holder⟩] w (w.deliverUnclaimed (recorder true) f) := by
    intro f is
    refine deliverUnclaimed_delivers is ⟨ready.going, ready.distinct, fun span member => ready.claimed span ?_⟩
    rw [List.mem_singleton.mp member]
    exact ofExpr?_inside is
  cases node with
  | paren span inner =>
    have inside : ∀ place ∈ spansOf (early holder inner), place ∈ w.claimed := fun place member =>
      (ready.claimed place (@early_inside holder (.paren span inner) place member)).mpr member
    refine ⟨ready.going, ready.distinct, fun cursor => ?_, fun place => ?_⟩
    · simp [early_paren, earlyAt, Node.places, Node.holderAt, cursorAt?, Walk.deliverFrom]
    · have := inside place
      simp only [early_paren, earlyAt, Node.places, Node.holderAt, List.flatMap_cons, List.flatMap_nil, List.append_nil,
        Walk.deliverFrom]
      tauto
  | fnExpr head name parts =>
    rw [Node.places, earlyAt_loose]
    exact unclaimed ⟨.expr, head, name⟩ rfl
  | arrow head parts =>
    rw [Node.places, earlyAt_loose]
    exact unclaimed ⟨.arrow, head, none⟩ rfl
  | fnDecl head name parts | constructor head parts =>
    rw [early_of_none rfl, Node.places, earlyAt_loose]
    exact own _
  | method kind head key keyParts parts | classMethod head keyParts parts =>
    rw [early_of_none rfl, Node.places, earlyAt_append, earlyAt_loose, earlyAt_loose]
    exact own _
  | call span callee arguments types | optCall span callee arguments types =>
    rw [early_of_none rfl, Node.places, earlyAt_cons, earlyAt_append, earlyAt_held, earlyAt_loose, List.append_nil]
    exact all arguments
  | declarator span target init =>
    rw [early_of_none rfl, Node.places, earlyAt_cons, earlyAt_held]
    cases init with
    | none => exact idle
    | some init =>
      rw [Option.toList_some, List.flatMap_singleton]
      exact child init
  | assign span operator target value | patternDefault span target value =>
    rw [early_of_none rfl, Node.places, earlyAt_cons, earlyAt_cons, earlyAt_nil, List.append_nil]
    exact child value
  | keyValue span key keyParts value =>
    rw [early_of_none rfl, Node.places, earlyAt_append, earlyAt_loose, earlyAt_cons, earlyAt_nil, List.append_nil]
    exact child value
  | field span keyParts value types =>
    rw [early_of_none rfl, Node.places, earlyAt_append, earlyAt_append, earlyAt_loose, earlyAt_held, earlyAt_loose,
      List.append_nil]
    cases value with
    | none => exact idle
    | some value =>
      rw [Option.toList_some, List.flatMap_singleton]
      exact child value
  | patternShorthand span key value =>
    rw [early_of_none rfl, Node.places, earlyAt_held]
    cases value with
    | none => exact idle
    | some value =>
      rw [Option.toList_some, List.flatMap_singleton]
      exact child value
  | ident id | member span chained part name | spread span part | exportDefault span kind part =>
    rw [early_of_none rfl]
    exact idle
  | declaration span kind parts | importDecl span source locals parts | group form span parts =>
    rw [early_of_none rfl, Node.places, earlyAt_loose]
    exact idle

theorem enter_delivers {holder : Option Node} {node : Node} {w : Walk (List Event)}
    (ready : Ready (early holder node) node.expressionSpans w) :
    Delivers (early holder node) (earlyAt holder node node.places) (cursorAt? (holder, node)).toList w
      (w.enter (recorder true) node) := by
  have announced := announce_delivers node ready.going ready.distinct
  have still : Ready (early holder node) node.expressionSpans (w.announce (recorder true) node) := by
    refine ⟨announced.going, announced.distinct, fun span member => ?_⟩
    rw [announced.claimed span, ← ready.claimed span member]
    simp [spansOf]
  rw [Walk.enter_eq, if_neg (by simp [ready.going]), if_neg (by simp [announced.going])]
  exact announced.append (deliverFrom_delivers still) (by simp [spansOf])

/-! ## Whole walks -/

/-- Walking nodes at places that a node holds, where the walk of each tells the functions there. -/
theorem walkNodes_delivers {holder : Option Node} {node : Node} {places : List (Node × Syntax.Standing)}
    (each : ∀ place ∈ places, ∀ {holder w}, place.1.expressionSpans.Nodup →
      Ready (early holder place.1) place.1.expressionSpans w →
      Delivers (early holder place.1) [] (cursorsIn holder place.1) w (walkNode (recorder true) place.1 w))
    (distinct : (places.flatMap fun place => place.1.expressionSpans).Nodup) {w : Walk (List Event)}
    (ready : Ready (earlyAt holder node places) (places.flatMap fun place => place.1.expressionSpans) w) :
    Delivers (earlyAt holder node places) []
      (places.flatMap fun place => cursorsIn (Node.holderAt holder node place.2) place.1) w
      (walkNodes (recorder true) (places.map Prod.fst) w) := by
  induction places generalizing w with
  | nil => exact .idle ready.going ready.distinct
  | cons place rest ih =>
    rw [List.flatMap_cons, List.nodup_append'] at distinct
    obtain ⟨hereDistinct, restDistinct, apart⟩ := distinct
    have mine : ∀ span, span ∈ spansOf (earlyAt holder node (place :: rest)) ↔
        span ∈ spansOf (early (Node.holderAt holder node place.2) place.1) ∨
          span ∈ spansOf (earlyAt holder node rest) := by
      intro span
      simp [earlyAt_cons, spansOf]
    -- No function expression stands both here and in the rest.
    have here : Ready (early (Node.holderAt holder node place.2) place.1) place.1.expressionSpans w := by
      refine ⟨ready.going, ready.distinct, fun span member => ?_⟩
      rw [ready.claimed span (List.mem_append_left _ member), mine span]
      exact or_iff_left fun later => apart member (earlyAt_inside later)
    have first := each place List.mem_cons_self hereDistinct here
    have later : Ready (earlyAt holder node rest) (rest.flatMap fun place => place.1.expressionSpans)
        (walkNode (recorder true) place.1 w) := by
      refine ⟨first.going, first.distinct, fun span member => ?_⟩
      have notHere : span ∉ spansOf (early (Node.holderAt holder node place.2) place.1) := fun earlier =>
        apart (early_inside earlier) member
      rw [first.claimed span, ready.claimed span (List.mem_append_right _ member), mine span]
      simp [notHere]
    have second := ih (fun place member => each place (List.mem_cons_of_mem _ member)) restDistinct later
    exact first.append second (by simp [spansOf])

/-- The walk of a node tells every function at it and inside it, of which the outermost may have been told before. -/
theorem walkNode_delivers (node : Node) : ∀ {holder w}, node.expressionSpans.Nodup →
    Ready (early holder node) node.expressionSpans w →
    Delivers (early holder node) [] (cursorsIn holder node) w (walkNode (recorder true) node w) := by
  induction node using Node.inductionOnParts with
  | step node ih =>
    intro holder w distinct ready
    have entered := enter_delivers ready
    have inside : ∀ span ∈ node.places.flatMap fun place => place.1.expressionSpans, span ∈ node.expressionSpans := by
      intro span member
      rw [expressionSpans_eq]
      exact List.mem_append_right _ member
    have partsDistinct : (node.places.flatMap fun place => place.1.expressionSpans).Nodup := by
      rw [expressionSpans_eq] at distinct
      exact distinct.of_append_right
    -- Of the function expressions in the parts the walk remembers just those that entering the node told.
    have readyParts : Ready (earlyAt holder node node.places)
        (node.places.flatMap fun place => place.1.expressionSpans) (w.enter (recorder true) node) := by
      refine ⟨entered.going, entered.distinct, fun span member => ?_⟩
      rw [entered.claimed span, ready.claimed span (inside span member)]
      simp
    have walked := walkNodes_delivers ih partsDistinct readyParts
    rw [walkNode_eq, cursorsIn_eq]
    refine entered.trans walked fun span ahead known => ?_
    exact (ready.claimed span (inside span (earlyAt_inside ahead))).mp known

/-- A walk through a module in which no two function expressions share a span tells every function of it. -/
theorem walkModule_delivers {module : Module} (distinct : module.expressionSpans.Nodup) :
    Delivers [] [] module.cursors ⟨[], [], false⟩ (walkModule (recorder true) module []) := by
  -- The items of a module stand where no node names them.
  let places : List (Node × Syntax.Standing) := module.items.map (·, .loose)
  have items : places.map Prod.fst = module.items := by simp [places, Function.comp_def]
  have spans : (places.flatMap fun place => place.1.expressionSpans) = module.expressionSpans := by
    simp only [places, List.flatMap_map, Module.expressionSpans, Module.nodes, List.filterMap_flatMap]
    rfl
  have cursors : (places.flatMap fun place => cursorsIn (Node.holderAt none default place.2) place.1) =
      module.cursors := by
    simp only [places, List.flatMap_map, Module.cursors, Module.occurrences, List.filterMap_flatMap]
    rfl
  have none : earlyAt none default places = [] := earlyAt_loose none default module.items
  have ready : Ready (earlyAt Option.none default places) (places.flatMap fun place => place.1.expressionSpans)
      ⟨[], [], false⟩ := ⟨rfl, List.nodup_nil, fun span _ => by simp [none]⟩
  have walked := walkNodes_delivers (fun place _ => walkNode_delivers place.1) (spans ▸ distinct) ready
  rwa [none, cursors, items] at walked

/-- The functions that a walk tells, each with the node that may name it. -/
def toldCursors (module : Module) : List Cursor := (toldEvents true module).filterMap Event.cursor?

open scoped Classical in
theorem toldCursors_perm {module : Module} (distinct : module.expressionSpans.Nodup) :
    (toldCursors module).Perm module.cursors := by
  have delivered := walkModule_delivers distinct
  refine List.perm_iff_count.mpr fun cursor => ?_
  simpa [timesTold, toldCursors, toldEvents, collectEvents] using delivered.told cursor

/-- In a module in which no two function expressions share a span, a walk tells every function just once, each with the
node that may name it, and tells of no other function. A visitor that wants functions and never stops is told so, and
no function is left remembered. -/
theorem functions_told_once (module : Module) (distinct : module.expressionSpans.Nodup) :
    ((toldEvents true module).filterMap Event.cursor?).Perm module.cursors ∧
      ∀ {σ : Type} (v : Visitor σ) (start : σ), v.wantsFunctions = true →
        (∀ state event, (v.visit state event).2 = true) →
        walkModule v module start =
          ⟨(toldEvents true module).foldl (fun state event => (v.visit state event).1) start, [], false⟩ := by
  refine ⟨toldCursors_perm distinct, ?_⟩
  intro σ v start wants tireless
  have claimed : (walkModule (recorder true) module []).claimed = [] := by
    refine List.eq_nil_iff_forall_not_mem.mpr fun span member => ?_
    simpa using ((walkModule_delivers distinct).claimed span).mp member
  rw [walkModule_tireless tireless, wants, claimed]

/-- `a = (() => 0); use(function f() {}, ...(() => 1))`, without the literals. -/
def callbacks : Module :=
  ⟨[.assign ⟨0, 13⟩ .assign (.ident ⟨⟨0, 1⟩, "a"⟩) (.paren ⟨4, 13⟩ (.arrow ⟨⟨5, 12⟩, false⟩ [])),
    .call ⟨15, 49⟩ (.ident ⟨⟨15, 18⟩, "use"⟩)
      [.fnExpr ⟨⟨19, 34⟩, false⟩ (some ⟨⟨28, 29⟩, "f"⟩) [],
        .spread ⟨36, 48⟩ (.paren ⟨39, 48⟩ (.arrow ⟨⟨40, 47⟩, false⟩ []))] []]⟩

/-- Counts the functions that it is told of. -/
def functionCounter : Visitor Nat where
  wantsFunctions := true
  visit := fun count event => (count + event.cursor?.toList.length, true)

theorem callbacks_told_once :
    callbacks.expressionSpans = [⟨5, 12⟩, ⟨19, 34⟩, ⟨40, 47⟩] ∧ callbacks.expressionSpans.Nodup ∧
      ((toldEvents true callbacks).filterMap Event.cursor?).Perm callbacks.cursors ∧
      callbacks.cursors.map (·.parent.isSome) = [true, true, false] ∧
      walkModule functionCounter callbacks 0 = ⟨3, [], false⟩ := by
  have spans : callbacks.expressionSpans = [⟨5, 12⟩, ⟨19, 34⟩, ⟨40, 47⟩] := by
    simp only [Module.expressionSpans, Module.nodes, callbacks, List.flatMap_cons, List.flatMap_nil]
    repeat
      rw [Node.nodes_eq]
      simp only [Node.places, List.map_cons, List.map_nil, List.flatMap_cons, List.flatMap_nil, List.cons_append,
        List.nil_append]
    rfl
  have distinct : callbacks.expressionSpans.Nodup := by rw [spans]; decide
  obtain ⟨told, walked⟩ := functions_told_once callbacks distinct
  refine ⟨spans, distinct, told, ?_, (walked functionCounter 0 rfl fun _ _ => rfl).trans rfl⟩
  simp only [Module.cursors, Module.occurrences, callbacks, List.flatMap_cons, List.flatMap_nil]
  repeat
    rw [Node.occurrences_eq]
    simp only [Node.places, List.map_cons, List.map_nil, List.flatMap_cons, List.flatMap_nil, List.cons_append,
      List.nil_append]
  rfl

end NameCheck
