import NameCheck.Proofs.HookCalls
import NameCheck.Proofs.Naming

/-!
The callbacks of calls, as a rule and as a walk see them. The rule about callbacks of hooks looks at the first argument
of a call under that call. A walk that wants functions tells of it when it enters the call and not when it reaches it,
so that both see the function under the same node (`cursor_of_held`, `told_of_expression`).
-/
namespace NameCheck

open Syntax (Node Module)

/-! ## Functions under the nodes that hold them -/

theorem cursorAt?_stripParens {node : Node} {f : Function} (is : Function.ofExpr? node = some f)
    (holder : Option Node) : cursorAt? (holder, node.stripParens) = some ⟨f, holder⟩ := by
  unfold Function.ofExpr? at is
  split at is
  · rename_i stripped
    obtain rfl := Option.some.inj is
    rw [stripped]
    rfl
  · rename_i stripped
    obtain rfl := Option.some.inj is
    rw [stripped]
    rfl
  · cases is

theorem occurrences_wraps {module : Module} {holder : Option Node} {node core : Node} (wraps : node.Wraps core)
    (member : (holder, node) ∈ module.occurrences) : (holder, core) ∈ module.occurrences := by
  induction wraps with
  | bare node => exact member
  | @paren span inner core wraps ih =>
    obtain ⟨item, listed, inside⟩ := List.mem_flatMap.mp member
    have grouped : (inner, .grouped) ∈ (Node.paren span inner).places := List.mem_singleton_self _
    exact ih (List.mem_flatMap.mpr ⟨item, listed, Node.occurrences_place inside grouped⟩)

theorem mem_occurrences {module : Module} {node : Node} (member : node ∈ module.nodes) :
    ∃ holder, (holder, node) ∈ module.occurrences := by
  obtain ⟨item, listed, inside⟩ := List.mem_flatMap.mp member
  rw [← Node.map_snd_occurrences none item, List.mem_map] at inside
  obtain ⟨⟨holder, _⟩, occurs, rfl⟩ := inside
  exact ⟨holder, List.mem_flatMap.mpr ⟨item, listed, occurs⟩⟩

/-- A function that a node holds is a function of the module under that node. -/
theorem cursor_of_held {module : Module} {node part : Node} {f : Function} (inside : node ∈ module.nodes)
    (held : (part, .held) ∈ node.places) (is : Function.ofExpr? part = some f) :
    ⟨f, some node⟩ ∈ module.cursors := by
  obtain ⟨holder, occurs⟩ := mem_occurrences inside
  obtain ⟨item, listed, below⟩ := List.mem_flatMap.mp occurs
  have under : (some node, part) ∈ module.occurrences :=
    List.mem_flatMap.mpr ⟨item, listed, Node.occurrences_place below held⟩
  exact List.mem_filterMap.mpr ⟨_, occurrences_wraps (wraps_stripParens part) under, cursorAt?_stripParens is _⟩

/-! ## Functions at their places -/

/-- Whether a function is an expression. -/
def Cursor.isExpression (cursor : Cursor) : Bool := cursor.function.kind == .expr || cursor.function.kind == .arrow

theorem span_cursorAt? (holder : Option Node) (node : Node) :
    ((cursorAt? (holder, node)).filter Cursor.isExpression).map (fun cursor => cursor.function.span) =
      node.expressionSpan? := by
  cases node with
  | method kind head key keyParts parts => cases kind <;> rfl
  | _ => rfl

theorem map_snd_module (module : Module) : module.occurrences.map Prod.snd = module.nodes := by
  rw [Module.occurrences, Module.nodes, List.map_flatMap]
  exact List.flatMap_congr fun item _ => Node.map_snd_occurrences none item

/-- The function expressions among the functions of a module stand where those of the tree stand. -/
theorem spans_cursors (module : Module) :
    (module.cursors.filter Cursor.isExpression).map (fun cursor => cursor.function.span) = module.expressionSpans := by
  rw [Module.cursors, List.filter_filterMap, List.map_filterMap, Module.expressionSpans, ← map_snd_module,
    List.filterMap_map]
  exact List.filterMap_congr fun place _ => span_cursorAt? place.1 place.2

theorem eq_singleton {α β : Type} (key : α → β) {list : List α} {a : α} (distinct : (list.map key).Nodup)
    (member : a ∈ list) (same : ∀ b ∈ list, key b = key a) : list = [a] := by
  cases list with
  | nil => cases member
  | cons first rest =>
    rw [List.map_cons, List.nodup_cons] at distinct
    have alone : rest = [] := by
      refine List.eq_nil_iff_forall_not_mem.mpr fun b later => distinct.1 ?_
      rw [same first List.mem_cons_self, ← same b (List.mem_cons_of_mem _ later)]
      exact List.mem_map_of_mem later
    subst alone
    rw [List.mem_singleton.mp member]

/-- If no two function expressions share a span, a walk tells of an expression just once, under the node under which
the module has it. -/
theorem told_of_expression {module : Module} (distinct : module.expressionSpans.Nodup) {part : Node} {f : Function}
    {holder : Option Node} (is : Function.ofExpr? part = some f) (has : ⟨f, holder⟩ ∈ module.cursors) :
    (toldCursors module).filter (fun cursor => cursor.function.isExpr part) = [⟨f, holder⟩] := by
  have once := toldCursors_perm distinct
  have expression : ∀ cursor : Cursor, cursor.function.isExpr part = true → cursor.isExpression = true := by
    intro cursor same
    rw [Cursor.isExpression, ((isExpr_iff is cursor.function).mp same).1]
    rcases ofExpr?_named is with expr | ⟨arrow, -⟩
    · rw [expr]
      rfl
    · rw [arrow]
      rfl
  have spans : (((toldCursors module).filter Cursor.isExpression).map fun cursor => cursor.function.span).Nodup := by
    rw [((once.filter Cursor.isExpression).map _).nodup_iff, spans_cursors]
    exact distinct
  -- What is told of the expression has its span, so there is one of it at most, and the module has it.
  refine eq_singleton (fun cursor : Cursor => cursor.function.span) ?_ ?_ ?_
  · exact spans.sublist ((List.monotone_filter_right _ expression).map _)
  · exact List.mem_filter.mpr ⟨once.mem_iff.mpr has, (isExpr_iff is f).mpr ⟨rfl, rfl⟩⟩
  · intro cursor member
    exact ((isExpr_iff is cursor.function).mp (List.mem_filter.mp member).2).2

/-! ## Arguments of calls -/

/-- Arguments without a callback: the first one is missing, spread or no function. -/
inductive NoCallback : List Node → Prop where
  | missing : NoCallback []
  | spread (span : Span) (inner : Node) (rest : List Node) : NoCallback (.spread span inner :: rest)
  | other {argument : Node} (no : Function.ofExpr? argument = none) (rest : List Node) : NoCallback (argument :: rest)

theorem NoCallback.first {arguments : List Node} (no : NoCallback arguments) :
    ∀ argument ∈ arguments.head?, Function.ofExpr? argument = none := by
  rintro argument member
  cases no with
  | missing => cases member
  | spread span inner rest =>
    obtain rfl := Option.some.inj member
    rfl
  | other no rest =>
    obtain rfl := Option.some.inj member
    exact no

theorem held_calling {optional : Bool} {span : Span} {callee : Node} {arguments types : List Node} {part : Node} :
    (part, .held) ∈ (Node.calling optional span callee arguments types).places ↔ part ∈ arguments := by
  cases optional <;> simp [Node.calling, Node.places]

theorem argument_of_told {module : Module} {optional : Bool} {span : Span} {callee : Node} {arguments types : List Node}
    {told : Cursor} (member : told ∈ toldCursors module)
    (under : told.parent = some (.calling optional span callee arguments types)) :
    ∃ argument ∈ arguments, Function.ofExpr? argument = some told.function := by
  obtain ⟨node, at_⟩ := toldAt_of_mem member
  obtain ⟨f, holder⟩ := told
  obtain rfl : holder = some _ := under
  -- Methods and constructors are told under themselves. A call is none of them, so it holds what is told under it.
  generalize is : Node.calling optional span callee arguments types = call at at_
  cases at_ with
  | method | constructor | classMethod => cases optional <;> cases is
  | held inside ofExpr =>
    rw [← is, held_calling] at inside
    exact ⟨_, inside, ofExpr⟩

theorem spans_calling (optional : Bool) (span : Span) (callee : Node) (arguments types : List Node) :
    (Node.calling optional span callee arguments types).expressionSpans =
      callee.expressionSpans ++
        (arguments.flatMap Node.expressionSpans ++ types.flatMap Node.expressionSpans) := by
  rw [expressionSpans_eq]
  cases optional <;> simp [Node.calling, Node.places, Node.expressionSpan?, List.flatMap_map]

theorem arguments_apart {module : Module} (distinct : module.expressionSpans.Nodup) {optional : Bool} {span : Span}
    {callee first : Node} {rest types : List Node}
    (inside : Node.calling optional span callee (first :: rest) types ∈ module.nodes) {argument : Node}
    (later : argument ∈ rest) : first.expressionSpans.Disjoint argument.expressionSpans := by
  -- Read in order, the nodes below the call are some of those of the module.
  have below : (Node.calling optional span callee (first :: rest) types).expressionSpans.Nodup := by
    obtain ⟨item, listed, deeper⟩ := List.mem_flatMap.mp inside
    have inItem := Node.nodes_sublist deeper
    have inModule : item.nodes.Sublist module.nodes :=
      List.sublist_flatten_of_mem (List.mem_map.mpr ⟨item, listed, rfl⟩)
    exact distinct.sublist ((inItem.trans inModule).filterMap _)
  rw [spans_calling, List.flatMap_cons] at below
  have apart := List.disjoint_of_nodup_append below.of_append_right.of_append_left
  intro place here there
  exact apart here (List.mem_flatMap.mpr ⟨argument, later, there⟩)

/-- Let no two function expressions of a module share a span. If the first argument of a call is a function, which a
spread argument is not, the cursor under which the rule about callbacks looks at it is the one and only cursor with
which a walk tells of it, so that the rule gives it the name it has there. If the first argument is missing, spread or
no function, every function that a walk tells under the call is a later argument, and none is the first one or stands
in it. -/
theorem callback_cursor_told (module : Module) (distinct : module.expressionSpans.Nodup) (optional : Bool) (span : Span)
    (callee : Node) (arguments types : List Node)
    (inside : Node.calling optional span callee arguments types ∈ module.nodes) :
    (∀ argument rest f, arguments = argument :: rest → Function.ofExpr? argument = some f →
        ∃ told, told = ⟨f, some (.calling optional span callee arguments types)⟩ ∧
          (toldCursors module).filter (fun cursor => cursor.function.isExpr argument) = [told] ∧
          HookCallback.firstArgumentName? (.calling optional span callee arguments types) arguments = told.name?) ∧
      (NoCallback arguments → ∀ told ∈ toldCursors module,
        told.parent = some (.calling optional span callee arguments types) →
          (∃ argument ∈ arguments.tail, Function.ofExpr? argument = some told.function) ∧
            ∀ first ∈ arguments.head?, told.function.span ∉ first.expressionSpans) := by
  refine ⟨?_, ?_⟩
  · rintro argument rest f rfl is
    have held : (argument, .held) ∈ (Node.calling optional span callee (argument :: rest) types).places :=
      held_calling.mpr List.mem_cons_self
    refine ⟨_, rfl, told_of_expression distinct is (cursor_of_held inside held is), ?_⟩
    rw [HookCallback.firstArgumentName?_cons, is, Option.bind_some]
  · intro no told member under
    obtain ⟨argument, listed, is⟩ := argument_of_told member under
    cases arguments with
    | nil => cases listed
    | cons first rest =>
      have firstIsNone := no.first first rfl
      have later : argument ∈ rest := by
        rcases List.mem_cons.mp listed with rfl | later
        · rw [firstIsNone] at is
          cases is
        · exact later
      refine ⟨⟨argument, later, is⟩, ?_⟩
      rintro _ ⟨⟩ inFirst
      exact arguments_apart distinct inside later inFirst (ofExpr?_inside is)

/-- `useX((() => 0))`, without the literal. -/
def wrappedCall : Node :=
  .calling false ⟨0, 15⟩ (.ident ⟨⟨0, 4⟩, "useX"⟩) [.paren ⟨5, 14⟩ (.arrow ⟨⟨6, 13⟩, false⟩ [])] []

/-- `useY?.(...(() => 1), () => 2)`, without the literals. -/
def spreadCall : Node :=
  .calling true ⟨17, 46⟩ (.ident ⟨⟨17, 21⟩, "useY"⟩)
    [.spread ⟨24, 36⟩ (.paren ⟨27, 36⟩ (.arrow ⟨⟨28, 35⟩, false⟩ [])), .arrow ⟨⟨38, 45⟩, false⟩ []] []

/-- The two calls, one after the other. -/
def hookCalls : Module := ⟨[wrappedCall, spreadCall]⟩

theorem hookCalls_told :
    (∃ told, told.parent = some wrappedCall ∧ told.name?.isNone = true ∧
      (toldCursors hookCalls).filter (fun cursor => cursor.function.isExpr (.arrow ⟨⟨6, 13⟩, false⟩ [])) = [told]) ∧
      ∃ told ∈ toldCursors hookCalls, told.parent = some spreadCall ∧
        told.function.span ∉
          (Node.spread ⟨24, 36⟩ (.paren ⟨27, 36⟩ (.arrow ⟨⟨28, 35⟩, false⟩ []))).expressionSpans := by
  have nodes : wrappedCall ∈ hookCalls.nodes ∧ spreadCall ∈ hookCalls.nodes := by
    simp only [Module.nodes, hookCalls, List.flatMap_cons, List.flatMap_nil]
    rw [Node.nodes_eq wrappedCall, Node.nodes_eq spreadCall]
    simp
  have spans : hookCalls.expressionSpans = [⟨6, 13⟩, ⟨28, 35⟩, ⟨38, 45⟩] := by
    simp only [Module.expressionSpans, Module.nodes, hookCalls, wrappedCall, spreadCall, Node.calling,
      List.flatMap_cons, List.flatMap_nil]
    repeat
      rw [Node.nodes_eq]
      simp only [Node.places, List.map_cons, List.map_nil, List.flatMap_cons, List.flatMap_nil, List.cons_append,
        List.nil_append]
    rfl
  have distinct : hookCalls.expressionSpans.Nodup := by rw [spans]; decide
  refine ⟨?_, ?_⟩
  · obtain ⟨told, rfl, once, name⟩ := (callback_cursor_told hookCalls distinct _ _ _ _ _ nodes.1).1 _ _ _ rfl rfl
    exact ⟨_, rfl, name ▸ rfl, once⟩
  · have member : ⟨⟨.arrow, ⟨⟨38, 45⟩, false⟩, none⟩, some spreadCall⟩ ∈ toldCursors hookCalls := by
      have told : toldCursors hookCalls = [⟨⟨.arrow, ⟨⟨6, 13⟩, false⟩, none⟩, some wrappedCall⟩,
        ⟨⟨.arrow, ⟨⟨38, 45⟩, false⟩, none⟩, some spreadCall⟩, ⟨⟨.arrow, ⟨⟨28, 35⟩, false⟩, none⟩, none⟩] := rfl
      simp [told]
    have apart := (callback_cursor_told hookCalls distinct _ _ _ _ _ nodes.2).2 (.spread _ _ _) _ member rfl
    exact ⟨_, member, rfl, apart.2 _ rfl⟩

end NameCheck
