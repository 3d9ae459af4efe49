import NameCheck.Analysis
import NameCheck.Proofs.Answers
import NameCheck.Proofs.Findings

/-!
Where violations stand. The offsets of a parsed tree count the bytes before some characters of its text, so none of them
lies inside a character, and what a rule finds in a script has a position (`range?_violation`) unless a byte-order mark
moved it. So the rules answer for every script that was read from a text without a mark (`check?_builtin`).
-/
namespace NameCheck

open Syntax (Node Module Ident FunctionHead byteOffsets pushOffset)
open Text (byteLength takeBytes?)

/-! ## Edges of characters -/

/-- An offset of a text between two of its characters, or at one of its ends. -/
def IsEdge (text : List Char) (offset : Nat) : Prop :=
  ∃ before after, text = before ++ after ∧ offset = byteLength before

theorem byteLength_append (first second : List Char) :
    byteLength (first ++ second) = byteLength first + byteLength second := by
  induction first with
  | nil => simp [byteLength]
  | cons c first ih => simp only [List.cons_append, byteLength, ih, Nat.add_assoc]

theorem byteLength_eq_zero {text : List Char} (none : byteLength text = 0) : text = [] := by
  cases text with
  | nil => rfl
  | cons c rest =>
    have := c.utf8Size_pos
    rw [byteLength] at none
    omega

/-- Of two starts of a text, the longer one goes on from the shorter one. -/
theorem splits_between {before after pre post : List Char} (same : before ++ after = pre ++ post)
    (shorter : byteLength before ≤ byteLength pre) : ∃ between, pre = before ++ between := by
  rcases List.append_eq_append_iff.mp same with ⟨between, is, -⟩ | ⟨more, is, -⟩
  · exact ⟨between, is⟩
  · rw [is, byteLength_append] at shorter
    obtain rfl := byteLength_eq_zero (show byteLength more = 0 by omega)
    exact ⟨[], by rw [is, List.append_nil, List.append_nil]⟩

theorem IsEdge.le {text : List Char} {offset : Nat} (edge : IsEdge text offset) : offset ≤ byteLength text := by
  obtain ⟨before, after, rfl, rfl⟩ := edge
  rw [byteLength_append]
  omega

/-- Whole characters can be taken from a text. -/
theorem takeBytes?_append (before after : List Char) :
    takeBytes? (byteLength before) (before ++ after) = some before := by
  induction before with
  | nil => cases after <;> rfl
  | cons c before ih =>
    obtain ⟨size, is⟩ : ∃ size, c.utf8Size = size + 1 := ⟨c.utf8Size - 1, by have := c.utf8Size_pos; omega⟩
    have total : byteLength (c :: before) = byteLength before + size + 1 := by simp only [byteLength]; omega
    rw [total, List.cons_append, takeBytes?, if_pos (by omega), is,
      show byteLength before + size + 1 - (size + 1) = byteLength before by omega, ih, Option.map_some]

/-- What is taken from a text ends where a character of it ends. -/
theorem takeBytes?_eq_some {offset : Nat} {text before : List Char} (taken : takeBytes? offset text = some before) :
    (∃ after, text = before ++ after) ∧ byteLength before = offset := by
  fun_induction takeBytes? offset text generalizing before with
  | case1 text =>
    obtain rfl := Option.some.inj taken
    exact ⟨⟨text, rfl⟩, rfl⟩
  | case2 => cases taken
  | case3 offset c rest fits ih =>
    obtain ⟨more, takes, rfl⟩ := Option.map_eq_some_iff.mp taken
    obtain ⟨⟨after, rfl⟩, is⟩ := ih takes
    refine ⟨⟨after, rfl⟩, ?_⟩
    rw [byteLength, is]
    omega
  | case4 => cases taken

/-- The position of the end of some whole characters is that after them. -/
theorem position?_append (before after : List Char) :
    Source.position? (before ++ after) (byteLength before) = some (Source.positionAfter before) := by
  have inside : min (byteLength before) (byteLength (before ++ after)) = byteLength before := by
    rw [byteLength_append]
    omega
  rw [Source.position?, inside, takeBytes?_append, Option.map_some]

theorem position?_edge {text : List Char} {offset : Nat} (edge : IsEdge text offset) :
    ∃ position, Source.position? text offset = some position := by
  obtain ⟨before, after, rfl, rfl⟩ := edge
  exact ⟨_, position?_append before after⟩

/-- Counting on from a place of the text gives edges, if the last count is that of the place. -/
theorem pushOffset_edges {text before rest : List Char} {offsets : Array Nat} (splits : text = before ++ rest)
    (last : offsets.back? = some (byteLength before)) (edges : ∀ offset ∈ offsets, IsEdge text offset) :
    ∀ offset ∈ rest.foldl pushOffset offsets, IsEdge text offset := by
  induction rest generalizing before offsets with
  | nil => exact edges
  | cons c rest ih =>
    have next : pushOffset offsets c = offsets.push (byteLength (before ++ [c])) := by
      rw [pushOffset, last, byteLength_append]
      rfl
    have splits' : text = before ++ [c] ++ rest := by simpa using splits
    rw [List.foldl_cons, next]
    refine ih splits' Array.back?_push fun offset member => ?_
    rcases Array.mem_push.mp member with earlier | rfl
    · exact edges offset earlier
    · exact ⟨before ++ [c], rest, splits', rfl⟩

theorem byteOffsets_edge (text : List Char) (place : Nat) : IsEdge text ((byteOffsets text).getD place 0) := by
  have first : IsEdge text 0 := ⟨[], text, rfl, rfl⟩
  have edges := @pushOffset_edges text [] text #[0] rfl rfl (by simpa using first)
  unfold Array.getD
  split
  · exact edges _ (Array.getElem_mem _)
  · exact first

/-- A span of a text whose ends are counted in bytes has positions. -/
theorem range?_byteOffsets (text : List Char) (span : Span) :
    ∃ range, Source.range? text (span.map fun place => (byteOffsets text).getD place 0) = some range := by
  obtain ⟨start, starts⟩ := position?_edge (byteOffsets_edge text span.lo)
  obtain ⟨stop, stops⟩ := position?_edge (byteOffsets_edge text span.hi)
  exact ⟨⟨start, stop⟩, by simp only [Source.range?, Span.map, starts, stops]; rfl⟩

/-! ## Trees with other offsets -/

namespace Syntax.Node

theorem mapAll_eq (f : Nat → Nat) (nodes : List Node) : mapAll f nodes = nodes.map (mapOffsets f) := by
  induction nodes with
  | nil => rfl
  | cons node rest ih => rw [mapAll, ih, List.map_cons]

theorem span_mapOffsets (f : Nat → Nat) (node : Node) : (node.mapOffsets f).span = node.span.map f := by
  cases node <;> rfl

theorem places_mapOffsets (f : Nat → Nat) (node : Node) :
    (node.mapOffsets f).places = node.places.map fun place => (place.1.mapOffsets f, place.2) := by
  cases node with
  | declarator span target init | patternShorthand span key init =>
    cases init <;> simp [mapOffsets, places, mapOption]
  | field span keyParts value types =>
    cases value <;> simp [mapOffsets, places, mapOption, mapAll_eq, Function.comp_def]
  | _ => simp [mapOffsets, places, mapAll_eq, Function.comp_def]

/-- The nodes of a tree with other offsets are nodes with other offsets. -/
theorem mem_nodes_mapOffsets {f : Nat → Nat} {root node : Node} (member : node ∈ (root.mapOffsets f).nodes) :
    ∃ original : Node, node = original.mapOffsets f := by
  induction root using inductionOnParts with
  | step root ih =>
    rw [nodes_eq, List.mem_cons, places_mapOffsets, List.flatMap_map, List.mem_flatMap] at member
    rcases member with rfl | ⟨place, inside, deeper⟩
    · exact ⟨root, rfl⟩
    · exact ih place inside deeper

end Syntax.Node

theorem mem_moduleNodes_mapOffsets {f : Nat → Nat} {module : Module} {node : Node}
    (member : node ∈ (module.mapOffsets f).nodes) : ∃ original : Node, node = original.mapOffsets f := by
  simp only [Module.nodes, Module.mapOffsets, List.flatMap_map, List.mem_flatMap] at member
  obtain ⟨item, -, inside⟩ := member
  exact Node.mem_nodes_mapOffsets inside

/-! ## Violations -/

theorem HookCallback.span_checkNode {node : Node} {violation : Violation} (wrong : checkNode node = some violation) :
    violation.span = node.span := by
  cases node with
  | call span callee arguments types | optCall span callee arguments types =>
    simp only [checkNode, checkCall, Option.ite_none_right_eq_some, Option.some.injEq] at wrong
    rw [← wrong.2]
    rfl
  | _ => simp [checkNode] at wrong

theorem IconName.span_checkNode {node : Node} {violation : Violation} (wrong : checkNode node = some violation) :
    violation.span = node.span := by
  cases node with
  | importDecl span source locals attributes =>
    simp only [checkNode, checkImport, Option.ite_none_right_eq_some] at wrong
    cases locals with
    | nil => simp at wrong
    | cons first others =>
      simp only [Option.ite_none_left_eq_some, Option.some.injEq] at wrong
      rw [← wrong.2.2]
      rfl
  | _ => simp [checkNode] at wrong

theorem AsyncName.span_checkDeclaration {name : Ident} {head : FunctionHead} {violation : Violation}
    (wrong : checkDeclaration name head = some violation) : violation.span = head.span := by
  simp only [checkDeclaration, Option.ite_none_right_eq_some, Option.some.injEq] at wrong
  rw [← wrong.2]

/-- A default export of a function is reported where the function stands, which is not where the export does. -/
theorem AsyncName.span_checkNode {node : Node} {violation : Violation} {f : Nat → Nat}
    (wrong : checkNode (node.mapOffsets f) = some violation) : ∃ span : Span, violation.span = span.map f := by
  cases node with
  | fnDecl head name parts => exact ⟨head.span, span_checkDeclaration wrong⟩
  | exportDefault span kind decl =>
    cases kind with
    | function name head =>
      cases name with
      | none => simp [checkNode, Node.mapOffsets, Syntax.DefaultKind.mapOffsets] at wrong
      | some name => exact ⟨head.span, span_checkDeclaration wrong⟩
    | _ => simp [checkNode, Node.mapOffsets, Syntax.DefaultKind.mapOffsets] at wrong
  | _ => simp [checkNode, Node.mapOffsets] at wrong

theorem ConstantName.span_checkItem {node : Node} {violation : Violation} (wrong : violation ∈ checkItem node) :
    violation.span = node.span := by
  cases node with
  | declaration span kind declarators =>
    cases kind with
    | const =>
      obtain ⟨name, -, rfl⟩ := List.mem_map.mp wrong
      rfl
    | _ => simp [checkItem] at wrong
  | _ => simp [checkItem] at wrong

/-- What a rule finds in a tree with other offsets stands at such offsets. -/
theorem span_violation {rule : ModuleRule} (builtin : rule ∈ builtinRules) {f : Nat → Nat} {module : Module}
    {violation : Violation} (found : violation ∈ rule.violations (module.mapOffsets f)) :
    ∃ span : Span, violation.span = span.map f := by
  simp only [builtinRules, List.mem_cons, List.not_mem_nil, or_false] at builtin
  rcases builtin with rfl | rfl | rfl | rfl
  · simp only [HookCallback.rule, HookCallback.violations_eq, List.mem_filterMap] at found
    obtain ⟨node, member, wrong⟩ := found
    obtain ⟨original, rfl⟩ := mem_moduleNodes_mapOffsets member
    exact ⟨original.span, by rw [HookCallback.span_checkNode wrong, Node.span_mapOffsets]⟩
  · simp only [AsyncName.rule, AsyncName.violations_eq, List.mem_filterMap] at found
    obtain ⟨node, member, wrong⟩ := found
    obtain ⟨original, rfl⟩ := mem_moduleNodes_mapOffsets member
    exact AsyncName.span_checkNode wrong
  · simp only [ConstantName.rule, ConstantName.violations, Module.mapOffsets, List.flatMap_map,
      List.mem_flatMap] at found
    obtain ⟨item, -, wrong⟩ := found
    exact ⟨item.span, by rw [ConstantName.span_checkItem wrong, Node.span_mapOffsets]⟩
  · simp only [IconName.rule, IconName.violations_eq, List.mem_filterMap] at found
    obtain ⟨node, member, wrong⟩ := found
    obtain ⟨original, rfl⟩ := mem_moduleNodes_mapOffsets member
    exact ⟨original.span, by rw [IconName.span_checkNode wrong, Node.span_mapOffsets]⟩

/-- A text that does not start with a byte-order mark is read as a whole. -/
theorem withoutMark_unmarked {text : List Char} (unmarked : text.head? ≠ some (Char.ofNat 0xfeff)) :
    Script.withoutMark text = text := by
  cases text with
  | nil => rfl
  | cons c rest =>
    rw [List.head?_cons, ne_eq, Option.some.injEq] at unmarked
    refine if_neg fun mark => unmarked ?_
    rw [← beq_iff_eq.mp mark, Char.ofNat_toNat]

/-- The ends of what a rule finds in a script that was read are counted in bytes of the text that was read. -/
theorem span_violation_read {filename source : String} {script : Script}
    (read : Script.read? filename source = some script) {module : Module} (has : script.module = some module)
    {rule : ModuleRule} (builtin : rule ∈ builtinRules) {violation : Violation} (found : violation ∈ rule.violations module) :
    ∃ span : Span, violation.span =
      span.map fun place => (byteOffsets (Script.withoutMark source.toList)).getD place 0 := by
  obtain ⟨outcome, parsed, rfl⟩ := Option.map_eq_some_iff.mp read
  obtain ⟨counted, -, rfl⟩ := Option.map_eq_some_iff.mp parsed
  obtain ⟨original, -, rfl⟩ := Option.map_eq_some_iff.mp has
  exact span_violation builtin found

theorem read?_source {filename source : String} {script : Script}
    (read : Script.read? filename source = some script) : script.source = source := by
  obtain ⟨outcome, -, rfl⟩ := Option.map_eq_some_iff.mp read
  rfl

/-- What a rule finds in a script that was read from a text without a byte-order mark has positions. -/
theorem range?_violation {filename source : String} {script : Script}
    (read : Script.read? filename source = some script) (unmarked : Script.withoutMark source.toList = source.toList)
    {module : Module} (has : script.module = some module) {rule : ModuleRule} (builtin : rule ∈ builtinRules)
    {violation : Violation} (found : violation ∈ rule.violations module) :
    ∃ range, script.range? violation.span = some range := by
  obtain ⟨span, is⟩ := span_violation_read read has builtin found
  rw [is, unmarked, Script.range?, read?_source read]
  exact range?_byteOffsets source.toList span

/-! ## Reports -/

/-- A rule gives a diagnostic for each violation in a script that was read from a text without a byte-order mark. -/
theorem check?_builtin {filename source : String} {script : Script} (read : Script.read? filename source = some script)
    (unmarked : source.toList.head? ≠ some (Char.ofNat 0xfeff)) {rule : ModuleRule} (builtin : rule ∈ builtinRules) :
    ∃ found, rule.check? script = some found ∧ ∀ d, d ∈ found ↔
      ∃ module, script.module = some module ∧ ∃ violation ∈ rule.violations module,
        rule.locate? script violation = some d := by
  cases has : script.module with
  | none => exact ⟨[], by simp [ModuleRule.check?, has], by simp⟩
  | some module =>
    have located : ∀ violation ∈ rule.violations module, ∃ d, rule.locate? script violation = some d := by
      intro violation member
      obtain ⟨range, stands⟩ := range?_violation read (withoutMark_unmarked unmarked) has builtin member
      exact ⟨_, by rw [ModuleRule.locate?, stands, Option.map_some]⟩
    obtain ⟨found, all⟩ := mapM_answered located
    exact ⟨found, by simp [ModuleRule.check?, has, all], fun d => by simp [mem_of_mapM all]⟩

/-- Each rule that walks reports, for a script with a module, what is wrong with each node of its kind, wherever the
node stands, once and before what is wrong inside the node. A default export of a function is reported once: the
function that is exported is no declaration of its own. The rules answer for every script that was read from a text
without a byte-order mark. -/
theorem walking_rules_check_all_nodes (script : Script) (module : Module) (has : script.module = some module) :
    HookCallback.rule.check? script =
        (module.nodes.filterMap HookCallback.checkNode).mapM (HookCallback.rule.locate? script) ∧
      AsyncName.rule.check? script = (module.nodes.filterMap AsyncName.checkNode).mapM (AsyncName.rule.locate? script) ∧
      IconName.rule.check? script = (module.nodes.filterMap IconName.checkNode).mapM (IconName.rule.locate? script) ∧
      (∀ span name head own parts,
        AsyncName.violations ⟨[.exportDefault span (.function (some name) head) (.fnExpr head own parts)]⟩ =
          (AsyncName.checkDeclaration name head).toList ++ AsyncName.violations ⟨parts⟩) ∧
      ∀ filename source, Script.read? filename source = some script →
        source.toList.head? ≠ some (Char.ofNat 0xfeff) →
          ∀ rule ∈ [HookCallback.rule, AsyncName.rule, IconName.rule], ∃ found, rule.check? script = some found := by
  refine ⟨?_, ?_, ?_, ?_, ?_⟩
  · simp only [ModuleRule.check?, has, HookCallback.rule, HookCallback.violations_eq]
  · simp only [ModuleRule.check?, has, AsyncName.rule, AsyncName.violations_eq]
  · simp only [ModuleRule.check?, has, IconName.rule, IconName.violations_eq]
  · intro span name head own parts
    rw [AsyncName.violations_eq, AsyncName.violations_eq]
    simp only [Module.nodes, List.flatMap_cons, List.flatMap_nil, List.append_nil]
    rw [Node.nodes_eq]
    simp only [Node.places, List.flatMap_cons, List.flatMap_nil, List.append_nil]
    rw [Node.nodes_eq]
    simp only [Node.places, List.flatMap_map, List.filterMap_cons, AsyncName.checkNode]
    cases AsyncName.checkDeclaration name head <;> rfl
  · intro filename source read unmarked rule walking
    have builtin : rule ∈ builtinRules := by
      simp only [List.mem_cons, List.not_mem_nil, or_false] at walking
      rcases walking with rfl | rfl | rfl <;> simp [builtinRules]
    obtain ⟨found, checked, -⟩ := check?_builtin read unmarked builtin
    exact ⟨found, checked⟩

/-- A call of a hook whose argument is a call of a hook. -/
def nestedHooks : String := "useX(useY())"

theorem nestedHooks_checked :
    ∃ script module found, Script.read? "a.js" nestedHooks = some script ∧ script.module = some module ∧
      HookCallback.rule.check? script = some found ∧
      (module.nodes.filterMap HookCallback.checkNode).mapM (HookCallback.rule.locate? script) = some found ∧
      found.map (fun d => (d.message, d.range)) =
        [("Use named function", ⟨⟨1, 1⟩, ⟨1, 13⟩⟩), ("Use named function", ⟨⟨1, 6⟩, ⟨1, 12⟩⟩)] := by
  have outcome : (Script.read? "a.js" nestedHooks).map (fun script =>
      (script.module.isSome, (HookCallback.rule.check? script).map (·.map fun d => (d.message, d.range)))) =
      some (true, some [("Use named function", ⟨⟨1, 1⟩, ⟨1, 13⟩⟩), ("Use named function", ⟨⟨1, 6⟩, ⟨1, 12⟩⟩)]) := by
    decide +kernel
  obtain ⟨script, read, reports⟩ := Option.map_eq_some_iff.mp outcome
  obtain ⟨parsed, reported⟩ := Prod.mk.inj reports
  obtain ⟨module, has⟩ := Option.isSome_iff_exists.mp parsed
  obtain ⟨found, checked, are⟩ := Option.map_eq_some_iff.mp reported
  have all := (walking_rules_check_all_nodes script module has).1
  exact ⟨script, module, found, read, has, checked, all ▸ checked, are⟩

end NameCheck
