import NameCheck.Proofs.ExitStatus
import NameCheck.Proofs.SpanText
import NameCheck.Proofs.WantedFunctions

/-!
The order of a walk and the order of the text. A walk meets what stands in a module in the order of the text exactly if
each node does so by itself: it starts no later than what stands inside it, and its parts come one after the other
(`marks_pairwise_iff`). The condition of a `do` loop is visited before its body, and the body of a class before the
class it extends, so there are scripts that are walked against their text.
-/
namespace NameCheck

namespace Syntax

variable (mark : Node → Option Nat)

/-- Where the nodes of a tree stand that have a mark, in the order of a walk. -/
def Node.marks (node : Node) : List Nat := node.nodes.filterMap mark

/-- Everything in one node stands no later than anything in the other. -/
def Node.Before (first second : Node) : Prop := ∀ x ∈ first.marks mark, ∀ y ∈ second.marks mark, x ≤ y

/-- A node that is walked in the order of the text, as far as it can tell: it stands no later than what is inside it,
and its parts come one after the other. -/
structure Node.Forward (node : Node) : Prop where
  leads : ∀ own ∈ mark node, ∀ part ∈ node.parts, ∀ x ∈ part.marks mark, own ≤ x
  follow : node.parts.Pairwise (Node.Before mark)

/-- A module whose items, and whose nodes at any depth, are walked in the order of the text. -/
structure Module.Forward (module : Module) : Prop where
  follow : module.items.Pairwise (Node.Before mark)
  inside : ∀ node ∈ module.nodes, node.Forward mark

variable {mark}

theorem Node.marks_eq (node : Node) :
    node.marks mark = (mark node).toList ++ node.parts.flatMap (Node.marks mark) := by
  unfold marks
  rw [nodes_eq, List.filterMap_cons, parts, List.flatMap_map, List.filterMap_flatMap]
  cases mark node <;> rfl

theorem Node.mem_nodes_iff {node inner : Node} :
    inner ∈ node.nodes ↔ inner = node ∨ ∃ part ∈ node.parts, inner ∈ part.nodes := by
  rw [nodes_eq, List.mem_cons, parts, List.mem_flatMap]
  simp

/-- The marks of parts one after the other are in order if those of each part are and the parts are, too. -/
theorem pairwise_flatMap_marks {nodes : List Node} :
    (nodes.flatMap (Node.marks mark)).Pairwise (· ≤ ·) ↔
      (∀ node ∈ nodes, (node.marks mark).Pairwise (· ≤ ·)) ∧ nodes.Pairwise (Node.Before mark) := by
  rw [List.pairwise_flatMap]
  rfl

theorem Node.marks_pairwise_iff (node : Node) :
    (node.marks mark).Pairwise (· ≤ ·) ↔ ∀ inner ∈ node.nodes, inner.Forward mark := by
  induction node using Node.inductionOnParts with
  | step node ih =>
    have inside : ∀ part ∈ node.parts,
        (part.marks mark).Pairwise (· ≤ ·) ↔ ∀ inner ∈ part.nodes, inner.Forward mark := by
      intro part member
      obtain ⟨place, listed, rfl⟩ := List.mem_map.mp member
      exact ih place listed
    -- the own mark comes first, so that it leads is one side condition of the append, that the parts follow the other
    rw [marks_eq, List.pairwise_append, pairwise_flatMap_marks]
    constructor
    · rintro ⟨-, ⟨parts, follow⟩, leads⟩ inner member
      rcases mem_nodes_iff.mp member with rfl | ⟨part, listed, deeper⟩
      · refine ⟨fun own is part listed x standing => leads own ?_ x ?_, follow⟩
        · simpa using is
        · exact List.mem_flatMap.mpr ⟨part, listed, standing⟩
      · exact (inside part listed).mp (parts part listed) inner deeper
    · intro forward
      obtain ⟨leads, follow⟩ := forward node (mem_nodes_iff.mpr (.inl rfl))
      refine ⟨by cases mark node <;> simp, ⟨?_, follow⟩, ?_⟩
      · intro part listed
        refine (inside part listed).mpr fun inner deeper => ?_
        exact forward inner (mem_nodes_iff.mpr (.inr ⟨part, listed, deeper⟩))
      · intro own is x standing
        obtain ⟨part, listed, standing⟩ := List.mem_flatMap.mp standing
        exact leads own (by simpa using is) part listed x standing

/-- What has a mark comes in the order of the text in a walk of a module exactly if every node of it does. -/
theorem Module.marks_pairwise_iff (module : Module) :
    (module.nodes.filterMap mark).Pairwise (· ≤ ·) ↔ module.Forward mark := by
  have flat : module.nodes.filterMap mark = module.items.flatMap (Node.marks mark) := by
    rw [Module.nodes, List.filterMap_flatMap]
    rfl
  rw [flat, pairwise_flatMap_marks]
  constructor
  · rintro ⟨items, follow⟩
    refine ⟨follow, fun node member => ?_⟩
    obtain ⟨item, listed, inside⟩ := List.mem_flatMap.mp member
    exact (item.marks_pairwise_iff).mp (items item listed) node inside
  · rintro ⟨follow, inside⟩
    refine ⟨fun item listed => item.marks_pairwise_iff.mpr fun node member => ?_, follow⟩
    exact inside node (List.mem_flatMap.mpr ⟨item, listed, member⟩)

end Syntax

open Syntax (Node Module byteOffsets)
open Text (byteLength)

/-- Where what an event tells of starts. Functions that are told beside it do not count. -/
def Event.start? : Event → Option Nat
  | .fnDecl head _ => some head.span.lo
  | .call span _ _ _ | .optCall span _ _ _ | .importDecl span _ _ | .exportDefault span _ => some span.lo
  | .function _ => none

/-- Where a node starts that a walk tells of. -/
def Walk.start? (node : Node) : Option Nat := (Walk.event? node).bind Event.start?

/-- The callbacks that a visitor gets, apart from functions, are those of the nodes in order. -/
theorem received_starts {σ : Type} {v : Visitor σ} (tireless : ∀ state event, (v.visit state event).2 = true)
    (module : Module) (start : σ) :
    (v.received module start).filterMap Event.start? = module.nodes.filterMap Walk.start? := by
  have plain : ∀ event : Event, event.plain?.bind Event.start? = event.start? := by
    intro event
    cases event <;> rfl
  calc (v.received module start).filterMap Event.start?
      = ((toldEvents v.wantsFunctions module).filterMap Event.plain?).filterMap Event.start? := by
        rw [received_tireless tireless, List.filterMap_filterMap]
        simp only [plain]
    _ = module.nodes.filterMap Walk.start? := by
        rw [toldEvents_plain, List.filterMap_filterMap]
        rfl

/-! ## Rules -/

/-- The rules that walk, each with what it finds wrong with a node. -/
def walkingRules : List (ModuleRule × (Node → Option Violation)) :=
  [(HookCallback.rule, HookCallback.checkNode), (AsyncName.rule, AsyncName.checkNode),
    (IconName.rule, IconName.checkNode)]

variable {rule : ModuleRule} {check : Node → Option Violation}

theorem violations_walking (walking : (rule, check) ∈ walkingRules) (module : Module) :
    rule.violations module = module.nodes.filterMap check := by
  simp only [walkingRules, List.mem_cons, Prod.mk.injEq, List.not_mem_nil, or_false] at walking
  rcases walking with ⟨rfl, rfl⟩ | ⟨rfl, rfl⟩ | ⟨rfl, rfl⟩
  · exact HookCallback.violations_eq module
  · exact AsyncName.violations_eq module
  · exact IconName.violations_eq module

/-- Where a rule finds a node wrong. -/
def startOf (check : Node → Option Violation) (node : Node) : Option Nat := (check node).map (·.span.lo)

theorem starts_violations (walking : (rule, check) ∈ walkingRules) (module : Module) :
    (rule.violations module).map (·.span.lo) = module.nodes.filterMap (startOf check) := by
  rw [violations_walking walking, List.map_filterMap]
  rfl

theorem Source.Position.before_asymm {first second : Source.Position} (before : first.Before second) :
    ¬ second.Before first := by
  unfold Before at *
  omega

/-- Of two offsets in a source that have a position, the one that is not greater has the one that is not later. -/
theorem position?_le_iff {source : List Char} {first second : Nat} (inside : first ≤ byteLength source)
    {p q : Source.Position} (here : Source.position? source first = some p)
    (there : Source.position? source second = some q) : ¬ q.Before p ↔ first ≤ second := by
  obtain ⟨before, taken, rfl⟩ := Option.map_eq_some_iff.mp here
  obtain ⟨more, takes, rfl⟩ := Option.map_eq_some_iff.mp there
  obtain ⟨⟨after, is⟩, size⟩ := takeBytes?_eq_some taken
  obtain ⟨⟨rest, again⟩, sizes⟩ := takeBytes?_eq_some takes
  -- what stands before the smaller offset begins what stands before the greater one
  rcases Nat.lt_or_ge second first with less | le
  · obtain ⟨between, rfl⟩ := splits_between (again.symm.trans is) (by omega)
    have some_between : between ≠ [] := by
      rintro rfl
      rw [List.append_nil] at size
      omega
    exact iff_of_false (not_not_intro (Source.positionAfter_before some_between more)) (by omega)
  · refine iff_of_true ?_ le
    obtain ⟨between, rfl⟩ := splits_between (is.symm.trans again) (by omega)
    by_cases empty : between = []
    · rw [empty, List.append_nil]
      exact fun early => Source.Position.before_asymm early early
    · exact Source.Position.before_asymm (Source.positionAfter_before empty before)

theorem locate?_start {script : Script} {violation : Violation} {d : Diagnostic}
    (located : rule.locate? script violation = some d) :
    Source.position? script.source.toList violation.span.lo = some d.range.start := by
  obtain ⟨range, stands, rfl⟩ := Option.map_eq_some_iff.mp located
  obtain ⟨start, starts, stands⟩ := Option.bind_eq_some_iff.mp stands
  obtain ⟨stop, -, stands⟩ := Option.bind_eq_some_iff.mp stands
  obtain rfl : ⟨start, stop⟩ = range := Option.some.inj stands
  exact starts

/-- No diagnostic starts before one that is listed earlier. -/
def InOrder (diagnostics : List Diagnostic) : Prop :=
  diagnostics.Pairwise fun first second => ¬ second.range.start.Before first.range.start

/-- Diagnostics are in order exactly if the violations are that they locate. -/
theorem inOrder_iff {script : Script} {violations : List Violation} {found : List Diagnostic}
    (located : violations.mapM (rule.locate? script) = some found)
    (inside : ∀ violation ∈ violations, violation.span.lo ≤ byteLength script.source.toList) :
    InOrder found ↔ (violations.map (·.span.lo)).Pairwise (· ≤ ·) := by
  induction violations generalizing found with
  | nil =>
    obtain rfl : found = [] := by simpa using located.symm
    simp [InOrder]
  | cons violation rest ih =>
    rw [List.mapM_cons] at located
    obtain ⟨d, first, located⟩ := Option.bind_eq_some_iff.mp located
    obtain ⟨others, tail, located⟩ := Option.bind_eq_some_iff.mp located
    obtain rfl : d :: others = found := Option.some.inj located
    have here := locate?_start first
    have standing := inside violation List.mem_cons_self
    have heads : (∀ other ∈ others, ¬ other.range.start.Before d.range.start) ↔
        ∀ later ∈ rest, violation.span.lo ≤ later.span.lo := by
      constructor
      · intro ordered later member
        obtain ⟨other, is⟩ : ∃ other, rule.locate? script later = some other := by
          refine Option.ne_none_iff_exists'.mp fun lost => ?_
          simp [mapM_eq_none_iff.mpr ⟨later, member, lost⟩] at tail
        exact (position?_le_iff standing here (locate?_start is)).mp (ordered other ((mem_of_mapM tail other).mpr
          ⟨later, member, is⟩))
      · intro ordered other member
        obtain ⟨later, listed, is⟩ := (mem_of_mapM tail other).mp member
        exact (position?_le_iff standing here (locate?_start is)).mpr (ordered later listed)
    rw [InOrder, List.pairwise_cons, heads, List.map_cons, List.pairwise_cons, List.forall_mem_map]
    exact and_congr_right' (ih tail fun later member => inside later (List.mem_cons_of_mem _ member))

theorem byteLength_withoutMark (text : List Char) : byteLength (Script.withoutMark text) ≤ byteLength text := by
  cases text with
  | nil => exact Nat.le_refl _
  | cons c rest =>
    rw [Script.withoutMark]
    split
    · exact Nat.le_add_left _ _
    · exact Nat.le_refl _

/-- What a walking rule finds in a script that was read starts in its source. -/
theorem start_violation_le {filename source : String} {script : Script}
    (read : Script.read? filename source = some script) {module : Module} (has : script.module = some module)
    (walking : (rule, check) ∈ walkingRules) {violation : Violation} (found : violation ∈ rule.violations module) :
    violation.span.lo ≤ byteLength script.source.toList := by
  have builtin : rule ∈ builtinRules := by
    simp only [walkingRules, List.mem_cons, Prod.mk.injEq, List.not_mem_nil, or_false] at walking
    rcases walking with ⟨rfl, -⟩ | ⟨rfl, -⟩ | ⟨rfl, -⟩ <;> simp [builtinRules]
  obtain ⟨span, is⟩ := span_violation_read read has builtin found
  obtain ⟨before, after, splits, size⟩ := byteOffsets_edge (Script.withoutMark source.toList) span.lo
  rw [is, read?_source read]
  calc (byteOffsets (Script.withoutMark source.toList)).getD span.lo 0
      = byteLength before := size
    _ ≤ byteLength (Script.withoutMark source.toList) := by
        rw [splits, byteLength_append]
        exact Nat.le_add_right _ _
    _ ≤ byteLength source.toList := byteLength_withoutMark _

/-- A rule whose violations stand where the walk tells of their nodes finds them in order if the walk is in order. -/
theorem forward_of_told {module : Module} (forward : module.Forward Walk.start?)
    (told : ∀ node start, startOf check node = some start → Walk.start? node = some start) :
    module.Forward (startOf check) := by
  rw [← Module.marks_pairwise_iff] at forward ⊢
  refine forward.sublist ?_
  induction module.nodes with
  | nil => exact List.Sublist.slnil
  | cons node rest ih =>
    cases is : startOf check node with
    | none =>
      rw [List.filterMap_cons_none is]
      exact ih.trans ((List.sublist_cons_self node rest).filterMap _)
    | some start =>
      rw [List.filterMap_cons_some is, List.filterMap_cons_some (told node start is)]
      exact ih.cons_cons start

theorem HookCallback.told_start (node : Node) (start : Nat) (is : startOf checkNode node = some start) :
    Walk.start? node = some start := by
  obtain ⟨violation, wrong, rfl⟩ := Option.map_eq_some_iff.mp is
  rw [span_checkNode wrong]
  cases node with
  | call span callee arguments types | optCall span callee arguments types => rfl
  | _ => exact nomatch wrong

theorem IconName.told_start (node : Node) (start : Nat) (is : startOf checkNode node = some start) :
    Walk.start? node = some start := by
  obtain ⟨violation, wrong, rfl⟩ := Option.map_eq_some_iff.mp is
  rw [span_checkNode wrong]
  cases node with
  | importDecl span source locals attributes => rfl
  | _ => exact nomatch wrong

/-- Whether a script is walked in the order of its text is for each node to say: the callbacks of a visitor that goes on
to the end come in this order exactly if every node starts no later than the nodes inside it that have callbacks and
keeps these in order, and the diagnostics of a rule exactly if every node does so with what the rule finds wrong. Hook
calls and icon imports are reported in order if they are walked in order. -/
theorem walk_follows_text_iff {filename source : String} {script : Script}
    (read : Script.read? filename source = some script) {module : Module} (has : script.module = some module) :
    (∀ (σ : Type) (v : Visitor σ) (start : σ), (∀ state event, (v.visit state event).2 = true) →
        (((v.received module start).filterMap Event.start?).Pairwise (· ≤ ·) ↔ module.Forward Walk.start?)) ∧
      (∀ rule check, (rule, check) ∈ walkingRules → ∀ found, rule.check? script = some found →
        (InOrder found ↔ module.Forward (startOf check))) ∧
      (module.Forward Walk.start? →
        module.Forward (startOf HookCallback.checkNode) ∧ module.Forward (startOf IconName.checkNode)) := by
  refine ⟨fun σ v start tireless => ?_, fun rule check walking found checked => ?_, fun forward => ?_⟩
  · rw [received_starts tireless, Module.marks_pairwise_iff]
  · rw [ModuleRule.check?, has] at checked
    rw [inOrder_iff checked fun violation member => start_violation_le read has walking member,
      starts_violations walking, Module.marks_pairwise_iff]
  · exact ⟨forward_of_told forward HookCallback.told_start, forward_of_told forward IconName.told_start⟩

/-- A hook that is called with the result of another one is reported before it. -/
theorem nestedCall_inOrder : ∃ script module found,
    Script.read? "a.js" "useX(useY())" = some script ∧ script.module = some module ∧
      (eventCounter.received module 0).filterMap Event.start? = [0, 5] ∧ module.Forward Walk.start? ∧
      HookCallback.rule.check? script = some found ∧ found.length = 2 ∧ InOrder found := by
  have outcome : ((Script.read? "a.js" "useX(useY())").bind fun script => script.module.bind fun module =>
      (HookCallback.rule.check? script).map fun found =>
        ((eventCounter.received module 0).filterMap Event.start?, found.length)) = some ([0, 5], 2) := by
    decide +kernel
  obtain ⟨script, read, outcome⟩ := Option.bind_eq_some_iff.mp outcome
  obtain ⟨module, has, outcome⟩ := Option.bind_eq_some_iff.mp outcome
  obtain ⟨found, checked, outcome⟩ := Option.map_eq_some_iff.mp outcome
  obtain ⟨starts, count⟩ := Prod.mk.inj outcome
  obtain ⟨walks, reports, told⟩ := walk_follows_text_iff read has
  have forward : module.Forward Walk.start? := by
    rw [← walks Nat eventCounter 0 fun _ _ => rfl, starts]
    decide
  exact ⟨script, module, found, read, has, starts, forward, checked, count,
    (reports HookCallback.rule HookCallback.checkNode (by simp [walkingRules]) found checked).mpr (told forward).1⟩

/-- Where the callbacks of a script start and in which columns it has diagnostics of hook calls. -/
def callbackOrder? (source : String) : Option (List Nat × List Nat) := do
  let script ← Script.read? "a.js" source
  let module ← script.module
  let found ← HookCallback.rule.check? script
  return ((eventCounter.received module 0).filterMap Event.start?, found.map (·.range.start.column))

/-- The condition of a `do` loop is visited before its body, and the members of a class before what it extends. -/
theorem doLoop_walked_backwards :
    callbackOrder? "do \x7b useX() \x7d while (useY())" = some ([21, 5], [22, 6]) ∧
      callbackOrder? "class A extends useB() \x7b m() \x7b useC() \x7d \x7d" = some ([31, 16], [32, 17]) := by
  decide +kernel

end NameCheck
