import NameCheck.Proofs.Findings

/-!
Which calls are reported for their callbacks, read off the syntax tree. `CallsHook` says which callees are hooks and
`NamedFirst` which arguments start with a function that carries a name; a call is reported just if it calls a hook and
its arguments do not start so (`checkEvent_calling`). Neither depends on optional links or on what stands around the
call.
-/
namespace NameCheck

open Syntax (Node Module Ident FunctionHead)

/-! ## Parentheses -/

/-- A node that is another one inside any number of parentheses. -/
inductive Syntax.Node.Wraps : Node → Node → Prop where
  | bare (node : Node) : Wraps node node
  | paren (span : Span) {inner core : Node} (wraps : Wraps inner core) : Wraps (.paren span inner) core

theorem wraps_stripParens (node : Node) : node.Wraps node.stripParens := by
  induction node using Node.inductionOnParts with
  | step node ih =>
    cases node with
    | paren span inner => exact .paren span (ih (inner, .grouped) (by simp [Node.places]))
    | _ => exact .bare _

/-- What is left without parentheses is what stands inside all of them. -/
theorem stripParens_eq_iff {node core : Node} (bare : core.stripParens = core) :
    node.stripParens = core ↔ node.Wraps core := by
  constructor
  · rintro rfl
    exact wraps_stripParens node
  · intro wraps
    induction wraps with
    | bare _ => exact bare
    | paren span _ ih => exact ih bare

/-! ## Names of hooks -/

/-- The name of a hook: `use`, a capital or a digit, and then anything but line feeds. -/
def IsHookWord (name : String) : Prop :=
  ∃ c rest, name.toList = "use".toList ++ c :: rest ∧ ('A' ≤ c ∧ c ≤ 'Z' ∨ '0' ≤ c ∧ c ≤ '9') ∧ '\n' ∉ rest

/-- A name that starts with a capital. -/
def StartsCapital (name : String) : Prop := ∃ c rest, name.toList = c :: rest ∧ 'A' ≤ c ∧ c ≤ 'Z'

theorem isCapital_iff (c : Char) : isCapital c = true ↔ 'A' ≤ c ∧ c ≤ 'Z' := by
  simp [isCapital]

theorem isDigit_iff (c : Char) : c.isDigit = true ↔ '0' ≤ c ∧ c ≤ '9' := by
  simp [Char.isDigit, Char.le_def]

theorem isHookName_iff (name : String) : isHookName name = true ↔ IsHookWord name := by
  unfold isHookName IsHookWord
  constructor
  · intro hook
    split at hook
    · rename_i c rest is
      simp only [Bool.and_eq_true, Bool.or_eq_true, isCapital_iff, isDigit_iff, Bool.not_eq_true',
        List.contains_eq_mem, decide_eq_false_iff_not] at hook
      exact ⟨c, rest, is, hook.1, hook.2⟩
    · cases hook
  · rintro ⟨c, rest, is, first, plain⟩
    rw [is]
    simp only [Bool.and_eq_true, Bool.or_eq_true, isCapital_iff, isDigit_iff, Bool.not_eq_true', List.contains_eq_mem,
      decide_eq_false_iff_not, String.reduceToList, List.cons_append, List.nil_append]
    exact ⟨first, plain⟩

/-! ## Callees -/

/-- A callee that is a hook: inside any parentheses it is the name of a hook, or such a member, optional or not and not
computed, of a name that starts with a capital. -/
inductive CallsHook (callee : Node) : Prop where
  | name {id : Ident} (is : callee.Wraps (.ident id)) (hook : IsHookWord id.name)
  | member {span : Span} {chained : Bool} {object : Node} {name owner : Ident}
    (is : callee.Wraps (.member span chained object name)) (hook : IsHookWord name.name)
    (of : object.Wraps (.ident owner)) (capital : StartsCapital owner.name)

theorem isNamespace_iff (node : Node) :
    isNamespace node = true ↔ ∃ owner, node.Wraps (.ident owner) ∧ StartsCapital owner.name := by
  unfold isNamespace StartsCapital
  constructor
  · intro namespace_
    split at namespace_
    · rename_i owner is
      refine ⟨owner, (stripParens_eq_iff rfl).mp is, ?_⟩
      split at namespace_
      · rename_i c rest starts
        exact ⟨c, rest, starts, (isCapital_iff c).mp namespace_⟩
      · cases namespace_
    · cases namespace_
  · rintro ⟨owner, wraps, c, rest, starts, capital⟩
    simp only [(stripParens_eq_iff rfl).mpr wraps, starts]
    exact (isCapital_iff c).mpr capital

theorem isHook_iff (callee : Node) : isHook callee = true ↔ CallsHook callee := by
  unfold isHook
  constructor
  · intro hook
    split at hook
    · rename_i id is
      exact .name ((stripParens_eq_iff rfl).mp is) ((isHookName_iff _).mp hook)
    · rename_i span chained object name is
      obtain ⟨named, owned⟩ := (Bool.and_eq_true _ _).mp hook
      obtain ⟨owner, of, capital⟩ := (isNamespace_iff object).mp owned
      exact .member ((stripParens_eq_iff rfl).mp is) ((isHookName_iff _).mp named) of capital
    · cases hook
  · rintro (⟨is, hook⟩ | ⟨is, hook, of, capital⟩)
    · simp only [(stripParens_eq_iff rfl).mpr is]
      exact (isHookName_iff _).mpr hook
    · simp only [(stripParens_eq_iff rfl).mpr is, Bool.and_eq_true]
      exact ⟨(isHookName_iff _).mpr hook, (isNamespace_iff _).mpr ⟨_, of, capital⟩⟩

/-! ## Calls -/

/-- A call, optional or not. -/
def Syntax.Node.calling (optional : Bool) (span : Span) (callee : Node) (arguments types : List Node) : Node :=
  match optional with
  | true => .optCall span callee arguments types
  | false => .call span callee arguments types

/-- What a visitor is told of a call, optional or not. -/
def Event.calling (optional : Bool) (span : Span) (callee : Node) (arguments types : List Node) : Event :=
  match optional with
  | true => .optCall span callee arguments types
  | false => .call span callee arguments types

theorem event?_calling (optional : Bool) (span : Span) (callee : Node) (arguments types : List Node) :
    Walk.event? (.calling optional span callee arguments types) =
      some (.calling optional span callee arguments types) := by
  cases optional <;> rfl

/-- Two expressions that differ in optional links only, and in where their parts stand. An optional link makes all links
behind it in its chain optional, too, so the two may differ in several links and in whether calls are optional. -/
inductive Syntax.Node.Relinked : Node → Node → Prop where
  | same (node : Node) : Relinked node node
  | ident {id other : Ident} (name : id.name = other.name) : Relinked (.ident id) (.ident other)
  | paren (span place : Span) {inner other : Node} (inside : Relinked inner other) :
    Relinked (.paren span inner) (.paren place other)
  | member (span place : Span) (chained linked : Bool) {object other : Node} {name again : Ident}
    (inside : Relinked object other) (same : name.name = again.name) :
    Relinked (.member span chained object name) (.member place linked other again)
  | index (span place : Span) (chained linked : Bool) {object other : Node} (parts : List Node)
    (inside : Relinked object other) :
    Relinked (.group (.index chained) span (object :: parts)) (.group (.index linked) place (other :: parts))
  | hidden (span place : Span) (chained linked : Bool) {object other : Node} (parts : List Node)
    (inside : Relinked object other) :
    Relinked (.group (.privateMember chained) span (object :: parts))
      (.group (.privateMember linked) place (other :: parts))
  | call (span place : Span) (optional linked : Bool) {callee other : Node} (arguments types : List Node)
    (inside : Relinked callee other) :
    Relinked (.calling optional span callee arguments types) (.calling linked place other arguments types)

theorem isNamespace_calling (optional : Bool) (span : Span) (callee : Node) (arguments types : List Node) :
    isNamespace (.calling optional span callee arguments types) = false := by
  cases optional <;> rfl

theorem isHook_calling (optional : Bool) (span : Span) (callee : Node) (arguments types : List Node) :
    isHook (.calling optional span callee arguments types) = false := by
  cases optional <;> rfl

theorem isNamespace_relinked {node other : Node} (relinked : node.Relinked other) :
    isNamespace node = isNamespace other := by
  induction relinked with
  | same node => rfl
  | ident name => simp only [isNamespace, Node.stripParens, name]
  | paren span place inside ih => exact ih
  | member | index | hidden => rfl
  | call => rw [isNamespace_calling, isNamespace_calling]

/-- Optional links do not matter to what is a hook. -/
theorem isHook_relinked {callee other : Node} (relinked : callee.Relinked other) : isHook callee = isHook other := by
  induction relinked with
  | same node => rfl
  | ident name => simp only [isHook, Node.stripParens, name]
  | paren span place inside ih => exact ih
  | member span place chained linked inside same ih =>
    simp only [isHook, Node.stripParens, same, isNamespace_relinked inside]
  | index | hidden => rfl
  | call => rw [isHook_calling, isHook_calling]

/-! ## Callbacks -/

/-- Arguments of which the first is not spread and is, inside any parentheses, a function expression that carries a
name. -/
def NamedFirst (arguments : List Node) : Prop :=
  ∃ argument rest head id parts, arguments = argument :: rest ∧ (∀ span inner, argument ≠ .spread span inner) ∧
    argument.Wraps (.fnExpr head (some id) parts)

/-- Arguments of which the first is, inside any parentheses, a function without a name of its own. -/
inductive AnonymousFirst : List Node → Prop where
  | function {argument : Node} {head : FunctionHead} {parts : List Node}
    (is : argument.Wraps (.fnExpr head none parts)) (rest : List Node) : AnonymousFirst (argument :: rest)
  | arrow {argument : Node} {head : FunctionHead} {parts : List Node} (is : argument.Wraps (.arrow head parts))
    (rest : List Node) : AnonymousFirst (argument :: rest)

theorem AnonymousFirst.unnamed {arguments : List Node} (anonymous : AnonymousFirst arguments) :
    ¬ NamedFirst arguments := by
  rintro ⟨argument, rest, head, id, parts, same, -, named⟩
  have stripped := (stripParens_eq_iff rfl).mpr named
  cases anonymous with
  | function is _ | arrow is _ =>
    obtain ⟨rfl, rfl⟩ := List.cons.inj same
    rw [(stripParens_eq_iff rfl).mpr is] at stripped
    cases stripped

/-- A call names no function, so that its arguments have only the names that they carry. -/
theorem name?_calling (f : Function) (optional : Bool) (span : Span) (callee : Node) (arguments types : List Node) :
    Cursor.name? ⟨f, some (.calling optional span callee arguments types)⟩ = f.ownName.map .ident := by
  unfold Cursor.name?
  cases f.ownName <;> cases optional <;> rfl

theorem ofExpr?_carries {argument : Node} {id : Ident} :
    (∃ f, Function.ofExpr? argument = some f ∧ f.ownName = some id) ↔
      ∃ head parts, argument.Wraps (.fnExpr head (some id) parts) := by
  unfold Function.ofExpr?
  constructor
  · rintro ⟨f, is, named⟩
    split at is
    · rename_i head name parts stripped
      obtain rfl := Option.some.inj is
      obtain rfl : name = some id := named
      exact ⟨head, parts, (stripParens_eq_iff rfl).mp stripped⟩
    · obtain rfl := Option.some.inj is
      cases named
    · cases is
  · rintro ⟨head, parts, wraps⟩
    simp only [(stripParens_eq_iff rfl).mpr wraps]
    exact ⟨_, rfl, rfl⟩

theorem spread_not_wraps {argument : Node} {head : FunctionHead} {name : Option Ident} {parts : List Node}
    (wraps : argument.Wraps (.fnExpr head name parts)) (span : Span) (inner : Node) :
    argument ≠ .spread span inner := by
  rintro rfl
  cases wraps

namespace HookCallback

/-- The first argument has a name just if it is a function that carries one. -/
theorem firstArgumentName?_isSome (optional : Bool) (span : Span) (callee : Node) (arguments types : List Node) :
    (firstArgumentName? (.calling optional span callee arguments types) arguments).isSome = true ↔
      NamedFirst arguments := by
  cases arguments with
  | nil =>
    constructor
    · intro named
      simp [firstArgumentName?] at named
    · rintro ⟨argument, rest, head, id, parts, same, -⟩
      cases same
  | cons argument rest =>
    have carries := @ofExpr?_carries argument
    rw [firstArgumentName?_cons, Option.isSome_iff_exists]
    simp only [Option.bind_eq_some_iff, name?_calling, Option.map_eq_some_iff]
    constructor
    · rintro ⟨-, f, is, id, named, rfl⟩
      obtain ⟨head, parts, wraps⟩ := carries.mp ⟨f, is, named⟩
      exact ⟨argument, rest, head, id, parts, rfl, spread_not_wraps wraps, wraps⟩
    · rintro ⟨first, others, head, id, parts, same, -, wraps⟩
      obtain ⟨rfl, rfl⟩ := List.cons.inj same
      obtain ⟨f, is, named⟩ := carries.mpr ⟨head, parts, wraps⟩
      exact ⟨.ident id, f, is, id, named, rfl⟩

/-- What is reported of a call that calls a hook without a named callback. -/
def unnamedCallback (span : Span) : Violation :=
  ⟨span, "Use named function", some "Pass a named function expression, e.g. function handleEffect() \x7b\x7d"⟩

/-- A call is reported just if it calls a hook and its arguments do not start with a named function. -/
theorem checkEvent_calling (optional : Bool) (span : Span) (callee : Node) (arguments types : List Node)
    (violation : Violation) :
    checkEvent (.calling optional span callee arguments types) = some violation ↔
      CallsHook callee ∧ ¬ NamedFirst arguments ∧ violation = unnamedCallback span := by
  have checked : checkEvent (.calling optional span callee arguments types) =
      checkCall (.calling optional span callee arguments types) span callee arguments := by
    cases optional <;> rfl
  rw [checked, checkCall, Option.ite_none_right_eq_some, Bool.and_eq_true, isHook_iff, Option.isNone_iff_eq_none,
    ← Option.not_isSome_iff_eq_none, firstArgumentName?_isSome, Option.some.injEq, and_assoc]
  exact and_congr_right fun _ => and_congr_right fun _ => eq_comm

/-- The violations in a module are those of its calls, whatever stands around them. -/
theorem mem_violations_calling {module : Module} {optional : Bool} {span : Span} {callee : Node}
    {arguments types : List Node} (inside : Node.calling optional span callee arguments types ∈ module.nodes)
    {violation : Violation} (wrong : checkEvent (.calling optional span callee arguments types) = some violation) :
    violation ∈ violations module := by
  rw [violations, collectEvents_nodes false fun _ => rfl, List.mem_filterMap]
  exact ⟨_, inside, by rw [event?_calling, Option.bind_some, wrong]⟩

end HookCallback

open HookCallback (checkEvent unnamedCallback)

/-- A call, optional or not, is reported, where it stands itself, just if its callee is a hook, which `super` and
`import` are not, and its arguments do not start with a function that carries a name. So it does not matter whether the
call is optional, nor which links of its callee are. A callback without a name of its own is reported wherever the call
stands in a module: nothing around the call can name it. -/
theorem hook_calls_reported_iff (optional : Bool) (span : Span) (callee : Node) (arguments types : List Node) :
    ((∃ violation, checkEvent (.calling optional span callee arguments types) = some violation) ↔
        (∀ place parts, callee ≠ .group .superRef place parts ∧ callee ≠ .group .importRef place parts) ∧
          CallsHook callee ∧ ¬ NamedFirst arguments) ∧
      (∀ violation, checkEvent (.calling optional span callee arguments types) = some violation →
        violation.span = span ∧ violation.message = "Use named function") ∧
      checkEvent (.calling true span callee arguments types) = checkEvent (.calling false span callee arguments types) ∧
      (∀ other linked, callee.Relinked other →
        checkEvent (.calling linked span other arguments types) =
          checkEvent (.calling optional span callee arguments types)) ∧
      ∀ module : Module, Node.calling optional span callee arguments types ∈ module.nodes → CallsHook callee →
        AnonymousFirst arguments → ∃ violation ∈ HookCallback.violations module, violation.span = span := by
  have hook : ∀ place parts, CallsHook callee → callee ≠ .group .superRef place parts ∧
      callee ≠ .group .importRef place parts := by
    intro place parts calls
    rw [← isHook_iff] at calls
    refine ⟨?_, ?_⟩ <;> rintro rfl <;> cases calls
  have linksAside : ∀ {other : Node} (first second : Bool), (CallsHook callee ↔ CallsHook other) →
      checkEvent (.calling first span other arguments types) =
        checkEvent (.calling second span callee arguments types) := by
    intro other first second same
    refine Option.ext fun violation => ?_
    rw [HookCallback.checkEvent_calling, HookCallback.checkEvent_calling, same]
  refine ⟨?_, ?_, linksAside true false Iff.rfl, ?_, ?_⟩
  · simp only [HookCallback.checkEvent_calling]
    constructor
    · rintro ⟨violation, calls, unnamed, -⟩
      exact ⟨fun place parts => hook place parts calls, calls, unnamed⟩
    · rintro ⟨-, calls, unnamed⟩
      exact ⟨_, calls, unnamed, rfl⟩
  · intro violation wrong
    obtain ⟨-, -, rfl⟩ := (HookCallback.checkEvent_calling ..).mp wrong
    exact ⟨rfl, rfl⟩
  · intro other linked relinked
    refine linksAside linked optional ?_
    rw [← isHook_iff, ← isHook_iff, isHook_relinked relinked]
  · intro module inside calls anonymous
    have wrong := (HookCallback.checkEvent_calling optional span callee arguments types _).mpr
      ⟨calls, anonymous.unnamed, rfl⟩
    exact ⟨_, HookCallback.mem_violations_calling inside wrong, rfl⟩

/-- `React?.useMemo`. -/
def chainedMemo : Node := .member ⟨13, 27⟩ true (.ident ⟨⟨13, 18⟩, "React"⟩) ⟨⟨20, 27⟩, "useMemo"⟩

/-- `React.useMemo`. -/
def plainMemo : Node := .member ⟨13, 26⟩ false (.ident ⟨⟨13, 18⟩, "React"⟩) ⟨⟨19, 26⟩, "useMemo"⟩

/-- `(() => 0)`, without the literal. -/
def wrappedArrow : Node := .paren ⟨28, 37⟩ (.arrow ⟨⟨29, 36⟩, false⟩ [])

/-- `const useX = React?.useMemo((() => 0))`, without the literal. -/
def boundMemo : Module :=
  ⟨[.declaration ⟨0, 38⟩ .const [.declarator ⟨6, 38⟩ (.ident ⟨⟨6, 10⟩, "useX"⟩)
    (some (.calling true ⟨13, 38⟩ chainedMemo [wrappedArrow] []))]]⟩

theorem boundMemo_reported :
    (∃ violation ∈ HookCallback.violations boundMemo, violation.span = ⟨13, 38⟩) ∧
      ∃ violation, violation.span = ⟨13, 38⟩ ∧
        checkEvent (.calling true ⟨13, 38⟩ chainedMemo [wrappedArrow] []) = some violation ∧
        checkEvent (.calling false ⟨13, 38⟩ plainMemo [wrappedArrow] []) = some violation := by
  obtain ⟨reported, place, -, links, around⟩ := hook_calls_reported_iff true ⟨13, 38⟩ chainedMemo [wrappedArrow] []
  have calls : CallsHook chainedMemo :=
    .member (.bare _) ⟨'M', "emo".toList, by decide, by decide, by decide⟩ (.bare _)
      ⟨'R', "eact".toList, by decide, by decide⟩
  have anonymous : AnonymousFirst [wrappedArrow] := .arrow (.paren _ (.bare _)) []
  have inside : Node.calling true ⟨13, 38⟩ chainedMemo [wrappedArrow] [] ∈ boundMemo.nodes := by
    simp only [Module.nodes, boundMemo, List.flatMap_cons, List.flatMap_nil, List.append_nil]
    repeat
      rw [Node.nodes_eq]
      simp only [Node.places, List.map_cons, List.map_nil, List.flatMap_cons, List.flatMap_nil, List.append_nil,
        List.cons_append, List.nil_append, Option.toList_some]
    simp
  obtain ⟨violation, wrong⟩ := reported.mpr ⟨by simp [chainedMemo], calls, anonymous.unnamed⟩
  refine ⟨around boundMemo inside calls anonymous, violation, (place violation wrong).1, wrong, ?_⟩
  have relinked : chainedMemo.Relinked plainMemo := .member _ _ _ _ (.same _) rfl
  exact (links plainMemo false relinked).trans wrong

end NameCheck
