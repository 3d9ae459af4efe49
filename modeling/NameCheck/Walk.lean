import NameCheck.Function

/-!
Walks over a module. A visitor is told of declarations, calls, imports and default exports as they are met
and, if it wants them, of all functions; it may stop the walk at any time. A function that its surroundings
may name is told as soon as they are met, and is then not told again when it is reached.
-/
namespace NameCheck

open Syntax (Node Ident FunctionHead Module)

/-- What a walk meets. -/
inductive Event where
  | fnDecl (head : FunctionHead) (name : Ident)
  | call (span : Span) (callee : Node) (arguments types : List Node)
  | optCall (span : Span) (callee : Node) (arguments types : List Node)
  | importDecl (span : Span) (source : String) (locals : List Ident)
  | exportDefault (span : Span) (kind : Syntax.DefaultKind)
  | function (cursor : Cursor)
deriving Inhabited

/-- What is done at every event, and whether to go on after it. -/
structure Visitor (σ : Type) where
  wantsFunctions : Bool
  visit : σ → Event → σ × Bool

/-- A walk under way: the visitor's state, the spans of functions already told and whether it was stopped. -/
structure Walk (σ : Type) where
  state : σ
  claimed : List Span
  stopped : Bool

namespace Walk

variable {σ : Type}

/-- Tells the visitor of an event, unless the walk was stopped. -/
def tell (v : Visitor σ) (event : Event) (w : Walk σ) : Walk σ :=
  if w.stopped then w
  else
    let (state, more) := v.visit w.state event
    { w with state, stopped := !more }

/-- Tells the visitor of a function, if it wants functions. -/
def deliver (v : Visitor σ) (cursor : Cursor) (w : Walk σ) : Walk σ :=
  if v.wantsFunctions then w.tell v (.function cursor) else w

/-- Tells the visitor of the function that an expression is, with the node that holds it, and remembers that
it was told. -/
def deliverChild (v : Visitor σ) (parent : Node) (node : Node) (w : Walk σ) : Walk σ :=
  if v.wantsFunctions then
    match Function.ofExpr? node with
    | some f => ({ w with claimed := w.claimed.insert f.span } : Walk σ).deliver v ⟨f, some parent⟩
    | none => w
  else w

/-- Tells the visitor of a function that is reached, unless it was told before. -/
def deliverUnclaimed (v : Visitor σ) (f : Function) (w : Walk σ) : Walk σ :=
  if v.wantsFunctions then
    if w.claimed.contains f.span then { w with claimed := w.claimed.erase f.span } else w.deliver v ⟨f, none⟩
  else w

/-- Whether an argument is spread. -/
def isSpread : Node → Bool
  | .spread _ _ => true
  | _ => false

/-- Tells the visitor of the functions among the arguments of a call. -/
def deliverArguments (v : Visitor σ) (call : Node) (arguments : List Node) (w : Walk σ) : Walk σ :=
  (arguments.filter (!isSpread ·)).foldl (fun w argument => w.deliverChild v call argument) w

/-- What a node tells the visitor before its parts are walked, apart from functions. -/
def event? : Node → Option Event
  | .fnDecl head name _ => some (.fnDecl head name)
  | .call span callee arguments types => some (.call span callee arguments types)
  | .optCall span callee arguments types => some (.optCall span callee arguments types)
  | .importDecl span source locals _ => some (.importDecl span source locals)
  | .exportDefault span kind _ => some (.exportDefault span kind)
  | _ => none

/-- Tells the visitor of the functions that a node holds or is. -/
def deliverFrom (v : Visitor σ) (node : Node) (w : Walk σ) : Walk σ :=
  match node with
  | .fnDecl head name _ => w.deliver v ⟨⟨.decl, head, some name⟩, none⟩
  | .fnExpr head name _ => w.deliverUnclaimed v ⟨.expr, head, name⟩
  | .arrow head _ => w.deliverUnclaimed v ⟨.arrow, head, none⟩
  | .call _ _ arguments _ => w.deliverArguments v node arguments
  | .optCall _ _ arguments _ => w.deliverArguments v node arguments
  | .declarator _ _ (some init) => w.deliverChild v node init
  | .assign _ _ _ value => w.deliverChild v node value
  | .keyValue _ _ _ value => w.deliverChild v node value
  | .method kind head _ _ _ => w.deliver v ⟨⟨Function.ofMethodKind kind, head, none⟩, some node⟩
  | .constructor head _ => w.deliver v ⟨⟨.constructor, head, none⟩, some node⟩
  | .classMethod head _ _ => w.deliver v ⟨⟨.method, head, none⟩, some node⟩
  | .field _ _ (some value) _ => w.deliverChild v node value
  | .patternDefault _ _ value => w.deliverChild v node value
  | .patternShorthand _ _ (some value) => w.deliverChild v node value
  | _ => w

/-- What happens when a walk enters a node, before its parts. -/
def enter (v : Visitor σ) (node : Node) (w : Walk σ) : Walk σ :=
  if w.stopped then w
  else
    let w := match event? node with
      | some event => w.tell v event
      | none => w
    if w.stopped then w else w.deliverFrom v node

end Walk

mutual

/-- Walks a node and its parts, in order. -/
def walkNode {σ : Type} (v : Visitor σ) : Node → Walk σ → Walk σ
  | .ident id, w => w.enter v (.ident id)
  | .paren span inner, w => walkNode v inner (w.enter v (.paren span inner))
  | .member span chained object name, w => walkNode v object (w.enter v (.member span chained object name))
  | .call span callee arguments types, w =>
    walkNodes v types (walkNodes v arguments (walkNode v callee (w.enter v (.call span callee arguments types))))
  | .optCall span callee arguments types, w =>
    walkNodes v types (walkNodes v arguments (walkNode v callee (w.enter v (.optCall span callee arguments types))))
  | .spread span inner, w => walkNode v inner (w.enter v (.spread span inner))
  | .fnDecl head name parts, w => walkNodes v parts (w.enter v (.fnDecl head name parts))
  | .fnExpr head name parts, w => walkNodes v parts (w.enter v (.fnExpr head name parts))
  | .arrow head parts, w => walkNodes v parts (w.enter v (.arrow head parts))
  | .declaration span kind declarators, w => walkNodes v declarators (w.enter v (.declaration span kind declarators))
  | .declarator span target init, w =>
    walkOption v init (walkNode v target (w.enter v (.declarator span target init)))
  | .assign span operator target value, w =>
    walkNode v value (walkNode v target (w.enter v (.assign span operator target value)))
  | .keyValue span key keyParts value, w =>
    walkNode v value (walkNodes v keyParts (w.enter v (.keyValue span key keyParts value)))
  | .method kind head key keyParts parts, w =>
    walkNodes v parts (walkNodes v keyParts (w.enter v (.method kind head key keyParts parts)))
  | .constructor head parts, w => walkNodes v parts (w.enter v (.constructor head parts))
  | .classMethod head keyParts parts, w =>
    walkNodes v parts (walkNodes v keyParts (w.enter v (.classMethod head keyParts parts)))
  | .field span keyParts value types, w =>
    walkNodes v types (walkOption v value (walkNodes v keyParts (w.enter v (.field span keyParts value types))))
  | .patternDefault span target value, w =>
    walkNode v value (walkNode v target (w.enter v (.patternDefault span target value)))
  | .patternShorthand span key value, w => walkOption v value (w.enter v (.patternShorthand span key value))
  | .importDecl span source locals attributes, w =>
    walkNodes v attributes (w.enter v (.importDecl span source locals attributes))
  | .exportDefault span kind decl, w => walkNode v decl (w.enter v (.exportDefault span kind decl))
  | .group form span parts, w => walkNodes v parts (w.enter v (.group form span parts))

def walkNodes {σ : Type} (v : Visitor σ) : List Node → Walk σ → Walk σ
  | [], w => w
  | node :: rest, w => walkNodes v rest (walkNode v node w)

/-- Walks a node that may be missing. -/
def walkOption {σ : Type} (v : Visitor σ) : Option Node → Walk σ → Walk σ
  | none, w => w
  | some node, w => walkNode v node w

end

/-- Walks a module from an initial state and answers where the walk ended. -/
def walkModule {σ : Type} (v : Visitor σ) (module : Module) (start : σ) : Walk σ :=
  walkNodes v module.items ⟨start, [], false⟩

/-- Collects the events of a walk that `keep` keeps, up to the first at which `limit` of them are there. -/
def collector {α : Type} (wantsFunctions : Bool) (keep : Event → Option α) (limit : Option Nat) :
    Visitor (List α) where
  wantsFunctions := wantsFunctions
  visit := fun found event =>
    match keep event with
    | none => (found, true)
    | some a =>
      let found := found ++ [a]
      (found, match limit with
        | some n => found.length < n
        | none => true)

/-- The events of a module that `keep` keeps, in order. -/
def collectEvents {α : Type} (wantsFunctions : Bool) (keep : Event → Option α) (limit : Option Nat)
    (module : Module) : List α :=
  (walkModule (collector wantsFunctions keep limit) module []).state

end NameCheck
