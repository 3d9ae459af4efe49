import NameCheck.Syntax.Parse.State

/-!
What one part of the grammar asks another to read. The parts are written over an arbitrary reader of goals,
and the recursion between them is tied in one place, by depth.
-/
namespace NameCheck.Syntax

/-- A part of the grammar that others refer to, by the kind of its result. A type gives the expressions
written inside it. -/
inductive Goal : Type → Type where
  | expression : Goal Node
  | assignment : Goal Node
  | assignmentBase : Goal Node
  | unary : Goal Node
  | leftHand : Goal Node
  | memberOrNew (newAllowed : Bool) : Goal Node
  | binaryRest (left : Node) (least : Nat) : Goal Node
  | statement (declarations : Bool) : Goal Node
  | item : Goal Node
  | pattern : Goal Node
  | properties (lo : Nat) : Goal (List Node)
  | type : Goal (List Node)
  | plainType : Goal (List Node)
  | element (inner : Bool) : Goal Node

/-- A reader of every goal. -/
abbrev Reader := {α : Type} → Goal α → Parser α

end NameCheck.Syntax
