/-!
Values of reports for programs: numbers are counts, and the members of an object keep their order.
-/
namespace NameCheck

/-- A value of a report for programs. -/
inductive Json where
  | bool (value : Bool)
  | number (value : Nat)
  | text (value : String)
  | array (items : List Json)
  | object (members : List (String × Json))
deriving Inhabited

end NameCheck
