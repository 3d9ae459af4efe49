/-!
Why a configuration text cannot be read.
-/
namespace NameCheck.Toml

/-- What is wrong with a part that is written correctly. -/
inductive Cause where
  | duplicateKey (key : String) (table : Option (List String))
  | extendsValue (path : List String) (type : String)
  | outOfRange
  | tooLarge
  | tooSmall
  | tooDeep
deriving DecidableEq, Repr, Inhabited

def Cause.message : Cause → String
  | .duplicateKey key none => "duplicate key `" ++ key ++ "`"
  | .duplicateKey key (some []) => "duplicate key `" ++ key ++ "` in document root"
  | .duplicateKey key (some table) =>
    "duplicate key `" ++ key ++ "` in table `" ++ String.intercalate "." table ++ "`"
  | .extendsValue path type =>
    "dotted key `" ++ String.intercalate "." path ++ "` attempted to extend non-table type (" ++ type ++ ")"
  | .outOfRange => "value is out of range"
  | .tooLarge => "number too large to fit in target type"
  | .tooSmall => "number too small to fit in target type"
  | .tooDeep => "recursion limit exceeded"

/-- A failed reading. If it is fatal, no other way of reading is tried. The part that could not be read is the
innermost that has a name. -/
structure Failure where
  fatal : Bool := false
  part : Option String := none
  expected : List String := []
  cause : Option Cause := none
deriving DecidableEq, Repr, Inhabited

def Failure.message (f : Failure) : String :=
  let part := (f.part.map ("invalid " ++ ·)).toList
  let expected := if f.expected.isEmpty then [] else ["expected " ++ String.intercalate ", " f.expected]
  String.intercalate "\n" (part ++ expected ++ (f.cause.map Cause.message).toList)

end NameCheck.Toml
