import NameCheck.Toml.Composite

/-!
Configuration texts: tables under headers, filled line by line. `Toml.parse` reads a text into the entries of
its outermost table.
-/
namespace NameCheck.Toml

/-! ## Tables under headers -/

/-- Applies an action to the table that a path leads to. Tables on the way are made; of several tables under
one header the last is meant. A dotted key does not lead into a table with a header of its own. -/
def inside {α : Type} (dotted : Bool) (act : Origin → Entries → Except Cause (α × Entries)) :
    (passed path : List String) → Origin → Entries → Except Cause (α × Entries)
  | _, [], origin, entries => act origin entries
  | passed, key :: path, _, entries =>
    match entries.lookup key with
    | none => do
      let origin : Origin := if dotted then .dotted else .implied
      let (a, inner) ← inside dotted act (passed ++ [key]) path origin []
      return (a, entries ++ [(key, .table origin inner)])
    | some (.tables items) => do
      let (a, inner) ← inside dotted act (passed ++ [key]) path .header (items.getLastD [])
      return (a, Entries.replace entries key (.tables (items.dropLast ++ [inner])))
    | some (.table origin inner) =>
      if origin == .inline || origin == .inlineDotted then throw (.extendsValue (passed ++ [key]) "inline table")
      else if dotted && origin == .header then throw (.duplicateKey key none)
      else do
        let (a, inner) ← inside dotted act (passed ++ [key]) path origin inner
        return (a, Entries.replace entries key (.table origin inner))
    | some value => throw (.extendsValue (passed ++ [key]) value.typeName)

/-- An upper-case hexadecimal digit. -/
def hexMark (n : Nat) : Char := ((Nat.toDigits 16 n).headD '0').toUpper

/-- How a character of a key is written between double quotes. -/
def keyChar (c : Char) : List Char :=
  if c == '"' then ['\\', '"']
  else if c == '\\' then ['\\', '\\']
  else if c == '\n' then ['\\', 'n']
  else if c == '\r' then ['\\', 'r']
  else if c == '\t' then ['\\', 't']
  else if c.toNat == 8 then ['\\', 'b']
  else if c.toNat == 12 then ['\\', 'f']
  else if c.toNat < 0x20 || c.toNat == 0x7f then
    ['\\', 'u', '0', '0', hexMark (c.toNat / 16), hexMark (c.toNat % 16)]
  else [c]

/-- How a key is written in a complaint: in quotes if it could not stand without them, in single ones if that
saves an escape. -/
def keyText (key : String) : String :=
  let cs := key.toList
  if !cs.isEmpty && cs.all Reader.isKeyChar then key
  else if cs.all Reader.isLiteral && !cs.all Reader.isPlain then "'" ++ key ++ "'"
  else "\"" ++ String.ofList (cs.flatMap keyChar) ++ "\""

/-- What has been read of a text: the tables that are finished, and the one that lines are added to now with
the path of its header. -/
structure Document where
  root : Entries := []
  current : Entries := []
  path : List String := []
  repeated : Bool := false
deriving Inhabited

namespace Document

/-- A complaint about a header whose last key is taken. -/
def taken (path : List String) : Cause := .duplicateKey (keyText (path.getLastD "")) (some path.dropLast)

/-- Applies an action to the entries of the table around the last key of a path, among finished tables. -/
def around {α : Type} (root : Entries) (path : List String) (act : Entries → Except Cause (α × Entries)) :
    Except Cause (α × Entries) :=
  inside false (fun _ entries => act entries) [] path.dropLast .header root

/-- The finished tables once the current one is among them. -/
def finish (document : Document) : Except Cause Entries :=
  let key := document.path.getLastD ""
  if document.path.isEmpty then return document.current
  else do
    let (_, root) ← around document.root document.path fun parent =>
      match parent.lookup key, document.repeated with
      | none, false => return ((), parent ++ [(key, .table .header document.current)])
      | none, true => return ((), parent ++ [(key, .tables [document.current])])
      | some (.tables items), true =>
        return ((), Entries.replace parent key (.tables (items ++ [document.current])))
      | some _, _ => throw (taken document.path)
    return root

/-- Starts the table under a header. What was put into it on the way to other tables stays. -/
def startTable (document : Document) (path : List String) : Except Cause Document := do
  let key := path.getLastD ""
  let (current, root) ← around (← document.finish) path fun parent =>
    match parent.lookup key with
    | none => return ([], parent)
    | some (.table .implied entries) => return (entries, Entries.erase parent key)
    | some _ => throw (taken path)
  return { root, current, path }

/-- Starts one of several tables under a header. -/
def startRepeated (document : Document) (path : List String) : Except Cause Document := do
  let key := path.getLastD ""
  let (_, root) ← around (← document.finish) path fun parent =>
    match parent.lookup key with
    | none | some (.tables _) => return ((), parent)
    | some _ => throw (taken path)
  return { root, path, repeated := true }

/-- Adds an entry to the current table. A dotted key adds to tables that dotted keys made, and to no others. -/
def add (document : Document) (key : List String) (value : Value) : Except Cause Document := do
  let name := key.getLastD ""
  let path := key.dropLast
  let ((), current) ← inside true (fun origin entries =>
    if (origin == .dotted) == path.isEmpty then throw (.duplicateKey name none)
    else if (entries.lookup name).isSome then throw (.duplicateKey name (some document.path))
    else return ((), entries ++ [(name, value)])) [] path .header document.current
  return { document with current }

end Document

/-! ## Lines -/

namespace Reader

/-- Reads a key and its value. -/
def entry : Reader (List String × Value) := do
  let name ← key
  commit do
    equals
    blanks
    let v ← value
    lastOfLine
    return (name, v)

/-- Reads a header between brackets. -/
def header (opening closing : String) : Reader (List String) := do
  exactly opening
  let path ← commit key
  expecting ["`.`", "`" ++ closing ++ "`"] (commit (exactly closing))
  commit lastOfLine
  return path

def headerLine (document : Document) : Reader Document :=
  part "table header" do
    match (← get).take 2 with
    | ['[', '['] => do accept (document.startRepeated (← header "[[" "]]"))
    | [_, _] => do accept (document.startTable (← header "[" "]"))
    | _ => fail

def line (document : Document) : Reader Document := do
  match ← next? with
  | none => fail
  | some c =>
    if c == '#' then commit (do comment; lineEnd; return document)
    else if c == '[' then commit (headerLine document)
    else if c == '\n' || c == '\r' then do
      newline
      return document
    else commit do
      let (name, v) ← entry
      accept (document.add name v)

/-- Reads lines, at most `bound` of them. -/
def linesBounded : (bound : Nat) → Document → Reader Document
  | 0, document => return document
  | bound + 1, document => do
    match ← maybe (line document) with
    | none => return document
    | some document => do
      blanks
      linesBounded bound document

/-- Reads a whole text into the entries of its outermost table. -/
def document : Reader Entries := do
  let _ ← maybe (char '\ufeff')
  blanks
  let document ← linesBounded ((← get).length + 1) {}
  eof
  accept document.finish

end Reader

/-- Reads a configuration text. -/
def parse (text : String) : Except Failure Entries := (Reader.document.run text.toList).map (·.1)

end NameCheck.Toml
