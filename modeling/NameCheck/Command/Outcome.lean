import NameCheck.Files.Tree
import NameCheck.Log.Event
import NameCheck.Report.Style

/-!
What a command leaves behind.
-/
namespace NameCheck.Command

/-- What a command tells beside its output: an event of the log, or text. -/
inductive Notice where
  | event (event : Log.Event)
  | page (page : Report.Page)
deriving Inhabited

/-- How a command ended: its exit status, its output, what it told beside, and the files afterwards. -/
structure Outcome where
  status : Nat := 0
  output : Report.Page := []
  notices : List Notice := []
  world : Files.World
deriving Inhabited

/-- A text as a page. -/
def plain (text : String) : Report.Page := [.plain text]

def failure (message : String) : Notice := .page (plain ("Error: " ++ message ++ "\n"))

end NameCheck.Command
