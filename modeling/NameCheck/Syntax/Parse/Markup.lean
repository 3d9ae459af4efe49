import NameCheck.Syntax.Parse.Types

/-!
Markup elements: tags with attributes, and the text, holes and elements between them. What follows a tag is
text up to the next tag or hole, so the end of a tag is passed over in a way of its own.
-/
namespace NameCheck.Syntax.Parser

/-- Moves to the next piece between tags: text, a tag or a hole. Text is scanned twice, so what is wrong with it is
reported twice. -/
def bumpMarkup : Parser Unit := modify fun s =>
  let lo := s.span.hi
  let scanned : Scanned := match s.rest with
    | [] => ⟨.eof, lo, [], []⟩
    | '<' :: '/' :: rest => ⟨.punct .endTag, lo + 2, rest, []⟩
    | '<' :: rest => ⟨.punct .lt, lo + 1, rest, []⟩
    | '\x7b' :: rest => ⟨.punct .braceOpen, lo + 1, rest, []⟩
    | cs => markupTextRest [] lo cs
  s.enter ⟨scanned.token, ⟨lo, scanned.stop⟩, false, s.rest, scanned.rest, [], scanned.problems ++ scanned.problems,
    spellingOf scanned.token (scanned.stop - lo) s.rest⟩

/-- Moves over an equals sign to the value of an attribute, in which nothing is escaped. -/
def bumpAttribute : Parser Unit := modify fun s =>
  let (trivia, start, cs) := Trivia.skip .between { newline := false } s.span.hi s.rest
  let scanned := match cs with
    | quote :: rest =>
      if quote == '"' || quote == '\'' then attributeRest quote start (start + 1) rest else scanToken true start cs
    | [] => scanToken true start cs
  s.enter ⟨scanned.token, ⟨start, scanned.stop⟩, trivia.newline, cs, scanned.rest, trivia.comments,
    trivia.problems ++ scanned.problems, spellingOf scanned.token (scanned.stop - start) cs⟩

/-- Ends a tag; what follows is a piece of the element around it if `inner`. -/
def closeTag (inner : Bool) : Parser Unit := do
  splitMark .gt
  if ← isMark .gt then
    if inner then bumpMarkup else bump
  else failHere (.expected ">" (← get).tokenText)

/-- Reads one word of a markup name, in which dashes may stand. -/
def markupWord : Parser String := do
  let s ← get
  match s.token with
  | .word name | .plainName name => do
    let (more, stop, rest) := markupNameRest s.span.hi [] s.rest
    modify (·.advancePast stop rest)
    return name ++ String.ofList more.reverse
  | _ => unexpected "jsx identifier"

/-- Reads the name of an element: words with dots between, or a word after a namespace. A member of the latter has
no name. -/
def elementName : Parser Ident := do
  let lo ← here
  let first ← markupWord
  let space ← eat .colon
  let first ← if space then do
      let second ← markupWord
      pure (first ++ ":" ++ second)
    else pure first
  let name ← repeatStep first fun name => do
    if ← eat .dot then
      let next ← markupWord
      if space then modify fun s => { s with unnameable := true }
      return (name ++ "." ++ next, true)
    else return (name, false)
  return ⟨← spanFrom lo, name⟩

/-- Reads the expression in the braces of an attribute value. -/
def attributeHole (read : Reader) : Parser (List Node) := do
  let lo ← here
  bump
  if ← eat .braceClose then fail (← spanFrom lo) .emptyAttribute
  else do
    let node ← inContext ({ · with allowIn := true, colonFollows := false }) (read .expression)
    expect .braceClose
    return [node]

def tagAttribute (read : Reader) : Parser (List Node) := do
  if ← eat .braceOpen then
    expect .ellipsis
    let lo ← here
    let node ← inContext ({ · with allowIn := true, colonFollows := false }) (read .assignment)
    expect .braceClose
    return [.spread (← spanFrom lo) node]
  else do
    let _ ← markupWord
    if ← eat .colon then
      let _ ← markupWord
    if ← isMark .assign then do
      bumpAttribute
      match (← get).token with
      | .text _ => do
        bump
        return []
      | .punct .braceOpen => attributeHole read
      | .punct .lt => return [← read (.element false)]
      | _ => failHere .attributeValue
    else return []

/-- Reads a hole between tags, which may be empty or spread its value. -/
def childHole (read : Reader) : Parser (List Node) := do
  bump
  if ← isMark .braceClose then
    bumpMarkup
    return []
  else do
    let lo ← here
    let isSpread ← eat .ellipsis
    let node ← inContext ({ · with allowIn := true, colonFollows := false }) (read .expression)
    let span ← spanFrom lo
    if ← isMark .braceClose then
      bumpMarkup
      return [if isSpread then .spread span node else node]
    else failHere (.expected "\x7d" (← get).tokenText)

/-- Reads what stands between an opening tag and a closing one. A part that cannot be read ends it. -/
def children (read : Reader) : Parser (List Node) := do
  let found ← repeatStep [] fun found => do
    let token := (← get).token
    if token == .markupText then do
      bumpMarkup
      return (found, true)
    else if token == .punct .braceOpen || token == .punct .lt then do
      let part := if token == .punct .lt then do return [← read (.element true)] else childHole read
      match ← tryCatch (some <$> part) fun _ => pure none with
      | some nodes => return (nodes.reverse ++ found, true)
      | none => return (found, false)
    else return (found, false)
  return found.reverse

def tagAttributes (read : Reader) : Parser (List Node) := do
  let found ← collectUntil
    (do
      splitMark .gt
      return (← isMark .slash) || (← isMark .gt) || (← atEnd))
    (tagAttribute read)
  return found.flatten

/-- Reads an element from its angle bracket on; `inner` says whether it stands between tags. -/
def element (read : Reader) (inner : Bool) : Parser Node := do
  let lo ← here
  expect .lt
  splitMark .gt
  if ← isMark .gt then do
    closeTag true
    let parts ← children read
    expect .endTag
    closeTag inner
    return .group .markup (← spanFrom lo) parts
  else do
    let name ← elementName
    let types ← if (← typed) && (← isMark .lt) then do
        pure ((← attempt (some <$> typeArguments read)).getD [])
      else pure []
    let attributes ← tagAttributes read
    if ← eat .slash then do
      closeTag inner
      return .group .markup (← spanFrom lo) (attributes ++ types)
    else do
      closeTag true
      let parts ← children read
      expect .endTag
      let closing ← elementName
      closeTag inner
      if closing.name != name.name then fail closing.span (.closingTag name.name)
      return .group .markup (← spanFrom lo) (attributes ++ types ++ parts)

end NameCheck.Syntax.Parser
