import CatalogSearch.Toml.Scalar

/-! # Reading settings documents

A reader of TOML. A draft holds the tables read so far and the rules that say which of them may still be
changed: a table is opened by one header, a header after that may only add tables below it, and inline
tables and arrays never change. Arrays and inline tables are assumed to nest no deeper than the recursion of a
reader may go: the limit on that is not modelled.
-/

namespace CatalogSearch.Toml

def skipComment (text : List Char) : Except Stop (List Char) :=
  match text with
  | '#' :: rest => do
    let stretch := rest.takeWhile (· != '\n')
    let left := rest.drop stretch.length
    refuse isControl stretch left
    return left
  | _ => .ok text

def skipLines : Nat → List Char → Except Stop (List Char)
  | 0, text => .ok text
  | fuel + 1, text => do
    match text.dropWhile isSpaceOrLine with
    | '#' :: rest => skipLines fuel (← skipComment ('#' :: rest))
    | left => return left

/-- A character of a key without quotes. -/
def isBareKey (c : Char) : Bool :=
  c.isAlphanum || c == '-' || c == '_'

def readKeyPart (text : List Char) : Except Stop (String × List Char) :=
  match text with
  | '"' :: rest => (readBasic false (rest.length + 1) rest).map fun (key, left) => (String.ofList key, left)
  | '\'' :: rest => (literalUntil ['\''] isControl rest).map fun (key, left) => (String.ofList key, left)
  | _ => match text.takeWhile isBareKey with
    | [] => .error (.fault .badKeyStart text)
    | key => .ok (String.ofList key, text.dropWhile isBareKey)

def readKey : Nat → List Char → Except Stop (Path × List Char)
  | 0, text => .error (.fault .badKeyStart text)
  | fuel + 1, text => do
    let (part, rest) ← readKeyPart text
    match skipSpace rest with
    | '.' :: more =>
      let (parts, left) ← readKey fuel (skipSpace more)
      return (part :: parts, left)
    | left => return ([part], left)

/-- Change the table at a path, with new tables on the way where there are none. Of an array of tables the
last one is meant, unless `plain` forbids arrays. -/
def changeAt (plain : Bool) (change : Table → Option Table) : Path → Table → Option Table
  | [], table => change table
  | key :: rest, table => do
    let changed ← match table.get? key with
      | none => (changeAt plain change rest []).map .object
      | some (.object inner) => (changeAt plain change rest inner).map .object
      | some (.list items) =>
        if plain then none
        else match items.getLast? with
          | some (.object inner) =>
            (changeAt plain change rest inner).map fun last => .list (items.dropLast ++ [.object last])
          | _ => none
      | some _ => none
    return table.set key changed

def addKey (key : String) (value : Value) (table : Table) : Option Table :=
  if (table.get? key).isSome then none else some (table.set key value)

/-- Append an empty table to the array of tables under a key. -/
def appendTable (key : String) (table : Table) : Option Table :=
  match table.get? key with
  | none => some (table.set key (.list [.object []]))
  | some (.list items) => match items.getLast? with
    | some (.object _) => some (table.set key (.list (items ++ [.object []])))
    | _ => none
  | some _ => none

/-- Whether one of some paths leads to a key or to a table around it. -/
def covers (paths : List Path) (key : Path) : Bool :=
  paths.any (·.isPrefixOf key)

/-- A key with its value, and whether the value is written as an array or a table. -/
structure Pair where
  key : Path
  value : Value
  isNest : Bool

/-- An inline table as far as it was read, with the keys whose values never change. -/
structure Inline where
  table : Table := []
  fixed : List Path := []

/-- Add a pair to an inline table; `left` is the text after it. -/
def Inline.add (inline : Inline) (pair : Pair) (left : List Char) : Except Stop Inline :=
  if covers inline.fixed pair.key then .error (.fault (.frozen pair.key) left)
  else
    let stem := pair.key.getLast?.getD ""
    match changeAt true some pair.key.dropLast inline.table with
    | none => .error (.fault .overwrites left)
    | some opened => match changeAt true (addKey stem pair.value) pair.key.dropLast opened with
      | none => .error (.fault (.duplicateInline stem) left)
      | some table => .ok ⟨table, if pair.isNest then pair.key :: inline.fixed else inline.fixed⟩

mutual

def readValue : Nat → List Char → Except Stop (Value × List Char)
  | 0, text => .error (.fault .invalidValue text)
  | fuel + 1, text => match readString? text with
    | some outcome => outcome.map fun (content, left) => (.string (String.ofList content), left)
    | none => match text with
      | '[' :: rest => do
        match ← skipLines rest.length rest with
        | ']' :: left => return (.list [], left)
        | start =>
          let (items, left) ← readItems fuel start
          return (.list items, left)
      | '{' :: rest => do
        match ← skipLines rest.length rest with
        | '}' :: left => return (.object [], left)
        | start =>
          let (table, left) ← readPairs fuel {} start
          return (.object table, left)
      | _ => readPlain text

def readItems : Nat → List Char → Except Stop (List Value × List Char)
  | 0, text => .error (.fault .invalidValue text)
  | fuel + 1, text => do
    let (item, rest) ← readValue fuel text
    match ← skipLines rest.length rest with
    | ']' :: left => return ([item], left)
    | ',' :: rest =>
      match ← skipLines rest.length rest with
      | ']' :: left => return ([item], left)
      | start =>
        let (items, left) ← readItems fuel start
        return (item :: items, left)
    | left => throw (.fault .openArray left)

def readPair : Nat → List Char → Except Stop (Pair × List Char)
  | 0, text => .error (.fault .invalidValue text)
  | fuel + 1, text => do
    match ← readKey text.length text with
    | (key, '=' :: rest) =>
      let start := skipSpace rest
      let (value, left) ← readValue fuel start
      return (⟨key, value, start.head? == some '[' || start.head? == some '\x7b'⟩, left)
    | (_, left) => throw (.fault .missingEquals left)

def readPairs : Nat → Inline → List Char → Except Stop (Table × List Char)
  | 0, _, text => .error (.fault .invalidValue text)
  | fuel + 1, inline, text => do
    let (pair, rest) ← readPair fuel text
    let inline ← inline.add pair rest
    match ← skipLines rest.length rest with
    | '}' :: left => return (inline.table, left)
    | ',' :: rest =>
      match ← skipLines rest.length rest with
      | '}' :: left => return (inline.table, left)
      | start => readPairs fuel inline start
    | left => throw (.fault .openInlineTable left)

end

/-- A document as far as it was read: its tables, the header in force, the tables that a header must not open
again, those that are about to become such, and the keys whose values never change. -/
structure Draft where
  table : Table := []
  header : Path := []
  opened : List Path := []
  soonOpened : List Path := []
  fixed : List Path := []

namespace Draft

/-- The draft before a header: what was pending is settled. -/
def settle (draft : Draft) : Draft :=
  { draft with opened := draft.soonOpened ++ draft.opened, soonOpened := [] }

/-- Open a table by its header; `left` is the text after the key. -/
def openTable (draft : Draft) (key : Path) (left : List Char) : Except Stop Draft :=
  if draft.opened.contains key || covers draft.fixed key then .error (.fault (.declaredTwice key) left)
  else match changeAt false some key draft.table with
    | none => .error (.fault .overwrites left)
    | some table => .ok { draft with table, header := key, opened := key :: draft.opened }

/-- Append a table to an array by its header. -/
def openArray (draft : Draft) (key : Path) (left : List Char) : Except Stop Draft :=
  if covers draft.fixed key then .error (.fault (.frozen key) left)
  else match changeAt false (appendTable (key.getLast?.getD "")) key.dropLast draft.table with
    | none => .error (.fault .overwrites left)
    | some table => .ok { draft with
      table
      header := key
      opened := key :: draft.opened.filter (!key.isPrefixOf ·)
      fixed := draft.fixed.filter (!key.isPrefixOf ·) }

def add (draft : Draft) (pair : Pair) (left : List Char) : Except Stop Draft :=
  let key := pair.key
  let around := (List.range (key.length - 1)).map fun count => draft.header ++ key.take (count + 1)
  match around.find? draft.opened.contains with
  | some table => .error (.fault (.redefines table) left)
  | none =>
    let parent := draft.header ++ key.dropLast
    if !parent.isEmpty && covers draft.fixed parent then .error (.fault (.frozen parent) left)
    else match changeAt false (addKey (key.getLast?.getD "") pair.value) parent draft.table with
      | none => .error (.fault .overwrites left)
      | some table => .ok { draft with
        table
        soonOpened := around ++ draft.soonOpened
        fixed := if pair.isNest then (draft.header ++ key) :: draft.fixed else draft.fixed }

end Draft

def readHeader (draft : Draft) (text : List Char) : Except Stop (Draft × List Char) := do
  let draft := draft.settle
  match text with
  | '[' :: '[' :: rest =>
    let (key, left) ← readKey rest.length (skipSpace rest)
    let draft ← draft.openArray key left
    match left with
    | ']' :: ']' :: after => return (draft, after)
    | _ => throw (.fault .openArrayHeader left)
  | _ =>
    let (key, left) ← readKey text.length (skipSpace (text.drop 1))
    let draft ← draft.openTable key left
    match left with
    | ']' :: after => return (draft, after)
    | _ => throw (.fault .openTableHeader left)

def readStatement (draft : Draft) (text : List Char) : Except Stop (Draft × List Char) :=
  match text with
  | '[' :: _ => readHeader draft text
  | '#' :: _ => .ok (draft, text)
  | c :: _ =>
    if isBareKey c || c == '"' || c == '\'' then do
      let (pair, left) ← readPair (text.length + 1) text
      return (← draft.add pair left, left)
    else .error (.fault .invalidStatement text)
  | [] => .ok (draft, [])

/-- The statements of a document, line by line. -/
def readLines : Nat → Draft → List Char → Except Stop Draft
  | 0, draft, _ => .ok draft
  | fuel + 1, draft, text => do
    match skipSpace text with
    | [] => return draft
    | '\n' :: rest => readLines fuel draft rest
    | start =>
      let (draft, rest) ← readStatement draft start
      match ← skipComment (skipSpace rest) with
      | [] => return draft
      | '\n' :: rest => readLines fuel draft rest
      | left => throw (.fault .trailingText left)

def unifyLineEnds : List Char → List Char
  | '\r' :: '\n' :: rest => '\n' :: unifyLineEnds rest
  | c :: rest => c :: unifyLineEnds rest
  | [] => []

/-- Why a document cannot be read. -/
inductive TomlError where
  | malformed (message : String)
  | number (error : Number.IntegerError)
  deriving DecidableEq, Repr

def parse (text : List Char) : Except TomlError Table :=
  let source := unifyLineEnds text
  match readLines (source.length + 1) {} source with
  | .ok draft => .ok draft.table
  | .error (.fault fault left) => .error (.malformed (faultMessage source fault left))
  | .error (.number error) => .error (.number error)

end CatalogSearch.Toml
