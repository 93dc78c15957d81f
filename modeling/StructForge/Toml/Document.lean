import StructForge.Toml.Reader

/-!
# Reading TOML documents

A document is a list of statements, one to a line: entries, and headers that open a table or add one to an array of
tables. Entries go into the table that was opened last.

A table may be opened by a header only once, and not at all where entries with dots in their keys made it under an
earlier header. Nothing may be added to arrays and inline tables. `Draft` keeps track of both.
-/

namespace StructForge.Toml

open Text Settings

/-- A document that is being read. -/
structure Draft where
  /-- The entries so far. -/
  entries : Entries := []
  /-- The path of the table that was opened last. -/
  header : List Text := []
  /-- The paths of tables that no header may open any more. -/
  opened : List (List Text) := []
  /-- The paths that join `opened` at the next header. -/
  dotted : List (List Text) := []
  /-- The paths of arrays and inline tables. -/
  closed : List (List Text) := []

namespace Draft

/-- The prefixes of a path that are longer than `base` and shorter than the path. -/
def innerPaths (base key : List Text) : List (List Text) :=
  (List.range key.length).tail.map fun n => base ++ key.take n

/-- The draft with one more entry in the open table. -/
def addEntry (d : Draft) (key : List Text) (value : Value) : Result Draft :=
  let inner := innerPaths d.header key
  let path := d.header ++ key
  if inner.any d.opened.contains || isWithin d.closed path.dropLast then .error .malformed
  else
    match addAt path value d.entries with
    | none => .error .malformed
    | some entries =>
      .ok { d with
        entries
        dotted := d.dotted ++ inner
        closed := if isContainer value then path :: d.closed else d.closed }

/-- The draft at a new header, before that opens anything. -/
def atHeader (d : Draft) : Draft := { d with opened := d.dotted ++ d.opened, dotted := [] }

/-- The draft with a table opened by a header. -/
def openTable (d : Draft) (path : List Text) : Result Draft :=
  if d.opened.contains path || isWithin d.closed path then .error .malformed
  else
    match updateAt some path d.entries with
    | none => .error .malformed
    | some entries => .ok { d with entries, header := path, opened := path :: d.opened }

/-- Adds a table to the array under the last key, which is made where it is missing. -/
def appendTable (key : Text) (entries : Entries) : Option Entries :=
  match entries.lookup key with
  | none => some (entries ++ [(key, .array [.table []])])
  | some (.array elements) => some (Json.insertMember key (.array (elements ++ [.table []])) entries)
  | some _ => none

/-- The draft with one more table in an array, opened by a header. What was opened in the table before it does not
count for the new one. -/
def openElement (d : Draft) (path : List Text) : Result Draft :=
  if isWithin d.closed path then .error .malformed
  else
    match path.getLast?.bind fun key => updateAt (appendTable key) path.dropLast d.entries with
    | none => .error .malformed
    | some entries =>
      .ok { d with
        entries
        header := path
        opened := path :: d.opened.filter fun p => !path.isPrefixOf p
        closed := d.closed.filter fun p => !path.isPrefixOf p }

/-- The draft behind a header, and what follows it. -/
def readHeader (d : Draft) (t : Text) : Result (Draft × Text) := do
  let d := d.atHeader
  match t with
  | '[' :: inside =>
    let (path, rest) ← readKey (skipSpace inside)
    let d ← d.openElement path
    match rest with
    | ']' :: ']' :: rest => return (d, rest)
    | _ => .error .malformed
  | inside =>
    let (path, rest) ← readKey (skipSpace inside)
    let d ← d.openTable path
    match rest with
    | ']' :: rest => return (d, rest)
    | _ => .error .malformed

/-- The draft behind a statement, and what follows it. -/
def readStatement (d : Draft) (t : Text) : Result (Draft × Text) :=
  match t with
  | '[' :: inside => d.readHeader inside
  | '#' :: _ => .ok (d, t)
  | _ => do
    let (key, value, rest) ← readEntry (readValue t.length nestingRoom) t
    return (← d.addEntry key value, rest)

/-- Reads statements to the end of the text; at most `fuel` lines of it. -/
def readLines : (fuel : Nat) → Draft → Text → Result Draft
  | 0, d, _ => .ok d
  | fuel + 1, d, t =>
    match skipSpace t with
    | [] => .ok d
    | '\n' :: rest => readLines fuel d rest
    | statement => do
      let (d, rest) ← d.readStatement statement
      match ← skipComment (skipSpace rest) with
      | [] => return d
      | '\n' :: rest => readLines fuel d rest
      | _ => .error .malformed

end Draft

/-- The text with newlines for `\r\n`. -/
def joinLineEnds : Text → Text
  | [] => []
  | '\r' :: '\n' :: t => '\n' :: joinLineEnds t
  | c :: t => c :: joinLineEnds t

/-- Reads a document. -/
def read (t : Text) : Result Entries :=
  let source := joinLineEnds t
  (Draft.readLines (source.length + 1) {} source).map (·.entries)

end StructForge.Toml
