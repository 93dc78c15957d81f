import StructForge.FileTree
import StructForge.Go.Options
import StructForge.Journal
import StructForge.Settings.Value
import StructForge.Source
import StructForge.Toml.Document

/-!
# Settings

Preferences for the generated code. They are read from a section of the project file or, where that has none, from a
file of their own; variables of the environment go before both.

The entries of the chosen source and of the environment are merged into one list, in which a name occurs once:
`merge` keeps the place of a name and takes the later value. `Settings.apply` then sets one entry after another and
stops at the first value that does not fit. Names that mean nothing are passed over with a warning.
-/

namespace StructForge

open Text

/-- Preferences for the generated code. -/
structure Settings where
  /-- A name for every struct. -/
  structName : Option Text := none
  /-- The package of complete files. -/
  packageName : Text := "model"
  /-- Whether the struct of a table gets a method that tells the table's name. -/
  emitStorageAccessor : Bool := true
  /-- Whether nested types are written where they are used. -/
  inlineNestedTypes : Bool := true
  /-- The name for the struct of a JSON document. -/
  documentName : Text := "Response"
  deriving DecidableEq

namespace Settings

/-- The options that the settings ask for. -/
def options (s : Settings) : Go.Options :=
  { structName := s.structName
    packageName := s.packageName
    emitStorageAccessor := s.emitStorageAccessor
    inlineNestedTypes := s.inlineNestedTypes }

/-! ## Single settings -/

/-- The settings that there are. -/
inductive Key where
  | structName
  | packageName
  | emitStorageAccessor
  | inlineNestedTypes
  | documentName
  deriving DecidableEq

/-- The name of a setting. -/
def Key.name : Key → Text
  | .structName => "struct_name"
  | .packageName => "package_name"
  | .emitStorageAccessor => "emit_storage_accessor"
  | .inlineNestedTypes => "inline_nested_types"
  | .documentName => "default_json_struct_name"

/-- The variable of the environment for a setting. -/
def Key.variable : Key → Text
  | .structName => "STRUCTIFY_STRUCT_NAME"
  | .packageName => "STRUCTIFY_PACKAGE_NAME"
  | .emitStorageAccessor => "STRUCTIFY_EMIT_STORAGE_ACCESSOR"
  | .inlineNestedTypes => "STRUCTIFY_INLINE_NESTED_TYPES"
  | .documentName => "STRUCTIFY_DEFAULT_JSON_STRUCT_NAME"

/-- All settings, in the order in which the environment is asked for them. -/
def Key.all : List Key := [.structName, .packageName, .emitStorageAccessor, .inlineNestedTypes, .documentName]

/-- The setting that a value names. -/
def Key.ofValue? : Value → Option Key
  | .string name => Key.all.find? (·.name == name)
  | _ => none

/-- A value that does not fit its setting. -/
inductive ValueError where
  | notBoolean (name : Text) (value : Value)
  | notText (name : Text)

/-- The complaint about a value. -/
def ValueError.message : ValueError → Text
  | .notBoolean name value => "Invalid boolean for '" ++ name ++ "': " ++ value.shown
  | .notText name => "Invalid value for '" ++ name ++ "': expected a string"

/-- What keeps the complaint about a value from being made: it shows the value. -/
def ValueError.obstacle? : ValueError → Option Value.Obstacle
  | .notBoolean _ value => value.obstacle?
  | .notText _ => none

/-- The words for true and false. -/
def booleanWords : List (Text × Bool) :=
  [("true", true), ("1", true), ("yes", true), ("on", true), ("false", false), ("0", false), ("no", false),
   ("off", false)]

/-- The truth value that a value stands for; texts are trimmed and may be of any letter case. -/
def boolean? : Value → Option Bool
  | .bool value => some value
  | .string t => booleanWords.lookup (lower (trim t))
  | _ => none

/-- The truth value that a value of some name stands for. -/
def parseBoolean (name : Text) (value : Value) : Except ValueError Bool :=
  match boolean? value with
  | some b => .ok b
  | none => .error (.notBoolean name value)

/-- The text that a value of some name stands for: trimmed, and none if nothing is left. -/
def parseText (name : Text) : Value → Except ValueError (Option Text)
  | .string t => .ok (some (trim t) |>.filter (!·.isEmpty))
  | _ => .error (.notText name)

/-- The settings with one of them set. A blank text sets the default. -/
def set (s : Settings) (key : Key) (value : Value) : Except ValueError Settings :=
  match key with
  | .structName => (parseText key.name value).map fun t => { s with structName := t }
  | .packageName => (parseText key.name value).map fun t => { s with packageName := t.getD "model" }
  | .emitStorageAccessor => (parseBoolean key.name value).map fun b => { s with emitStorageAccessor := b }
  | .inlineNestedTypes => (parseBoolean key.name value).map fun b => { s with inlineNestedTypes := b }
  | .documentName => (parseText key.name value).map fun t => { s with documentName := t.getD "Response" }

/-! ## Lists of settings -/

/-- A name and its value; only texts name settings, but a file may give other names. -/
abbrev Entry := Value × Value

/-- The entries with one more; a name that is there already gets the new value in its old place. -/
def putEntry (name value : Value) : List Entry → List Entry
  | [] => [(name, value)]
  | (n, v) :: rest => if n.sameName name then (n, value) :: rest else (n, v) :: putEntry name value rest

/-- The entries of two lists, where the second goes before the first. -/
def merge (entries more : List Entry) : List Entry := more.foldl (fun merged (n, v) => putEntry n v merged) entries

/-- Sets entries one after another. The names that mean nothing, up to the first value that does not fit, come with
the result. -/
def apply (s : Settings) : List Entry → List Value × Except ValueError Settings
  | [] => ([], .ok s)
  | (name, value) :: rest =>
    match Key.ofValue? name with
    | none =>
      let (unknown, result) := s.apply rest
      (name :: unknown, result)
    | some key =>
      match s.set key value with
      | .error e => ([], .error e)
      | .ok s => s.apply rest

/-- The entries that the environment gives. -/
def ofEnvironment (environment : List (Text × Text)) : List Entry :=
  Key.all.filterMap fun key => (environment.lookup key.variable).map fun t => (.string key.name, .string t)

/-! ## Files -/

/-- Why settings cannot be loaded. -/
inductive LoadError where
  | value (error : ValueError)
  | refused (error : PathError)
  | notUtf8 (error : Utf8.Error)
  | tooLong (error : TooLong)
  | tooDeep
  | toolNotATable
  | sectionNotATable
  | pairLength (place length : Nat)
  | notAPair
  | nameNotHashable

/-- The error of a value or name that was to be shown and cannot be. -/
def LoadError.ofObstacle : Value.Obstacle → LoadError
  | .tooDeep => .tooDeep
  | .tooLong => .tooLong .written

/-- The error that a value makes which does not fit. -/
def LoadError.ofValueError (e : ValueError) : LoadError :=
  match e.obstacle? with
  | some obstacle => .ofObstacle obstacle
  | none => .value e

/-- The entries of an element of a list that stands for a table: a pair of a name and a value. -/
def pairOf (place : Nat) (element : Value) : Except LoadError Entry :=
  let pair (parts : List Value) : Except LoadError Entry :=
    match parts with
    | [name, value] =>
      match name with
      | .array _ | .table _ => .error .nameNotHashable
      | name => .ok (name, value)
    | parts => .error (.pairLength place parts.length)
  match element with
  | .array parts => pair parts
  | .string t => pair (t.map fun c => .string [c])
  | .table entries => pair (entries.map fun (key, _) => .string key)
  | _ => .error .notAPair

/-- The entries of some pairs, the first of which has a place in a list. -/
def entriesOfPairs (place : Nat) (entries : List Entry) : List Value → Except LoadError (List Entry)
  | [] => .ok entries
  | element :: rest =>
    match pairOf place element with
    | .error e => .error e
    | .ok (name, value) => entriesOfPairs (place + 1) (putEntry name value entries) rest

/-- The entries that a value stands for: those of a table, or pairs in a list or text. -/
def entriesOf : Value → Except LoadError (List Entry)
  | .table entries => .ok (entries.map fun (key, value) => (.string key, value))
  | .array elements => entriesOfPairs 0 [] elements
  | .string t => entriesOfPairs 0 [] (t.map fun c => .string [c])
  | _ => .error .sectionNotATable

/-- A file of settings that was looked for. -/
inductive FileResult where
  | absent
  | unreadable
  | document (entries : Toml.Entries)

/-- Reads a file of settings. -/
def readFile (tree : FileTree) (p : Path) : Except LoadError FileResult :=
  match tree.find p with
  | .error .nameTooLong => .error (.refused ⟨.nameTooLong, p⟩)
  | .error _ => .ok .absent
  | .ok (.missing _ _) => .ok .absent
  | .ok (.directory _) => .ok .unreadable
  | .ok (.file _ content) =>
    match Utf8.decode content with
    | .error e => .error (.notUtf8 e)
    | .ok t =>
      match Toml.read t with
      | .ok entries => .ok (.document entries)
      | .error .malformed => .ok .unreadable
      | .error (.tooLong error) => .error (.tooLong error)
      | .error .tooDeep => .error .tooDeep

/-- The section of a project file for these settings. -/
def sectionOf? (document : Toml.Entries) : Except LoadError (Option Value) :=
  match document.lookup ("tool" : Text) with
  | none => .ok none
  | some (.table tools) => .ok (tools.lookup ("structify" : Text))
  | some _ => .error .toolNotATable

/-! ## Loading -/

/-- The result of a step of loading, with the journal of it. -/
structure Loaded (α : Type) where
  journal : List Journal.Entry
  result : Except LoadError α

/-- The part of the program that loads settings, in the journal. -/
def journalPart : Text := "SettingsManager"

/-- The name of the project file. -/
def projectFileName : Text := "pyproject.toml"

/-- The name of the file that has only settings. -/
def ownFileName : Text := "structify.toml"

/-- The warning about a file that cannot be read. -/
def unreadableFile (name : Text) : Journal.Entry := ⟨.warning, journalPart, "Could not read " ++ name⟩

/-- The warning about a name that means nothing. -/
def unknownName (name : Value) : Journal.Entry :=
  ⟨.warning, journalPart, "Ignoring unknown setting '" ++ name.label ++ "'"⟩

/-- The entries of a source under a path, and the note that they were taken from it. -/
def takenFrom (shownPath : Text) (journal : List Journal.Entry) (source : Value) : Loaded (List Entry) :=
  ⟨journal ++ [⟨.debug, journalPart, "Loaded settings from " ++ shownPath⟩], entriesOf source⟩

/-- The entries of the file that has only settings. -/
def ownFileEntries (tree : FileTree) (directory : Path) (shown : Text → Text) (journal : List Journal.Entry) :
    Loaded (List Entry) :=
  let nothing (journal : List Journal.Entry) : Loaded (List Entry) :=
    ⟨journal ++ [⟨.debug, journalPart, "No structify settings found in TOML files"⟩], .ok []⟩
  match readFile tree (directory.append (Path.ofText ownFileName)) with
  | .error e => ⟨journal, .error e⟩
  | .ok .absent => nothing journal
  | .ok .unreadable => nothing (journal ++ [unreadableFile ownFileName])
  | .ok (.document entries) => takenFrom (shown ownFileName) journal (.table entries)

/-- The entries of the project file's section or, without one, of the file that has only settings; `shown` is how
the journal shows the path of a file. -/
def fileEntries (tree : FileTree) (directory : Path) (shown : Text → Text) : Loaded (List Entry) :=
  match readFile tree (directory.append (Path.ofText projectFileName)) with
  | .error e => ⟨[], .error e⟩
  | .ok .absent => ownFileEntries tree directory shown []
  | .ok .unreadable => ownFileEntries tree directory shown [unreadableFile projectFileName]
  | .ok (.document document) =>
    match sectionOf? document with
    | .error e => ⟨[], .error e⟩
    | .ok none => ownFileEntries tree directory shown []
    | .ok (some source) => takenFrom (shown projectFileName) [] source

/-- The warnings about names that mean nothing, up to the first that cannot be shown, and what keeps it from that. -/
def warnings : List Value → List Journal.Entry × Option Value.Obstacle
  | [] => ([], none)
  | name :: rest =>
    match name.obstacle? with
    | some obstacle => ([], some obstacle)
    | none => let (more, obstacle) := warnings rest; (unknownName name :: more, obstacle)

/-- The settings for a directory and an environment. -/
def load (tree : FileTree) (directory : Path) (shown : Text → Text) (environment : List (Text × Text)) :
    Loaded Settings :=
  let files := fileEntries tree directory shown
  match files.result with
  | .error e => ⟨files.journal, .error e⟩
  | .ok entries =>
    let (unknown, result) := Settings.apply {} (merge entries (ofEnvironment environment))
    let (told, obstacle) := warnings unknown
    ⟨files.journal ++ told,
      match obstacle with
      | some obstacle => .error (.ofObstacle obstacle)
      | none => result.mapError .ofValueError⟩

/-- The complaint about settings that cannot be loaded, where it is more than a kind of error. -/
def LoadError.message? : LoadError → Option Text
  | .value error => some error.message
  | .refused error => some error.message
  | .notUtf8 error => some error.message
  | .tooLong error => some error.message
  | .pairLength place length =>
    some ("dictionary update sequence element #" ++ ofNat place ++ " has length " ++ ofNat length ++
      "; 2 is required")
  | .tooDeep | .toolNotATable | .sectionNotATable | .notAPair | .nameNotHashable => none

end Settings

end StructForge
