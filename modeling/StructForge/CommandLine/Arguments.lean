import StructForge.Source
import StructForge.Text.ControlSequence

/-!
# Arguments

The words of a command line: the name of a command, its options, and at most one operand. Long options may have
their value behind an equals sign, short ones may stand together behind one dash, and behind `--` every word is an
operand.

`read` first takes the words apart and then checks the values, in the order in which their options were first given;
`Invocation` is what a command is to do.
-/

namespace StructForge.CommandLine

open Text

/-- The commands. -/
inductive Command where
  | config
  | convert
  | detect
  | inspect
  deriving DecidableEq

/-- The name of a command. -/
def Command.name : Command → Text
  | .config => "config"
  | .convert => "convert"
  | .detect => "detect"
  | .inspect => "inspect"

/-- All commands, in the order of their names. -/
def Command.all : List Command := [.config, .convert, .detect, .inspect]

/-- The options of all commands. -/
inductive Opt where
  | dialect
  | structName
  | packageName
  | tableName (on : Bool)
  | inline (on : Bool)
  | file
  | outputDir
  | lineNumbers
  | format
  | verbose
  | help
  deriving DecidableEq

/-- Whether the option has a value. -/
def Opt.takesValue : Opt → Bool
  | .dialect | .structName | .packageName | .outputDir | .format => true
  | .tableName _ | .inline _ | .file | .lineNumbers | .verbose | .help => false

/-- The long options of a command. -/
def Command.longOptions : Command → List (Text × Opt)
  | .config => [("--verbose", .verbose), ("--help", .help)]
  | .detect => [("--verbose", .verbose), ("--help", .help)]
  | .inspect => [("--dialect", .dialect), ("--verbose", .verbose), ("--format", .format), ("--help", .help)]
  | .convert =>
    [("--dialect", .dialect), ("--struct-name", .structName), ("--package", .packageName),
     ("--table-name", .tableName true), ("--no-table-name", .tableName false), ("--inline", .inline true),
     ("--no-inline", .inline false), ("--file", .file), ("--output-dir", .outputDir),
     ("--line-numbers", .lineNumbers), ("--verbose", .verbose), ("--help", .help)]

/-- The short options of a command. -/
def Command.shortOptions : Command → List (Char × Opt)
  | .config => [('v', .verbose)]
  | .detect => [('v', .verbose)]
  | .inspect => [('d', .dialect), ('v', .verbose), ('f', .format)]
  | .convert => [('d', .dialect), ('n', .structName), ('p', .packageName), ('o', .outputDir), ('v', .verbose)]

/-! ## Taking words apart -/

/-- What is wrong with a command line. -/
inductive UsageError where
  | malformed
  | unsupportedDialect (name : Text)
  | invalidFormat (name : Text)
  deriving DecidableEq

/-- The dialects that can be asked for, and the name that asks for detection. -/
def dialectNames : List Text := ("auto" : Text) :: Source.all.map Source.name

/-- The complaint about a value of an option, which is shown without colours. -/
def UsageError.message? : UsageError → Option Text
  | .malformed => none
  | .unsupportedDialect name =>
    some ("Unsupported dialect '" ++ withoutColours name ++ "'. Supported: " ++ join ", " dialectNames)
  | .invalidFormat name =>
    some ("Invalid format '" ++ withoutColours name ++ "'. Must be 'json' or 'yaml'.")

/-- Options with their values, and operands, in the order in which they stand. -/
structure Words where
  options : List (Opt × Text) := []
  operands : List Text := []

/-- Puts an option in front. -/
def Words.withOption (w : Words) (opt : Opt) (value : Text) : Words := { w with options := (opt, value) :: w.options }

/-- Puts an operand in front. -/
def Words.withOperand (w : Words) (operand : Text) : Words := { w with operands := operand :: w.operands }

/-- An option that a word ends with, and that may need the next word for its value. -/
inductive Pending where
  | none
  | value (opt : Opt)

/-- The options in a group of short ones, and the one at its end that still needs a value. A value behind its option
ends the group. -/
def shortGroup (command : Command) : Text → Except UsageError (List (Opt × Text) × Pending)
  | [] => .ok ([], .none)
  | c :: t =>
    match command.shortOptions.lookup c with
    | Option.none => .error .malformed
    | some opt =>
      if opt.takesValue then if t.isEmpty then .ok ([], .value opt) else .ok ([(opt, t)], .none)
      else (shortGroup command t).map fun (more, pending) => ((opt, []) :: more, pending)

/-- The options in a word that starts with a dash. -/
def optionsOfWord (command : Command) (word : Text) : Except UsageError (List (Opt × Text) × Pending) :=
  match command.longOptions.lookup (word.takeWhile (· ≠ '=')) with
  | some opt =>
    match opt.takesValue, word.dropWhile (· ≠ '=') with
    | true, _ :: value => .ok ([(opt, value)], .none)
    | true, [] => .ok ([], .value opt)
    | false, _ :: _ => .error .malformed
    | false, [] => .ok ([(opt, [])], .none)
  | Option.none => if startsWith word "--" then .error .malformed else shortGroup command (word.drop 1)

/-- Whether a word has options in it: it starts with a dash that is not all of it. -/
def isOptionWord : Text → Bool
  | '-' :: _ :: _ => true
  | _ => false

/-- Takes the words behind a command apart, where an option may wait for its value. -/
def takeApart (command : Command) : Pending → List Text → Except UsageError Words
  | .none, [] => .ok {}
  | .value _, [] => .error .malformed
  | .value opt, value :: rest => (takeApart command .none rest).map (·.withOption opt value)
  | .none, word :: rest =>
    if word = ['-', '-'] then .ok { operands := rest }
    else if isOptionWord word then do
      let (options, pending) ← optionsOfWord command word
      let behind ← takeApart command pending rest
      return options.foldr (fun (opt, value) w => w.withOption opt value) behind
    else (takeApart command .none rest).map (·.withOperand word)

/-! ## Checking values -/

/-- The forms in which a schema is shown. -/
inductive Format where
  | json
  | yaml
  deriving DecidableEq

/-- The value that an option was last given. -/
def Words.last? (w : Words) (opt : Opt) : Option Text :=
  (w.options.filter (·.1 = opt)).getLast?.map (·.2)

/-- Whether an option without value was given. -/
def Words.has (w : Words) (opt : Opt) : Bool := w.options.any (·.1 = opt)

/-- The last of two opposite options. -/
def Words.switch? (w : Words) (opt : Bool → Opt) : Option Bool :=
  (w.options.filterMap fun (o, _) => if o = opt true then some true else if o = opt false then some false else none)
    |>.getLast?

/-- The dialect that a name asks for, in small letters. -/
def checkDialect (name : Text) : Except UsageError Text :=
  let small := lower name
  if small = "auto" || Source.isSupported small then .ok small else .error (.unsupportedDialect name)

/-- The form that a name asks for. -/
def checkFormat (name : Text) : Except UsageError Format :=
  if name = "json" then .ok .json else if name = "yaml" then .ok .yaml else .error (.invalidFormat name)

/-- The first complaint about a value, in the order in which the options were first given. -/
def firstComplaint? (w : Words) : List Opt → Option UsageError
  | [] => none
  | opt :: rest =>
    let complaint? : Option UsageError :=
      match opt, w.last? opt with
      | .dialect, some name =>
        match checkDialect name with
        | .error e => some e
        | .ok _ => none
      | .format, some name =>
        match checkFormat name with
        | .error e => some e
        | .ok _ => none
      | _, _ => none
    complaint?.or (firstComplaint? w rest)

/-! ## Invocations -/

/-- What `convert` is to do beyond reading its input. -/
structure ConvertOptions where
  structName : Option Text := none
  packageName : Option Text := none
  tableName : Option Bool := none
  inline : Option Bool := none
  asFile : Bool := false
  outputDir : Option Text := none
  lineNumbers : Bool := false
  deriving DecidableEq

/-- What a command is to do: its operand, its dialect in small letters, and what else it is told. -/
inductive Action where
  | help
  | config (directory : Option Text)
  | detect (input : Option Text)
  | inspect (input : Option Text) (dialect : Text) (format : Format)
  | convert (input : Option Text) (dialect : Text) (options : ConvertOptions)
  deriving DecidableEq

/-- An action, and whether to tell more of it than warnings. -/
structure Invocation where
  action : Action
  verbose : Bool := false
  deriving DecidableEq

/-- What a command is to do with an operand and the options of some words, whose values have been checked. -/
def actionOf (command : Command) (w : Words) : Except UsageError Action := do
  let operand := w.operands.head?
  let dialect ← checkDialect ((w.last? .dialect).getD "auto")
  let format ← checkFormat ((w.last? .format).getD "json")
  match command with
  | .config => return .config operand
  | .detect => return .detect operand
  | .inspect => return .inspect operand dialect format
  | .convert =>
    return .convert operand dialect {
      structName := w.last? .structName
      packageName := w.last? .packageName
      tableName := w.switch? .tableName
      inline := w.switch? .inline
      asFile := w.has .file
      outputDir := w.last? .outputDir
      lineNumbers := w.has .lineNumbers }

/-- Reads the words behind the name of a command. -/
def readCommand (command : Command) (words : List Text) : Except UsageError Invocation := do
  let w ← takeApart command .none words
  if w.has .help then return { action := .help }
  match firstComplaint? w (w.options.map (·.1)) with
  | some e => .error e
  | none =>
    if w.operands.length > 1 then .error .malformed
    else return { action := ← actionOf command w, verbose := w.has .verbose }

/-- Reads the words of a command line. Without a command it asks for help. -/
def read (words : List Text) : Except UsageError Invocation :=
  let named : List Text → Except UsageError Invocation
    | [] => .ok { action := .help }
    | name :: rest =>
      match Command.all.find? (·.name == name) with
      | some command => readCommand command rest
      | none => .error .malformed
  match words with
  | word :: rest =>
    if word = ['-', '-'] then named rest
    else if word = "--help" then .ok { action := .help }
    else if isOptionWord word then .error .malformed
    else named words
  | [] => named []

end StructForge.CommandLine
