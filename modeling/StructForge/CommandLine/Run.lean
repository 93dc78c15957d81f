import StructForge.CommandLine.Arguments
import StructForge.Export
import StructForge.Journal.Conversion
import StructForge.Listing
import StructForge.Schema.Record
import StructForge.Settings
import StructForge.Yaml.Printer

/-!
# Running commands

A command works on a `World`: files, an environment and standard input. Its `Outcome` is what it printed, its exit
code and the files as it leaves them. Nothing is printed before a command knows that it succeeds; a failure is told on
standard error behind the journal. It leaves the files as they are, but for directories that were made and a file that
was opened to be written. Results and complaints are printed without control
sequences; the journal and files are written with theirs.
-/

namespace StructForge.CommandLine

open Text

/-- What a command finds. -/
structure World where
  files : FileTree
  /-- The variables of the environment. -/
  environment : List (Text × Text)
  /-- What can be read from standard input. -/
  input : Utf8.Bytes
  /-- The working directory, as the journal shows it. -/
  directory : Text

/-- What a command leaves behind. -/
structure Output where
  exitCode : Nat
  stdout : Text
  stderr : Text
  files : FileTree

/-! ## Failures -/

/-- Why there is no input. -/
inductive InputError where
  | notFound (name : Text)
  | refused (error : PathError)
  | notUtf8 (error : Utf8.Error)
  | empty
  deriving DecidableEq

/-- The complaint about the input. -/
def InputError.message : InputError → Text
  | .notFound name => "Input file not found: " ++ name
  | .refused error => error.message
  | .notUtf8 error => error.message
  | .empty => "Input is empty"

/-- Why a command fails. -/
inductive Failure where
  | input (error : InputError)
  | settings (error : Settings.LoadError)
  | conversion (error : Conversion.Error)
  | export (failed : Export.Failed)

/-- The complaint of a command; none where settings are of a form that no complaint was made for, or something is too
deep. -/
def Failure.message? : Failure → Option Text
  | .input error => some error.message
  | .settings error => error.message?
  | .conversion .tooDeep => none
  | .conversion error => some error.message
  | .export ⟨.tooDeep, _⟩ => none
  | .export failed => some failed.error.message

/-- The files as a failure leaves them. -/
def Failure.files (before : FileTree) : Failure → FileTree
  | .export failed => failed.tree
  | _ => before

/-! ## Outcomes -/

/-- How a command line ends. -/
inductive Outcome where
  | finished (output : Output)
  | help
  | usage (error : UsageError)
  | crashed (failure : Failure)

/-! ## Steps -/

/-- A step of a command: it adds to the journal, and may fail. -/
abbrev Step := ExceptT Failure (StateM (List Journal.Entry))

/-- Adds to the journal. -/
def tell (entries : List Journal.Entry) : Step Unit := modify (· ++ entries)

/-- Fails where a result does. -/
def require {ε α : Type} (failure : ε → Failure) : Except ε α → Step α
  | .ok a => pure a
  | .error e => throw (failure e)

/-- What is written to standard output, and the files as they are then. -/
structure Product where
  stdout : Text
  files : FileTree
  exitCode : Nat := 0

/-- The bytes of the file with that name. -/
def fileBytes (w : World) (name : Text) : Except InputError Utf8.Bytes :=
  if name.contains '\x00' then .error (.notFound name)
  else
    match w.files.find (Path.ofText name) with
    | .ok (.file _ content) => .ok content
    | .error .nameTooLong => .error (.refused ⟨.nameTooLong, Path.ofText name⟩)
    | _ => .error (.notFound name)

/-- The input of a command: a file, or standard input for `-` or without a name. Line ends are newlines, and blank
input is refused. -/
def readInput (w : World) (name : Option Text) : Except InputError Text := do
  let bytes ←
    match name with
    | none => .ok w.input
    | some name => if name = ['-'] then .ok w.input else fileBytes w name
  match Utf8.decode bytes with
  | .error e => .error (.notUtf8 e)
  | .ok t =>
    let t := Utf8.normalizeNewlines t
    if (trim t).isEmpty then .error .empty else .ok t

/-- The settings for a directory; the working directory without a name. -/
def loadSettings (w : World) (directory : Option Text) : Step Settings := do
  let named := directory.filter (!·.isEmpty)
  let path := Path.ofText (named.getD [])
  let shown (file : Text) : Text :=
    match named with
    | some _ => (path.append (Path.ofText file)).text
    | none => w.directory ++ "/" ++ file
  let loaded := Settings.load w.files path shown w.environment
  tell loaded.journal
  require .settings loaded.result

/-- Goes on where nothing that is to be printed is half of a character. -/
def requirePrintable (w : World) (halves : Option Json.Halves) : Step Unit :=
  match halves with
  | none => pure ()
  | some halves => throw (.export ⟨.unencodable halves, w.files⟩)

/-- The request for a dialect that was named on the command line. -/
def requestFor (dialect : Text) : Request := Conversion.requestOfName dialect

/-! ## Commands -/

/-- Prints the settings. -/
def config (w : World) (directory : Option Text) : Step Product := do
  let s ← loadSettings w directory
  let value : Json := .object [
    ("struct_name", Json.ofText? s.structName),
    ("package_name", .string s.packageName),
    ("emit_storage_accessor", .bool s.emitStorageAccessor),
    ("inline_nested_types", .bool s.inlineNestedTypes),
    ("default_json_struct_name", .string s.documentName)]
  return { stdout := Yaml.document value, files := w.files }

/-- Prints the source of the input, and fails for input without one. -/
def detect (w : World) (input : Option Text) : Step Product := do
  let t ← require .input (readInput w input)
  tell (Journal.ofDetection t)
  let source := Detection.detect t
  return { stdout := Source.nameOr source ++ "\n", files := w.files, exitCode := if source.isSome then 0 else 1 }

/-- A schema as it is printed. -/
def Format.print (value : Json) : Format → Text
  | .json => Json.print 0 value ++ "\n"
  | .yaml => Yaml.document value

/-- The halves of characters in the schema of a text as it is printed; YAML has escapes for them. -/
def schemaHalves? (t : Text) (request : Request) (documentName : Text) : Format → Option Json.Halves
  | .yaml => none
  | .json =>
    Json.halvesIn? t fun t =>
      match Conversion.parse t request documentName with
      | .ok (.json, reading) => some (Format.json.print (reading.schema.toJson Source.json.name))
      | _ => none

/-- Prints the schema of the input. -/
def inspect (w : World) (input : Option Text) (dialect : Text) (format : Format) : Step Product := do
  let t ← require .input (readInput w input)
  let s ← loadSettings w none
  let request := requestFor dialect
  tell (Journal.ofParse t request s.documentName)
  let (source, reading) ← require .conversion (Conversion.parse t request s.documentName)
  match reading.error with
  | some e => throw (.conversion (.unreadable e))
  | none =>
    requirePrintable w (schemaHalves? t request s.documentName format)
    return { stdout := format.print (reading.schema.toJson source.name), files := w.files }

/-- The options of the generated code: those of the settings, where the command line does not say otherwise. -/
def codeOptions (s : Settings) (o : ConvertOptions) : Go.Options :=
  { structName := (o.structName.filter (!·.isEmpty)).or s.structName
    packageName := (o.packageName.filter (!·.isEmpty)).getD s.packageName
    emitStorageAccessor := o.tableName.getD s.emitStorageAccessor
    inlineNestedTypes := o.inline.getD s.inlineNestedTypes }

/-- The name for the struct of a JSON document. -/
def documentName (s : Settings) (options : Go.Options) : Text :=
  (options.structName.filter (!·.isEmpty)).getD s.documentName

/-- The code as it is printed. -/
def printed (r : Conversion.Result) (o : ConvertOptions) : Text :=
  let code := Listing.cleanup (if o.asFile then r.file else r.code)
  if o.lineNumbers then Listing.lineNumbers code else code

/-- The halves of characters in what is made of the result of a conversion. -/
def codeHalves? (t : Text) (request : Request) (options : Go.Options) (documentName : Text)
    (shown : Conversion.Result → Text) : Option Json.Halves :=
  Json.halvesIn? t fun t =>
    match Conversion.convert t request options (some documentName) with
    | .ok r => if r.source = .json then some (shown r) else none
    | .error _ => none

/-- Converts the input, and prints the code or writes it to a file. -/
def convert (w : World) (input : Option Text) (dialect : Text) (o : ConvertOptions) : Step Product := do
  let t ← require .input (readInput w input)
  let s ← loadSettings w none
  let options := codeOptions s o
  let request := requestFor dialect
  let name := documentName s options
  tell (Journal.ofParse t request (Conversion.documentName (some name) options))
  let r ← require .conversion (Conversion.convert t request options (some name))
  tell (Journal.ofResult r)
  let halves := codeHalves? t request options name
  match o.outputDir.filter (!·.isEmpty) with
  | none =>
    requirePrintable w (halves fun r => withoutControlSequences (printed r o))
    return { stdout := printed r o ++ "\n", files := w.files }
  | some directory =>
    let written ← require .export
      (Export.saveGoFile w.files r.code r.structName directory r.packageName r.imports (halves (·.file)))
    tell [Journal.ofExport written.file.text]
    return { stdout := "✅ Go file saved to " ++ written.file.text ++ "\n", files := written.tree }

/-! ## What a command asks for -/

/-- Whether an action reads standard input. -/
def Action.readsInput : Action → Bool
  | .help | .config _ => false
  | .detect input | .inspect input _ _ | .convert input _ _ => input.all (· = ['-'])

/-- The files of settings in a directory. -/
def settingsPaths (directory : Path) : List Path :=
  [Settings.projectFileName, Settings.ownFileName].map fun name => directory.append (Path.ofText name)

/-- The paths of the files that an action may read. -/
def Action.readPaths : Action → List Path
  | .help => []
  | .config directory => settingsPaths (Path.ofText (directory.getD []))
  | .detect input => (input.map Path.ofText).toList
  | .inspect input _ _ | .convert input _ _ => (input.map Path.ofText).toList ++ settingsPaths (Path.ofText [])

/-! ## Command lines -/

/-- The complaint of `config`, which only knows of values that do not fit. -/
def valueComplaint? : Failure → Option Text
  | .settings (.value error) => some error.message
  | _ => none

/-- The outcome of a step with its journal, where `complaint?` gives the complaint about a failure. A failure without
one is a crash. -/
def outcome (w : World) (verbose : Bool) (complaint? : Failure → Option Text) (step : Step Product) : Outcome :=
  let (result, journal) := step.run.run []
  let stderr := Journal.render verbose journal
  match result with
  | .ok product => .finished ⟨product.exitCode, withoutControlSequences product.stdout, stderr, product.files⟩
  | .error failure =>
    match complaint? failure with
    | some complaint =>
      .finished ⟨1, [], stderr ++ "Error: " ++ withoutControlSequences complaint ++ "\n", failure.files w.files⟩
    | none => .crashed failure

/-- Runs a command line. -/
def run (w : World) (words : List Text) : Outcome :=
  match read words with
  | .error e => .usage e
  | .ok invocation =>
    match invocation.action with
    | .help => .help
    | .config directory => outcome w invocation.verbose valueComplaint? (config w directory)
    | .detect input => outcome w invocation.verbose Failure.message? (detect w input)
    | .inspect input dialect format =>
      outcome w invocation.verbose Failure.message? (inspect w input dialect format)
    | .convert input dialect o => outcome w invocation.verbose Failure.message? (convert w input dialect o)

end StructForge.CommandLine
