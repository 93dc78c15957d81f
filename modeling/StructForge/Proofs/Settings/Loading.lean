import StructForge.Settings

/-!
# The steps of loading

What comes of loading is what comes of its steps one after another (`result_load_eq`): the two files are read, one of
them is chosen, what it has is taken as entries (`chosen`, `result_fileEntries_eq`), and the entries are set
(`outcome`). The journal is left aside here.
-/

namespace StructForge.Settings

open Text

/-! ## The chosen file -/

/-- The place of the project file. -/
def projectPath (directory : Path) : Path := directory.append (Path.ofText projectFileName)

/-- The place of the file that has only settings. -/
def ownPath (directory : Path) : Path := directory.append (Path.ofText ownFileName)

/-- The section for these settings in what was read of a project file. -/
def sectionIn : FileResult → Except LoadError (Option Value)
  | .document document => sectionOf? document
  | .absent | .unreadable => .ok none

/-- What was read of a file that has only settings, as a value. -/
def wholeOf : FileResult → Value
  | .document entries => .table entries
  | .absent | .unreadable => .table []

/-- The value that the entries are taken from. -/
def chosen (tree : FileTree) (directory : Path) : Except LoadError Value :=
  (readFile tree (projectPath directory)).bind fun project =>
    (sectionIn project).bind fun
      | some source => .ok source
      | none => (readFile tree (ownPath directory)).bind fun own => .ok (wholeOf own)

theorem result_ownFileEntries_eq (tree : FileTree) (directory : Path) (shown : Text → Text)
    (journal : List Journal.Entry) : (ownFileEntries tree directory shown journal).result =
      (readFile tree (ownPath directory)).bind fun own => entriesOf (wholeOf own) := by
  rw [ownFileEntries, ownPath]
  cases readFile tree (directory.append (Path.ofText ownFileName)) with
  | error e => rfl
  | ok own => cases own <;> rfl

theorem result_fileEntries_eq (tree : FileTree) (directory : Path) (shown : Text → Text) :
    (fileEntries tree directory shown).result = (chosen tree directory).bind entriesOf := by
  have hown : ∀ journal, (ownFileEntries tree directory shown journal).result =
      ((readFile tree (ownPath directory)).bind fun own => .ok (wholeOf own)).bind entriesOf := by
    intro journal
    rw [result_ownFileEntries_eq]
    cases readFile tree (ownPath directory) <;> rfl
  rw [fileEntries, chosen, projectPath]
  cases readFile tree (directory.append (Path.ofText projectFileName)) with
  | error e => rfl
  | ok project =>
    cases project with
    | absent | unreadable => exact hown _
    | document document =>
      simp only [Except.bind, sectionIn]
      cases sectionOf? document with
      | error e => rfl
      | ok source =>
        cases source with
        | none => exact hown []
        | some source => rfl

/-! ## Setting the entries -/

/-- What comes of the settings, and of the warnings about the names that mean nothing. -/
def outcome : List Value × Except ValueError Settings → Except LoadError Settings
  | (unknown, result) =>
    match (warnings unknown).2 with
    | some obstacle => .error (.ofObstacle obstacle)
    | none => result.mapError .ofValueError

theorem outcome_cons (name : Value) (unknown : List Value) (result : Except ValueError Settings) :
    outcome (name :: unknown, result) =
      match name.obstacle? with
      | some obstacle => .error (.ofObstacle obstacle)
      | none => outcome (unknown, result) := by
  rw [outcome, warnings]
  cases name.obstacle? <;> rfl

theorem result_load_eq (tree : FileTree) (directory : Path) (shown : Text → Text) (environment : List (Text × Text)) :
    (load tree directory shown environment).result =
      ((chosen tree directory).bind entriesOf).bind fun entries =>
        outcome (apply {} (merge entries (ofEnvironment environment))) := by
  rw [load, ← result_fileEntries_eq tree directory shown]
  cases (fileEntries tree directory shown).result <;> rfl

/-- The complaint about a value that loading ends with. -/
def complaint? : Except LoadError Settings → Option ValueError
  | .error (.value e) => some e
  | _ => none

end StructForge.Settings
