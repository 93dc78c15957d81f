import StructForge.Export
import StructForge.Proofs.FileTree
import StructForge.Proofs.Text.Lines

/-!
# What an export leaves

An export that succeeds leaves a file on the path for the struct, and in it what was to be written
(`find_of_saveGoFile`). One that fails leaves all files as they were (`sameFiles_of_save_error`), except where it fails
for a half of a character: by then the file is open, and empty (`Empties`).
-/

namespace StructForge

open Text

namespace Export

/-! ## The path for a struct -/

theorem parts_ofText (t : Text) :
    (Path.ofText t).parts = (splitOn '/' t).filter fun part => part ≠ [] && part ≠ ['.'] := rfl

/-- The last part of the path has an extension. -/
theorem getLast?_pathFor (directory structName : Text) :
    (pathFor directory structName).parts.getLast? ≠ some ['.', '.'] := by
  have hextension : splitWhere (· == '/') ".go" = [(".go" : Text)] := rfl
  obtain ⟨front, last, _, _, -, hpieces, hsplit⟩ := exists_splitWhere_append (· == '/') (Naming.snake structName) ".go"
  obtain ⟨rfl, rfl⟩ := List.cons.inj (hextension.symm.trans hpieces)
  have hlong {t : Text} (ht : t.length < 3) : last ++ (".go" : Text) ≠ t := by
    rintro rfl
    have hthree : (".go" : Text).length = 3 := rfl
    rw [List.length_append] at ht
    omega
  obtain ⟨others, hparts⟩ : ∃ others, (Path.ofText (Naming.fileName structName)).parts = others ++ [last ++ ".go"] := by
    refine ⟨front.filter fun part => part ≠ [] && part ≠ ['.'], ?_⟩
    have hkept : ((last ++ (".go" : Text) ≠ []) && (last ++ (".go" : Text) ≠ ['.'])) = true := by
      simpa only [decide_eq_true_eq, Bool.and_eq_true] using ⟨hlong (by decide), hlong (by decide)⟩
    rw [parts_ofText, Naming.fileName, splitOn, hsplit, List.filter_append, List.filter_cons, if_pos hkept,
      List.filter_nil]
  have hlast : (pathFor directory structName).parts.getLast? = some (last ++ ".go") := by
    rw [pathFor, Path.append]
    split <;> simp [hparts]
  rw [hlast]
  exact fun h => hlong (by decide) (Option.some.inj h)

/-! ## Saving -/

section

variable {tree tree' : FileTree} {file : Path} {content : Text} {halves : Option Json.Halves}

/-- What is saved has no halves of characters, its path no null characters, and the directories can be made. -/
theorem cases_of_save (h : save tree file content halves = .ok tree') :
    halves = none ∧ hasNull file = false ∧
      ∃ made, tree.makeDirectories file.parent = .ok made ∧ made.writeInPlace file content = .ok tree' := by
  unfold save at h
  split at h
  · cases h
  · split at h
    case h_1 => cases h
    case h_2 made hmade =>
      split at h
      · cases h
      case isFalse hnull =>
        cases halves with
        | none =>
          cases hwrite : made.writeInPlace file content with
          | error fault =>
            rw [hwrite] at h
            cases h
          | ok written =>
            rw [hwrite] at h
            obtain rfl : written = tree' := Except.ok.inj h
            exact ⟨rfl, by simpa using hnull, made, hmade, hwrite⟩
        | some halves =>
          dsimp only at h
          split at h <;> cases h

/-- To open a file for writing changes it: it can be opened, and is not there yet or not empty. -/
def Empties (tree : FileTree) (file : Path) : Prop :=
  hasNull file = false ∧ ∃ made opened, tree.makeDirectories file.parent = .ok made ∧
    made.writeInPlace file [] = .ok opened ∧ ∀ place, made.find file ≠ .ok (.file place [])

theorem hasNull_parent (h : hasNull file = false) : hasNull file.parent = false := by
  simp only [hasNull, Path.parent, List.any_eq_false] at h ⊢
  exact fun part hpart => h part (List.dropLast_subset _ hpart)

/-- Of the files, a failure only changes the one that was to be written, and only for a half of a character. -/
theorem sameFiles_of_save_error {failed : Failed} (hlast : file.parts.getLast? ≠ some ['.', '.'])
    (h : save tree file content halves = .error failed) :
    tree.SameFiles failed.tree ↔ ¬(halves.isSome ∧ Empties tree file) := by
  unfold save at h
  split at h
  case isTrue hnull =>
    cases h
    have hnever : ¬Empties tree file := fun hempties => by simp [hasNull_parent hempties.1] at hnull
    simp [hnever, FileTree.SameFiles.refl]
  case isFalse =>
    split at h
    case h_1 failure hmake =>
      cases h
      have hnever : ¬Empties tree file := fun ⟨_, made, _, hmade, _⟩ => by simp [hmake] at hmade
      simp [hnever, FileTree.sameFiles_reachDirectories]
    case h_2 made hmade =>
      have hsame := FileTree.sameFiles_makeDirectories hmade
      split at h
      case isTrue hnull =>
        cases h
        have hnever : ¬Empties tree file := fun hempties => by simp [hempties.1] at hnull
        simp [hnever, hsame]
      case isFalse hnull =>
        cases halves with
        | none =>
          cases hwrite : made.writeInPlace file content with
          | error fault =>
            rw [hwrite] at h
            obtain rfl : ⟨.refused file ⟨fault, file⟩, made⟩ = failed := Except.error.inj h
            simp [hsame]
          | ok written =>
            rw [hwrite] at h
            cases h
        | some halves =>
          dsimp only at h
          split at h
          case h_1 fault hopen =>
            cases h
            have hnever : ¬Empties tree file := fun ⟨_, made', _, hmade', hopen', _⟩ => by
              obtain rfl : made = made' := by simpa [hmade] using hmade'
              simp [hopen] at hopen'
            simp [hnever, hsame]
          case h_2 opened hopen =>
            cases h
            have hopened : tree.SameFiles opened ↔ made.SameFiles opened :=
              ⟨hsame.symm.trans, hsame.trans⟩
            rw [hopened, FileTree.sameFiles_of_empty_iff hlast hopen]
            simp [Empties, hnull, hmade, hopen]

end

/-! ## Go files -/

section

variable {tree : FileTree} {code structName directory packageName : Text} {imports : List Text}
  {halves : Option Json.Halves}

theorem save_of_saveGoFile {written : Written}
    (h : saveGoFile tree code structName directory packageName imports halves = .ok written) :
    written.file = pathFor directory structName ∧
      save tree written.file (Go.file code packageName imports) halves = .ok written.tree := by
  cases hsave : save tree (pathFor directory structName) (Go.file code packageName imports) halves with
  | error e => simp [saveGoFile, hsave, Except.map] at h
  | ok tree' =>
    obtain rfl : ⟨pathFor directory structName, tree'⟩ = written := by
      simpa [saveGoFile, hsave, Except.map] using h
    exact ⟨rfl, hsave⟩

theorem goFile_of_saveGoFile {written : Written}
    (h : saveGoFile tree code structName directory packageName imports halves = .ok written) :
    goFile tree code structName directory packageName imports = .ok written := by
  obtain ⟨hfile, hsave⟩ := save_of_saveGoFile h
  obtain ⟨rfl, -⟩ := cases_of_save hsave
  rw [goFile, write, ← hfile, hsave]
  rfl

/-- The file that was written is found on the path for the struct, and is the code with its package and imports. -/
theorem find_of_saveGoFile {written : Written}
    (h : saveGoFile tree code structName directory packageName imports halves = .ok written) :
    ∃ place, written.tree.find (pathFor directory structName) =
      .ok (.file place (Utf8.encode (Go.file code packageName imports))) := by
  obtain ⟨hfile, hsave⟩ := save_of_saveGoFile h
  obtain ⟨-, -, made, -, hwrite⟩ := cases_of_save hsave
  rw [hfile] at hwrite
  exact FileTree.find_of_writeInPlace (getLast?_pathFor directory structName) hwrite

theorem sameFiles_of_saveGoFile_error {failed : Failed}
    (h : saveGoFile tree code structName directory packageName imports halves = .error failed) :
    tree.SameFiles failed.tree ↔ ¬(halves.isSome ∧ Empties tree (pathFor directory structName)) := by
  cases hsave : save tree (pathFor directory structName) (Go.file code packageName imports) halves with
  | error e =>
    obtain rfl : e = failed := by simpa [saveGoFile, hsave, Except.map] using h
    exact sameFiles_of_save_error (getLast?_pathFor directory structName) hsave
  | ok tree' => simp [saveGoFile, hsave, Except.map] at h

end

end Export

end StructForge
