import StructForge.Proofs.CommandLine.Steps
import StructForge.Proofs.Export

/-!
# The options of a conversion

The command that converts takes an option from its flag where that is given, and from the settings otherwise
(`FlagsFirst`). From there on it looks at neither again: what it leaves, and the complaint it ends with, are those of a
conversion with the options that come of them (`isMadeWith_convert`).
-/

namespace StructForge.CommandLine

open Text

/-! ## Flags -/

/-- What is used is the flag where one is given that counts, and the setting otherwise. -/
def IsFlagOr {α : Type} (counts : α → Prop) (flag : Option α) (setting used : α) : Prop :=
  (∀ a, flag = some a → counts a → used = a) ∧ ((∀ a, flag = some a → ¬counts a) → used = setting)

/-- The options of a conversion are its flags where they are given, which a name is not if it is empty. The struct of a
document has the name that is used for structs, if there is one. -/
structure FlagsFirst (s : Settings) (o : ConvertOptions) (used : Go.Options) (document : Text) : Prop where
  structName : IsFlagOr (· ≠ some []) (o.structName.map some) s.structName used.structName
  packageName : IsFlagOr (· ≠ []) o.packageName s.packageName used.packageName
  emitStorageAccessor : IsFlagOr (fun _ => True) o.tableName s.emitStorageAccessor used.emitStorageAccessor
  inlineNestedTypes : IsFlagOr (fun _ => True) o.inline s.inlineNestedTypes used.inlineNestedTypes
  document : IsFlagOr (· ≠ []) used.structName s.documentName document

theorem isFlagOr_getD {α : Type} (flag : Option α) (setting : α) :
    IsFlagOr (fun _ => True) flag setting (flag.getD setting) := by
  cases flag with
  | none => exact ⟨nofun, fun _ => rfl⟩
  | some a => exact ⟨fun b hb _ => Option.some.inj hb, fun h => absurd trivial (h a rfl)⟩

/-- A name counts if it is not empty. -/
theorem isFlagOr_filter (flag : Option Text) (setting : Text) :
    IsFlagOr (· ≠ []) flag setting ((flag.filter (!·.isEmpty)).getD setting) := by
  rcases flag with _ | _ | ⟨c, t⟩ <;> simp [IsFlagOr, Option.filter]

theorem flagsFirst_codeOptions (s : Settings) (o : ConvertOptions) :
    FlagsFirst s o (codeOptions s o) (documentName s (codeOptions s o)) where
  structName := by
    rw [codeOptions]
    rcases o.structName with _ | _ | ⟨c, t⟩ <;> simp [IsFlagOr, Option.filter]
  packageName := isFlagOr_filter _ _
  emitStorageAccessor := isFlagOr_getD _ _
  inlineNestedTypes := isFlagOr_getD _ _
  document := isFlagOr_filter _ _

/-! ## The command -/

/-- The settings that a command loads where it does not ask for those of a directory. -/
def settingsHere (w : World) : Settings.Loaded Settings :=
  Settings.load w.files (Path.ofText []) (fun file => w.directory ++ "/" ++ file) w.environment

theorem start_loadSettings {w : World} {s : Settings} (h : (settingsHere w).result = .ok s)
    (journal : List Journal.Entry) :
    (loadSettings w none).start journal = (.ok s, journal ++ (settingsHere w).journal) := by
  rw [settingsHere] at h ⊢
  simp only [loadSettings, Option.filter, Option.getD, start_bind, start_tell, h, start_require_ok]

/-- What a command leaves of the result of a conversion: the code on standard output, or in a file. -/
def IsProductOf (w : World) (o : ConvertOptions) (r : Conversion.Result) (product : Product) : Prop :=
  match o.outputDir.filter (!·.isEmpty) with
  | none => product.stdout = printed r o ++ "\n"
  | some directory =>
    ∃ written, Export.goFile w.files r.code r.structName directory r.packageName r.imports = .ok written ∧
      product.files = written.tree

/-- What the command comes to that converts a text with some options and a name for the struct of a document. -/
structure IsMadeWith (w : World) (t dialect : Text) (o : ConvertOptions) (used : Go.Options) (document : Text)
    (result : Except Failure Product) : Prop where
  product : ∀ product, result = .ok product → ∃ r,
    Conversion.convert t (requestFor dialect) used (some document) = .ok r ∧ IsProductOf w o r product
  error : ∀ e, result = .error (.conversion e) →
    Conversion.convert t (requestFor dialect) used (some document) = .error e

theorem isMadeWith_convert {w : World} {input : Option Text} {t : Text} {s : Settings}
    (hinput : readInput w input = .ok t) (hsettings : (settingsHere w).result = .ok s) (dialect : Text)
    (o : ConvertOptions) (journal : List Journal.Entry) :
    IsMadeWith w t dialect o (codeOptions s o) (documentName s (codeOptions s o))
      ((convert w input dialect o).start journal).1 := by
  simp only [convert, hinput, start_bind, start_require_ok, start_loadSettings hsettings, start_tell]
  cases hconvert : Conversion.convert t (requestFor dialect) (codeOptions s o)
      (some (documentName s (codeOptions s o))) with
  | error e =>
    simp only [start_require_error]
    exact ⟨nofun, fun e' he => by cases he; exact hconvert⟩
  | ok r =>
    simp only [start_require_ok]
    cases ho : o.outputDir.filter (!·.isEmpty) with
    | none =>
      dsimp only
      rw [start_bind]
      cases codeHalves? t (requestFor dialect) (codeOptions s o) (documentName s (codeOptions s o))
          fun r => withoutControlSequences (printed r o) with
      | some halves => exact ⟨nofun, nofun⟩
      | none =>
        refine ⟨fun product hproduct => ⟨r, hconvert, ?_⟩, nofun⟩
        cases hproduct
        simp [IsProductOf, ho]
    | some directory =>
      dsimp only
      rw [start_bind]
      cases hexport : Export.saveGoFile w.files r.code r.structName directory r.packageName r.imports
          (codeHalves? t (requestFor dialect) (codeOptions s o) (documentName s (codeOptions s o)) (·.file)) with
      | error e => exact ⟨nofun, nofun⟩
      | ok written =>
        refine ⟨fun product hproduct => ⟨r, hconvert, ?_⟩, nofun⟩
        cases hproduct
        simp [IsProductOf, ho, Export.goFile_of_saveGoFile hexport]

end StructForge.CommandLine
