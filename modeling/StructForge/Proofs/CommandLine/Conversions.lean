import StructForge.Proofs.CommandLine.Options

/-!
# The commands that read a schema

A command that converts or inspects starts with its input and the settings (`start_input`). One that converts then has a
result (`Converts`), or fails and leaves all files alone (`start_convert_of_not`). From a result it goes on in one of
two ways: the code is printed (`start_convert_print`) or saved (`start_convert_save`).
-/

namespace StructForge.CommandLine

open Text

variable {w : World} {input : Option Text} {dialect : Text} {o : ConvertOptions} (journal : List Journal.Entry)

/-! ## The input and the settings -/

theorem start_loadSettings_error {e : Settings.LoadError} (h : (settingsHere w).result = .error e) :
    ((loadSettings w none).start journal).1 = .error (.settings e) := by
  rw [settingsHere] at h
  simp only [loadSettings, Option.filter, Option.getD, start_bind, start_tell, h, start_require_error]

/-- A step that starts with the input and the settings fails to get one of them, or comes to what the rest comes to. -/
theorem start_input {next : Text → Settings → Step Product} :
    ((do let t ← require .input (readInput w input); let s ← loadSettings w none; next t s).start journal).1 =
      match readInput w input, (settingsHere w).result with
      | .error e, _ => .error (.input e)
      | .ok _, .error e => .error (.settings e)
      | .ok t, .ok s => ((next t s).start (journal ++ (settingsHere w).journal)).1 := by
  rw [start_bind]
  cases hinput : readInput w input with
  | error e => rfl
  | ok t =>
    rw [start_require_ok]
    cases hsettings : (settingsHere w).result with
    | error e => exact start_bind_of_error journal (start_loadSettings_error journal hsettings) (next t)
    | ok s =>
      dsimp only
      rw [start_bind, start_loadSettings hsettings]

/-! ## The result of a conversion -/

/-- The command that converts has a result: of this text, under these settings. -/
structure Converts (w : World) (input : Option Text) (dialect : Text) (o : ConvertOptions) (t : Text) (s : Settings)
    (r : Conversion.Result) : Prop where
  input : readInput w input = .ok t
  settings : (settingsHere w).result = .ok s
  result : Conversion.convert t (requestFor dialect) (codeOptions s o) (some (documentName s (codeOptions s o))) = .ok r

/-- There is only one result. -/
theorem Converts.unique {t t' : Text} {s s' : Settings} {r r' : Conversion.Result}
    (h : Converts w input dialect o t s r) (h' : Converts w input dialect o t' s' r') : t = t' ∧ s = s' ∧ r = r' := by
  obtain rfl : t = t' := Except.ok.inj (h.input.symm.trans h'.input)
  obtain rfl : s = s' := Except.ok.inj (h.settings.symm.trans h'.settings)
  exact ⟨rfl, rfl, Except.ok.inj (h.result.symm.trans h'.result)⟩

/-- Without a result the command fails, and leaves all files alone. -/
theorem start_convert_of_not (h : ¬∃ t s r, Converts w input dialect o t s r) :
    ∃ failure, ((convert w input dialect o).start journal).1 = .error failure ∧
      ∀ before, failure.files before = before := by
  rw [convert, start_input]
  cases hinput : readInput w input with
  | error e => exact ⟨_, rfl, fun _ => rfl⟩
  | ok t =>
    cases hsettings : (settingsHere w).result with
    | error e => exact ⟨_, rfl, fun _ => rfl⟩
    | ok s =>
      cases hconvert : Conversion.convert t (requestFor dialect) (codeOptions s o)
          (some (documentName s (codeOptions s o))) with
      | error e =>
        simp only [start_bind, start_tell, hconvert, start_require_error]
        exact ⟨_, rfl, fun _ => rfl⟩
      | ok r => exact absurd ⟨t, s, r, hinput, hsettings, hconvert⟩ h

section

variable {t : Text} {s : Settings} {r : Conversion.Result} (h : Converts w input dialect o t s r)

/-- The halves of characters in what is made of the text, as the command sees them. -/
def halvesOf (t dialect : Text) (s : Settings) (o : ConvertOptions) (shown : Conversion.Result → Text) :
    Option Json.Halves :=
  codeHalves? t (requestFor dialect) (codeOptions s o) (documentName s (codeOptions s o)) shown

include h

/-- Code that is not to be saved is printed, if it has no half of a character. -/
theorem start_convert_print (houtput : o.outputDir.filter (!·.isEmpty) = none) :
    ((convert w input dialect o).start journal).1 =
      match halvesOf t dialect s o fun r => withoutControlSequences (printed r o) with
      | none => .ok { stdout := printed r o ++ "\n", files := w.files }
      | some halves => .error (.export ⟨.unencodable halves, w.files⟩) := by
  rw [convert, start_input, h.input, h.settings]
  simp only [start_bind, start_tell, h.result, start_require_ok, houtput, halvesOf]
  cases codeHalves? t (requestFor dialect) (codeOptions s o) (documentName s (codeOptions s o))
    fun r => withoutControlSequences (printed r o) <;> rfl

/-- Code that is to be saved is saved. -/
theorem start_convert_save {directory : Text} (houtput : o.outputDir.filter (!·.isEmpty) = some directory) :
    ((convert w input dialect o).start journal).1 =
      match Export.saveGoFile w.files r.code r.structName directory r.packageName r.imports
        (halvesOf t dialect s o (·.file)) with
      | .ok written => .ok { stdout := "✅ Go file saved to " ++ written.file.text ++ "\n", files := written.tree }
      | .error failed => .error (.export failed) := by
  rw [convert, start_input, h.input, h.settings]
  simp only [start_bind, start_tell, h.result, start_require_ok, houtput, halvesOf]
  cases Export.saveGoFile w.files r.code r.structName directory r.packageName r.imports
    (codeHalves? t (requestFor dialect) (codeOptions s o) (documentName s (codeOptions s o)) (·.file)) <;> rfl

end

end StructForge.CommandLine
