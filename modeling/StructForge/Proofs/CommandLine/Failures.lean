import StructForge.Proofs.CommandLine.Conversions

/-!
# What a failing command leaves

A command that converts or inspects and fails has printed nothing. Of the files it changes at most the one that it was
to write: where what was to be written has half of a character in it, that is only found when the file is open, and the
file is left empty (`EmptiesOutput`). In all other cases the files are as they were (`stdout_files_of_fails`). For the
steps of the commands this is `endsClean_inspect` and `sameFiles_of_convert`; `of_fails` carries it over to outcomes.
-/

namespace StructForge.CommandLine

open Text

/-! ## Outcomes -/

/-- A command line fails if its exit code is not zero, or if it does not get as far as that. -/
inductive Outcome.Fails : Outcome → Prop
  | exitCode {output : Output} (h : output.exitCode ≠ 0) : Outcome.Fails (.finished output)
  | usage (error : UsageError) : Outcome.Fails (.usage error)
  | crashed (failure : Failure) : Outcome.Fails (.crashed failure)

instance : (outcome : Outcome) → Decidable outcome.Fails
  | .finished output =>
    if h : output.exitCode = 0 then isFalse fun hfails => by cases hfails; contradiction else isTrue (.exitCode h)
  | .help => isFalse nofun
  | .usage error => isTrue (.usage error)
  | .crashed failure => isTrue (.crashed failure)

/-- What is on standard output in the end; nothing is said of the text of the help. -/
def Outcome.stdout? : Outcome → Option Text
  | .finished output => some output.stdout
  | .help => none
  | .usage _ | .crashed _ => some []

/-- The files in the end. -/
def Outcome.files (before : FileTree) : Outcome → FileTree
  | .finished output => output.files
  | .crashed failure => failure.files before
  | .help | .usage _ => before

section

variable (w : World) (verbose : Bool) (complaint? : Failure → Option Text) {step : Step Product}

/-- A step that succeeds has its text on standard output, without control sequences. -/
theorem outcome_of_ok {product : Product} (h : (step.start []).1 = .ok product) :
    ∃ stderr, outcome w verbose complaint? step =
      .finished ⟨product.exitCode, withoutControlSequences product.stdout, stderr, product.files⟩ := by
  change (step.run.run []).1 = .ok product at h
  unfold outcome
  generalize step.run.run [] = ended at h ⊢
  obtain ⟨result, journal⟩ := ended
  cases h
  exact ⟨_, rfl⟩

/-- A step that fails has nothing on standard output. -/
theorem outcome_of_error {failure : Failure} (h : (step.start []).1 = .error failure) :
    (outcome w verbose complaint? step).Fails ∧ (outcome w verbose complaint? step).stdout? = some [] ∧
      (outcome w verbose complaint? step).files w.files = failure.files w.files := by
  change (step.run.run []).1 = .error failure at h
  unfold outcome
  generalize step.run.run [] = ended at h ⊢
  obtain ⟨result, journal⟩ := ended
  cases h
  dsimp only
  cases complaint? failure with
  | none => exact ⟨.crashed failure, rfl, rfl⟩
  | some complaint => exact ⟨.exitCode Nat.one_ne_zero, rfl, rfl⟩

variable {w verbose complaint?}

/-- An outcome that fails comes of a step that fails, if the exit code is zero otherwise. -/
theorem of_fails (hexit : ∀ product, (step.start []).1 = .ok product → product.exitCode = 0)
    (hfails : (outcome w verbose complaint? step).Fails) :
    ∃ failure, (step.start []).1 = .error failure ∧ (outcome w verbose complaint? step).stdout? = some [] ∧
      (outcome w verbose complaint? step).files w.files = failure.files w.files := by
  cases hstep : (step.start []).1 with
  | error failure => exact ⟨failure, rfl, (outcome_of_error w verbose complaint? hstep).2⟩
  | ok product =>
    obtain ⟨stderr, houtcome⟩ := outcome_of_ok w verbose complaint? hstep
    rw [houtcome] at hfails
    cases hfails with
    | exitCode h => exact absurd (hexit product hstep) h

end

/-- The outcome of a command line that converts. -/
theorem run_convert {w : World} {words : List Text} {input : Option Text} {dialect : Text} {o : ConvertOptions}
    {verbose : Bool} (hread : read words = .ok ⟨.convert input dialect o, verbose⟩) :
    run w words = outcome w verbose Failure.message? (convert w input dialect o) := by
  rw [run, hread]

/-! ## Steps -/

section

variable {w : World} {input : Option Text} {dialect : Text} (journal : List Journal.Entry)

/-- Success with exit code zero, or a failure that leaves the files as they were. -/
def EndsClean (w : World) : Except Failure Product → Prop
  | .ok product => product.exitCode = 0
  | .error failure => failure.files w.files = w.files

theorem endsClean_inspect (format : Format) :
    EndsClean w ((inspect w input dialect format).start journal).1 := by
  rw [inspect, start_input]
  cases readInput w input with
  | error e => rfl
  | ok t =>
    cases (settingsHere w).result with
    | error e => rfl
    | ok s =>
      simp only [start_bind, start_tell]
      cases Conversion.parse t (requestFor dialect) s.documentName with
      | error e => rfl
      | ok parsed =>
        obtain ⟨source, schema, error⟩ := parsed
        cases error with
        | some e => rfl
        | none =>
          simp only [start_require_ok, start_bind]
          cases schemaHalves? t (requestFor dialect) s.documentName format <;> rfl

variable {o : ConvertOptions}

/-- The command that converts opens the file for its result, which changes it, and then finds half of a character in
what it is to write there. -/
def EmptiesFile (w : World) (input : Option Text) (dialect : Text) (o : ConvertOptions) : Prop :=
  ∃ t s r directory, Converts w input dialect o t s r ∧ o.outputDir.filter (!·.isEmpty) = some directory ∧
    (halvesOf t dialect s o (·.file)).isSome ∧ Export.Empties w.files (Export.pathFor directory r.structName)

theorem exitCode_of_convert {product : Product} (h : ((convert w input dialect o).start journal).1 = .ok product) :
    product.exitCode = 0 := by
  by_cases hconverts : ∃ t s r, Converts w input dialect o t s r
  · obtain ⟨t, s, r, hconverts⟩ := hconverts
    cases houtput : o.outputDir.filter (!·.isEmpty) with
    | none =>
      rw [start_convert_print journal hconverts houtput] at h
      split at h <;> cases h
      rfl
    | some directory =>
      rw [start_convert_save journal hconverts houtput] at h
      split at h <;> cases h
      rfl
  · obtain ⟨failure, herror, -⟩ := start_convert_of_not journal hconverts
    rw [herror] at h
    cases h

theorem sameFiles_of_convert {failure : Failure} (h : ((convert w input dialect o).start journal).1 = .error failure) :
    w.files.SameFiles (failure.files w.files) ↔ ¬EmptiesFile w input dialect o := by
  by_cases hconverts : ∃ t s r, Converts w input dialect o t s r
  · obtain ⟨t, s, r, hconverts⟩ := hconverts
    cases houtput : o.outputDir.filter (!·.isEmpty) with
    | none =>
      rw [start_convert_print journal hconverts houtput] at h
      split at h <;> cases h
      refine iff_of_true (.refl w.files) fun ⟨_, _, _, directory, _, hdirectory, _⟩ => ?_
      simp [houtput] at hdirectory
    | some directory =>
      rw [start_convert_save journal hconverts houtput] at h
      split at h <;> cases h
      rename_i failed hsave
      have hempties : EmptiesFile w input dialect o ↔
          (halvesOf t dialect s o (·.file)).isSome ∧
            Export.Empties w.files (Export.pathFor directory r.structName) := by
        refine ⟨fun ⟨t', s', r', directory', hconverts', hdirectory, hempties⟩ => ?_,
          fun hempties => ⟨t, s, r, directory, hconverts, houtput, hempties⟩⟩
        obtain ⟨rfl, rfl, rfl⟩ := hconverts.unique hconverts'
        obtain rfl : directory = directory' := by simpa [houtput] using hdirectory
        exact hempties
      rw [hempties]
      exact Export.sameFiles_of_saveGoFile_error hsave
  · obtain ⟨failure', herror, hfiles⟩ := start_convert_of_not journal hconverts
    obtain rfl : failure' = failure := by simpa [herror] using h
    rw [hfiles]
    exact iff_of_true (.refl w.files) fun ⟨t, s, r, _, hconverts', _⟩ => hconverts ⟨t, s, r, hconverts'⟩

end

/-! ## Command lines -/

/-- Whether an action reads a text as a schema: the commands that convert and inspect do. -/
def Action.readsSchema : Action → Bool
  | .inspect _ _ _ | .convert _ _ _ => true
  | .help | .config _ | .detect _ => false

/-- The command line is one that converts and in doing so empties the file that it is to write. -/
def EmptiesOutput (w : World) (words : List Text) : Prop :=
  ∃ invocation input dialect o, read words = .ok invocation ∧ invocation.action = .convert input dialect o ∧
    EmptiesFile w input dialect o

theorem emptiesOutput_iff {w : World} {words : List Text} {invocation : Invocation}
    (hread : read words = .ok invocation) :
    EmptiesOutput w words ↔
      ∃ input dialect o, invocation.action = .convert input dialect o ∧ EmptiesFile w input dialect o := by
  refine ⟨fun ⟨_, input, dialect, o, hread', hempties⟩ => ?_,
    fun ⟨input, dialect, o, hempties⟩ => ⟨invocation, input, dialect, o, hread, hempties⟩⟩
  obtain rfl := Except.ok.inj (hread.symm.trans hread')
  exact ⟨input, dialect, o, hempties⟩

/-- There is nothing but a document on standard input, with half of a character for a key. -/
def halfKeyWorld : World :=
  { files := {}, environment := [], input := Utf8.encode "\x7b\"\\ud800\": 1\x7d", directory := "/" }

/-- The words for a conversion to a directory. -/
def saveWords : List Text := ["convert", "-o", "out"]

/-- The file for the struct of a document, in that directory. -/
def savedPlace : Path := ⟨"", ["out", "response.go"]⟩

theorem read_saveWords : read saveWords = .ok ⟨.convert none "auto" { outputDir := some "out" }, false⟩ := by
  rfl

theorem fails_halfKey : (run halfKeyWorld saveWords).Fails := by
  decide +kernel

theorem at?_halfKey :
    ((run halfKeyWorld saveWords).files halfKeyWorld.files).at? savedPlace = some (.file []) := by
  decide +kernel

theorem readsSchema_saveWords (invocation : Invocation) (h : read saveWords = .ok invocation) :
    invocation.action.readsSchema := by
  cases read_saveWords.symm.trans h
  rfl

end StructForge.CommandLine
