import StructForge.Proofs.CommandLine.Options
import StructForge.Proofs.Settings.Loading
import StructForge.Proofs.Settings.Merging

/-!
# What settings come from

The source of the settings is the section of the project file where it has one, and the file of their own otherwise,
never both (`sourceOf`). Over it goes the environment: for every setting there is one value that counts, if any
(`effective?`). Loading succeeds exactly if all of these fit, and then the settings are made of them and of nothing else
(`FollowsPrecedence`), so that other names and the order of the source do not matter. It fails with a complaint
otherwise, unless the value that the complaint is about cannot be shown (`load_followsPrecedence`).

The command that converts takes an option from its flag where that is given, and from the settings otherwise.
-/

namespace StructForge.Settings

open Text

/-! ## The source -/

/-- The section of a project file for these settings. -/
def section? : FileResult → Option Toml.Entries
  | .document document =>
    match document.lookup ("tool" : Text) with
    | some (.table tools) =>
      match tools.lookup ("structify" : Text) with
      | some (.table entries) => some entries
      | _ => none
    | _ => none
  | .absent | .unreadable => none

/-- Whether `tool`, and the section in it, are tables where a project file has them. -/
def tablesWhereGiven : FileResult → Bool
  | .document document =>
    match document.lookup ("tool" : Text) with
    | none => true
    | some (.table tools) =>
      match tools.lookup ("structify" : Text) with
      | none | some (.table _) => true
      | some _ => false
    | some _ => false
  | .absent | .unreadable => true

/-- What the two files have for the settings. -/
def sourceOf (project own : FileResult) : Toml.Entries :=
  match section? project, own with
  | some entries, _ => entries
  | none, .document entries => entries
  | none, .absent | none, .unreadable => []

/-- Where tables are given, the section is what loading looks for. -/
theorem sectionIn_eq {project : FileResult} (h : tablesWhereGiven project = true) :
    sectionIn project = .ok ((section? project).map .table) := by
  cases project with
  | absent | unreadable => rfl
  | document document =>
    revert h
    dsimp only [tablesWhereGiven, sectionIn, sectionOf?, section?]
    cases document.lookup ("tool" : Text) with
    | none => exact fun _ => rfl
    | some tool =>
      cases tool with
      | table tools =>
        dsimp only
        cases tools.lookup ("structify" : Text) with
        | none => exact fun _ => rfl
        | some found =>
          intro h
          cases found with
          | table entries => rfl
          | _ => cases h
      | _ =>
        intro h
        cases h

/-- What is read from a file has distinct keys. -/
theorem areKeyed_of_readFile {tree : FileTree} {p : Path} {document : Toml.Entries}
    (h : readFile tree p = .ok (.document document)) : Toml.AreKeyed document := by
  rw [readFile] at h
  repeat' split at h
  all_goals cases h
  rename_i hread
  exact Toml.areKeyed_of_read hread

theorem areKeyed_section {document entries : Toml.Entries} (h : Toml.AreKeyed document)
    (hsection : section? (.document document) = some entries) : Toml.AreKeyed entries := by
  simp only [section?] at hsection
  split at hsection
  · rename_i tools htools
    split at hsection
    · rename_i found hfound
      cases hsection
      exact Toml.areKeyed_of_table ((Toml.areKeyed_of_table (h.lookup htools)).lookup hfound)
    · cases hsection
  · cases hsection

section Files

variable {tree : FileTree} {directory : Path} {project own : FileResult}
  (hown : readFile tree (ownPath directory) = .ok own)
include hown

/-- The source has distinct names. -/
theorem nodup_sourceOf (hproject : readFile tree (projectPath directory) = .ok project) :
    ((sourceOf project own).map (·.1)).Nodup := by
  unfold sourceOf
  split
  · rename_i entries hsection
    cases project with
    | document document => exact (areKeyed_section (areKeyed_of_readFile hproject) hsection).keys
    | absent | unreadable => cases hsection
  · exact (areKeyed_of_readFile hown).keys
  · exact List.nodup_nil
  · exact List.nodup_nil

/-- The file that is chosen is the source. -/
theorem chosen_eq_sourceOf (hproject : readFile tree (projectPath directory) = .ok project)
    (htables : tablesWhereGiven project = true) : chosen tree directory = .ok (.table (sourceOf project own)) := by
  rw [chosen, hproject, hown, Except.bind, sectionIn_eq htables]
  unfold sourceOf
  cases section? project with
  | some entries => rfl
  | none => cases own <;> rfl

end Files

/-! ## Loading -/

/-- Texts as names can be shown. -/
theorem obstacle_warnings {names : List Value} (h : ∀ name ∈ names, ∃ t, name = .string t) :
    (warnings names).2 = none := by
  induction names with
  | nil => rfl
  | cons name rest ih =>
    rw [List.forall_mem_cons] at h
    obtain ⟨⟨t, rfl⟩, hrest⟩ := h
    have hshown : (Value.string t).obstacle? = none := rfl
    rw [warnings, hshown]
    exact ih hrest

/-- What comes of loading, where the chosen file is a source. -/
theorem result_load {tree : FileTree} {directory : Path} {source : Toml.Entries}
    (hchosen : chosen tree directory = .ok (.table source)) (hsource : (source.map (·.1)).Nodup) (shown : Text → Text)
    (environment : List (Text × Text)) :
    (load tree directory shown environment).result =
      match firstMisfit? source environment with
      | some e => .error (.ofValueError e)
      | none => .ok (ofValues (effective? source environment)) := by
  have hentries : entriesOf (.table source) = .ok (entriesOfNamed source) := rfl
  have hunknown : (warnings (Settings.apply {} (merge (entriesOfNamed source) (ofEnvironment environment))).1).2 =
      none := by
    rw [ofEnvironment_eq, merge_entriesOfNamed]
    exact obstacle_warnings (unknown_apply _ _)
  rw [result_load_eq, hchosen, Except.bind, hentries, Except.bind, outcome, hunknown]
  dsimp only
  rw [result_apply_merge source environment hsource]
  cases firstMisfit? source environment <;> rfl

/-- The settings that are set are those with a value that counts. -/
theorem mem_settingOrder {source : Toml.Entries} {environment : List (Text × Text)} {key : Key} :
    key ∈ settingOrder source environment ↔ effective? source environment key ≠ none := by
  have hsource : key ∈ source.filterMap (Key.ofName? ·.1) ↔ source.lookup key.name ≠ none := by
    rw [Ne, Json.lookup_eq_none_iff_not_mem, not_not]
    simp [Key.ofName?_eq_some_iff]
  rw [settingOrder, List.mem_append, hsource, effective?, List.mem_filter, isSet]
  cases environment.lookup key.variable <;> cases source.lookup key.name <;> simp [Key.mem_all]

/-- No value is complained about exactly if all values that count fit. -/
theorem firstMisfit?_eq_none_iff {source : Toml.Entries} {environment : List (Text × Text)} :
    firstMisfit? source environment = none ↔
      ∀ key, ∀ value ∈ effective? source environment key, key.misfit? value = none := by
  rw [firstMisfit?, List.findSome?_eq_none_iff]
  constructor
  · intro h key value hvalue
    have hmem : key ∈ settingOrder source environment :=
      mem_settingOrder.mpr (Option.ne_none_iff_exists'.mpr ⟨value, hvalue⟩)
    have hfits := h key hmem
    rwa [hvalue] at hfits
  · intro h key _
    cases hvalue : effective? source environment key with
    | none => rfl
    | some value => exact h key value hvalue

/-- The settings that come of a source and the environment. -/
structure FollowsPrecedence (source : Toml.Entries) (environment : List (Text × Text))
    (result : Except LoadError Settings) : Prop where
  /-- Loading succeeds exactly if every value that counts fits. -/
  succeeds : (∃ s, result = .ok s) ↔
    ∀ key, ∀ value ∈ effective? source environment key, key.misfit? value = none
  /-- The settings are made of the values that count. -/
  settings : ∀ s, result = .ok s → s = ofValues (effective? source environment)
  /-- The complaint is about the first value that does not fit, if that can be shown. -/
  complains : ∀ e, result = .error (.value e) ↔
    firstMisfit? source environment = some e ∧ e.obstacle? = none
  /-- The order of the source does not matter. -/
  anyOrder : ∀ source' : Toml.Entries, source'.Perm source →
    effective? source' environment = effective? source environment

theorem followsPrecedence_of_result {source : Toml.Entries} {environment : List (Text × Text)}
    {result : Except LoadError Settings} (hsource : (source.map (·.1)).Nodup)
    (h : result = match firstMisfit? source environment with
      | some e => .error (.ofValueError e)
      | none => .ok (ofValues (effective? source environment))) :
    FollowsPrecedence source environment result := by
  subst h
  refine ⟨?_, ?_, ?_, fun source' hperm => ?_⟩
  · rw [← firstMisfit?_eq_none_iff]
    cases firstMisfit? source environment with
    | none => exact iff_of_true ⟨_, rfl⟩ rfl
    | some e => exact iff_of_false (by simp) (by simp)
  · intro s hs
    cases hmisfit : firstMisfit? source environment with
    | none =>
      rw [hmisfit] at hs
      exact (Except.ok.inj hs).symm
    | some e =>
      rw [hmisfit] at hs
      cases hs
  · intro e
    cases firstMisfit? source environment with
    | none => exact iff_of_false (by simp) (by simp)
    | some e' =>
      dsimp only
      rw [LoadError.ofValueError]
      cases hobstacle : e'.obstacle? with
      | none =>
        constructor
        · intro hsame
          cases hsame
          exact ⟨rfl, hobstacle⟩
        · rintro ⟨hsame, -⟩
          cases hsame
          rfl
      | some obstacle =>
        refine iff_of_false (fun hsame => by cases obstacle <;> cases hsame) ?_
        rintro ⟨hsame, hnone⟩
        cases hsame
        rw [hobstacle] at hnone
        cases hnone
  · funext key
    rw [effective?, effective?, Json.lookup_perm hperm hsource]

/-! ## Precedence -/

/-- Where both files can be read and have tables where these belong, the settings follow the precedence of environment,
source and defaults; and the command that converts, once it has its settings, puts its flags before them. -/
theorem load_followsPrecedence {tree : FileTree} {directory : Path} {project own : FileResult}
    (hproject : readFile tree (projectPath directory) = .ok project)
    (hown : readFile tree (ownPath directory) = .ok own) (htables : tablesWhereGiven project = true)
    (shown : Text → Text) (environment : List (Text × Text)) :
    FollowsPrecedence (sourceOf project own) environment (load tree directory shown environment).result ∧
    ∀ {w : CommandLine.World} {input : Option Text} {t : Text} {s : Settings},
      CommandLine.readInput w input = .ok t → (CommandLine.settingsHere w).result = .ok s →
      ∀ dialect o journal, ∃ used document, CommandLine.FlagsFirst s o used document ∧
        CommandLine.IsMadeWith w t dialect o used document
          ((CommandLine.convert w input dialect o).start journal).1 :=
  ⟨followsPrecedence_of_result (nodup_sourceOf hown hproject)
    (result_load (chosen_eq_sourceOf hown hproject htables) (nodup_sourceOf hown hproject) shown environment),
    fun hinput hsettings dialect o journal => ⟨_, _, CommandLine.flagsFirst_codeOptions _ o,
      CommandLine.isMadeWith_convert hinput hsettings dialect o journal⟩⟩

/-- A project file whose section has a value that does not fit, and a file that has only settings. -/
def entityTree : FileTree where
  entries := [
    (⟨"", ["pyproject.toml"]⟩,
      .file (Utf8.encode "[tool.structify]\npackage_name = \"entity\"\ninline_nested_types = 3\n")),
    (⟨"", ["structify.toml"]⟩, .file (Utf8.encode "struct_name = \"Thing\"\n"))]

/-- The environment hides the value that does not fit, and the file that has only settings is not looked at. -/
theorem load_entityTree :
    ∃ project own, FollowsPrecedence (sourceOf project own) [("STRUCTIFY_INLINE_NESTED_TYPES", "no")]
        (load entityTree ⟨"", []⟩ id [("STRUCTIFY_INLINE_NESTED_TYPES", "no")]).result ∧
      (sourceOf project own).map (·.1) = (["package_name", "inline_nested_types"] : List Text) ∧
      (load entityTree ⟨"", []⟩ id [("STRUCTIFY_INLINE_NESTED_TYPES", "no")]).result.toOption =
        some { packageName := "entity", inlineNestedTypes := false } := by
  have hproject : (readFile entityTree (projectPath ⟨"", []⟩)).toOption.map
      (fun p => (tablesWhereGiven p, (section? p).map (·.map (·.1)))) =
      some (true, some (["package_name", "inline_nested_types"] : List Text)) := by decide +kernel
  have hown : (readFile entityTree (ownPath ⟨"", []⟩)).toOption.isSome = true := by decide +kernel
  obtain ⟨project, hproject, hpair⟩ := exists_ok_of_toOption hproject
  obtain ⟨htables, hsection⟩ := Prod.mk.inj hpair
  obtain ⟨entries, hentries, hnames⟩ := Option.map_eq_some_iff.mp hsection
  cases hread : readFile entityTree (ownPath ⟨"", []⟩) with
  | error e =>
    rw [hread] at hown
    cases hown
  | ok own =>
    refine ⟨project, own, (load_followsPrecedence hproject hread htables id _).1, ?_, by decide +kernel⟩
    have hsource : sourceOf project own = entries := by simp only [sourceOf, hentries]
    rw [hsource, hnames]

/-- A number of more digits than may be written, as the value of a switch. -/
def longNumberText : Text := ("inline_nested_types = 0x1" : Text) ++ List.replicate 3600 '0' ++ ['\n']

/-- A file of settings with that number. -/
def longNumberTree : FileTree where
  entries := [(⟨"", ["structify.toml"]⟩, .file (Utf8.encode longNumberText))]

/-- The value does not fit its setting, but there is no complaint about it. -/
theorem not_complains_longNumber :
    ∃ own value, readFile longNumberTree (projectPath ⟨"", []⟩) = .ok .absent ∧
      readFile longNumberTree (ownPath ⟨"", []⟩) = .ok own ∧
      effective? (sourceOf .absent own) [] .inlineNestedTypes = some value ∧
      Key.inlineNestedTypes.misfit? value ≠ none ∧
      ¬∃ e, (load longNumberTree ⟨"", []⟩ id []).result = .error (.value e) := by
  have hproject : longNumberTree.find (projectPath ⟨"", []⟩) = .ok (.missing ⟨"", []⟩ [projectFileName]) := by
    decide +kernel
  have hown : (readFile longNumberTree (ownPath ⟨"", []⟩)).toOption.map (fun own =>
      (effective? (sourceOf .absent own) [] .inlineNestedTypes).map fun value =>
        (Key.inlineNestedTypes.misfit? value).isSome) = some (some true) := by decide +kernel
  have hresult : (complaint? (load longNumberTree ⟨"", []⟩ id []).result).isNone = true := by decide +kernel
  obtain ⟨own, hread, hvalue⟩ := exists_ok_of_toOption hown
  obtain ⟨value, hvalue, hmisfit⟩ := Option.map_eq_some_iff.mp hvalue
  refine ⟨own, value, ?_, hread, hvalue, Option.isSome_iff_ne_none.mp hmisfit, ?_⟩
  · rw [readFile, hproject]
  · rintro ⟨e, he⟩
    rw [he] at hresult
    cases hresult

end StructForge.Settings
