import StructForge.Proofs.Settings.Loading
import StructForge.Proofs.Settings.Merging

/-!
# How settings fail to load

Loading is settled if it ends with settings or with a complaint about a value (`IsSettled`). Its steps are taken one
after another: the two files are read, one of them is chosen (`chosen`), what it has is taken as entries, and the
entries are set. A step after another is settled if both are (`isSettled_bind`), so there is one lemma about each step,
and together they list the ways in which loading breaks off with something else (`Breaks`).

A directory in the place of a file and a file that is not TOML are none of these: such a file is passed over with a
warning, as if it were not there (`PassesOver`).
-/

namespace StructForge.Settings

open Text

/-- Whether the result of a step is there, or a complaint about a value. -/
def IsSettled {α : Type} (result : Except LoadError α) : Prop :=
  (∃ a, result = .ok a) ∨ ∃ e, result = .error (.value e)

theorem isSettled_ok {α : Type} (a : α) : IsSettled (.ok a) := .inl ⟨a, rfl⟩

theorem isSettled_error_iff {α : Type} {e : LoadError} :
    IsSettled (.error e : Except LoadError α) ↔ ∃ v, e = .value v := by
  simp [IsSettled]

theorem isSettled_bind {α β : Type} {first : Except LoadError α} {next : α → Except LoadError β} :
    IsSettled (first.bind next) ↔ IsSettled first ∧ ∀ a, first = .ok a → IsSettled (next a) := by
  cases first with
  | error e =>
    rw [Except.bind, isSettled_error_iff, isSettled_error_iff]
    simp
  | ok a =>
    refine ⟨fun h => ⟨isSettled_ok a, fun b hb => ?_⟩, fun h => h.2 a rfl⟩
    cases hb
    exact h

/-! ## Reading a file -/

/-- The files at which reading breaks off. -/
inductive BreaksReading (tree : FileTree) (p : Path) : Prop where
  /-- A part of the path has too many bytes, or the path has. -/
  | nameTooLong (hfind : tree.find p = .error .nameTooLong)
  /-- The bytes are no text. -/
  | notUtf8 {place : Path} {content : Utf8.Bytes} {e : Utf8.Error} (hfind : tree.find p = .ok (.file place content))
      (htext : Utf8.decode content = .error e)
  /-- A number has too many digits. -/
  | tooLong {place : Path} {content : Utf8.Bytes} {t : Text} {e : TooLong}
      (hfind : tree.find p = .ok (.file place content)) (htext : Utf8.decode content = .ok t)
      (hread : Toml.read t = .error (.tooLong e))
  /-- Values stand in each other on too many levels. -/
  | tooDeep {place : Path} {content : Utf8.Bytes} {t : Text} (hfind : tree.find p = .ok (.file place content))
      (htext : Utf8.decode content = .ok t) (hread : Toml.read t = .error .tooDeep)

/-- The files that are passed over. -/
inductive IsPassedOver (tree : FileTree) (p : Path) : Prop where
  | directory {place : Path} (hfind : tree.find p = .ok (.directory place))
  | malformed {place : Path} {content : Utf8.Bytes} {t : Text} (hfind : tree.find p = .ok (.file place content))
      (htext : Utf8.decode content = .ok t) (hread : Toml.read t = .error .malformed)

theorem isSettled_readFile_iff {tree : FileTree} {p : Path} : IsSettled (readFile tree p) ↔ ¬BreaksReading tree p := by
  have hnot : BreaksReading tree p → ¬IsSettled (readFile tree p) := by
    rintro (hfind | ⟨hfind, htext⟩ | ⟨hfind, htext, hread⟩ | ⟨hfind, htext, hread⟩)
    · simp [readFile, hfind, isSettled_error_iff]
    · simp [readFile, hfind, htext, isSettled_error_iff]
    · simp [readFile, hfind, htext, hread, isSettled_error_iff]
    · simp [readFile, hfind, htext, hread, isSettled_error_iff]
  refine ⟨fun h hbreaks => hnot hbreaks h, fun h => ?_⟩
  rw [readFile]
  repeat' split
  · exact absurd (.nameTooLong ‹_›) h
  · exact isSettled_ok _
  · exact isSettled_ok _
  · exact isSettled_ok _
  · exact absurd (.notUtf8 ‹_› ‹_›) h
  · exact isSettled_ok _
  · exact isSettled_ok _
  · exact absurd (.tooLong ‹_› ‹_› ‹_›) h
  · exact absurd (.tooDeep ‹_› ‹_› ‹_›) h

theorem readFile_of_isPassedOver {tree : FileTree} {p : Path} (h : IsPassedOver tree p) :
    readFile tree p = .ok .unreadable := by
  obtain hfind | ⟨hfind, htext, hread⟩ := h
  · rw [readFile, hfind]
  · simp only [readFile, hfind, htext, hread]

/-! ## The chosen file -/

/-- The project files in whose place the file that has only settings is read. -/
def LacksSection (tree : FileTree) (directory : Path) : Prop :=
  ∃ project, readFile tree (projectPath directory) = .ok project ∧ sectionIn project = .ok none

/-- The project files whose `tool` is no table. -/
inductive HasStrayTool : FileResult → Prop where
  | intro {document : Toml.Entries} {value : Value} (htool : document.lookup ("tool" : Text) = some value)
      (hvalue : ∀ tools, value ≠ .table tools) : HasStrayTool (.document document)

theorem isSettled_sectionIn_iff {project : FileResult} : IsSettled (sectionIn project) ↔ ¬HasStrayTool project := by
  cases project with
  | absent | unreadable =>
    refine iff_of_true (isSettled_ok none) ?_
    rintro ⟨⟩
  | document document =>
    rw [sectionIn, sectionOf?]
    split
    · rename_i hnone
      refine iff_of_true (isSettled_ok none) ?_
      rintro ⟨htool, -⟩
      cases hnone.symm.trans htool
    · rename_i tools htable
      refine iff_of_true (isSettled_ok _) ?_
      rintro ⟨htool, hvalue⟩
      exact hvalue tools (Option.some.inj (htool.symm.trans htable))
    · rename_i value hstray htool
      refine iff_of_false (by simp [isSettled_error_iff]) ?_
      intro h
      exact h ⟨htool, hstray⟩

/-! ## Values as entries -/

/-- Whether a value can be the name of an entry. -/
def IsName : Value → Prop
  | .array _ | .table _ => False
  | _ => True

/-- The values that stand for an entry in a list. -/
inductive IsPair : Value → Prop where
  | array {name value : Value} (h : IsName name) : IsPair (.array [name, value])
  | string {c d : Char} : IsPair (.string [c, d])
  | table {entry entry' : Text × Value} : IsPair (.table [entry, entry'])

/-- The values that stand for entries. -/
inductive HasEntries : Value → Prop where
  | table {entries : List (Text × Value)} : HasEntries (.table entries)
  | array {elements : List Value} (h : ∀ element ∈ elements, IsPair element) : HasEntries (.array elements)
  | string : HasEntries (.string [])

theorem isSettled_pairOf_array_iff {place : Nat} {parts : List Value} :
    IsSettled (pairOf place (.array parts)) ↔ ∃ name value, parts = [name, value] ∧ IsName name := by
  rcases parts with _ | ⟨name, _ | ⟨value, _ | ⟨third, rest⟩⟩⟩
  · simp [pairOf, isSettled_error_iff]
  · simp [pairOf, isSettled_error_iff]
  · cases name <;> simp [pairOf, isSettled_error_iff, isSettled_ok, IsName]
  · simp [pairOf, isSettled_error_iff]

/-- A text stands for the list of its characters. -/
theorem pairOf_string (place : Nat) (t : Text) :
    pairOf place (.string t) = pairOf place (.array (t.map fun c => .string [c])) := rfl

/-- A table stands for the list of its keys. -/
theorem pairOf_table (place : Nat) (entries : List (Text × Value)) :
    pairOf place (.table entries) = pairOf place (.array (entries.map fun entry => .string entry.1)) := rfl

theorem isSettled_pairOf_iff {place : Nat} {element : Value} : IsSettled (pairOf place element) ↔ IsPair element := by
  cases element with
  | array parts =>
    rw [isSettled_pairOf_array_iff]
    constructor
    · rintro ⟨name, value, rfl, hname⟩
      exact .array hname
    · rintro ⟨hname⟩
      exact ⟨_, _, rfl, hname⟩
  | string t =>
    rw [pairOf_string, isSettled_pairOf_array_iff]
    constructor
    · rintro ⟨name, value, ht, -⟩
      obtain ⟨c, rest, rfl, -, hrest⟩ := List.map_eq_cons_iff.mp ht
      obtain ⟨d, rfl, -⟩ := List.map_eq_singleton_iff.mp hrest
      exact .string
    · rintro ⟨⟩
      exact ⟨_, _, rfl, trivial⟩
  | table entries =>
    rw [pairOf_table, isSettled_pairOf_array_iff]
    constructor
    · rintro ⟨name, value, hentries, -⟩
      obtain ⟨entry, rest, rfl, -, hrest⟩ := List.map_eq_cons_iff.mp hentries
      obtain ⟨entry', rfl, -⟩ := List.map_eq_singleton_iff.mp hrest
      exact .table
    · rintro ⟨⟩
      exact ⟨_, _, rfl, trivial⟩
  | _ =>
    refine iff_of_false (by simp [pairOf, isSettled_error_iff]) ?_
    rintro ⟨⟩

theorem exists_pairOf_of_isPair {element : Value} (h : IsPair element) (place : Nat) :
    ∃ entry, pairOf place element = .ok entry := by
  cases h with
  | @array name value hname =>
    refine ⟨(name, value), ?_⟩
    cases name with
    | array _ | table _ => cases hname
    | _ => rfl
  | string | table => exact ⟨_, rfl⟩

theorem isSettled_entriesOfPairs_iff {place : Nat} {entries : List Entry} {elements : List Value} :
    IsSettled (entriesOfPairs place entries elements) ↔ ∀ element ∈ elements, IsPair element := by
  induction elements generalizing place entries with
  | nil => exact iff_of_true (isSettled_ok entries) (List.forall_mem_nil _)
  | cons element rest ih =>
    have hstep : entriesOfPairs place entries (element :: rest) = (pairOf place element).bind fun entry =>
        entriesOfPairs (place + 1) (putEntry entry.1 entry.2 entries) rest := by
      rw [entriesOfPairs]
      cases pairOf place element <;> rfl
    rw [hstep, isSettled_bind, isSettled_pairOf_iff, List.forall_mem_cons]
    refine and_congr_right fun hpair => ?_
    obtain ⟨entry, hentry⟩ := exists_pairOf_of_isPair hpair place
    exact ⟨fun h => ih.mp (h entry hentry), fun h _ _ => ih.mpr h⟩

theorem isSettled_entriesOf_iff {source : Value} : IsSettled (entriesOf source) ↔ HasEntries source := by
  cases source with
  | table entries => exact iff_of_true (isSettled_ok _) .table
  | array elements =>
    rw [entriesOf, isSettled_entriesOfPairs_iff]
    constructor
    · exact .array
    · intro h
      cases h with
      | array h => exact h
  | string t =>
    rw [entriesOf, isSettled_entriesOfPairs_iff]
    cases t with
    | nil => exact iff_of_true (List.forall_mem_nil _) .string
    | cons c rest =>
      constructor
      · intro h
        cases h (.string [c]) List.mem_cons_self
      · rintro ⟨⟩
  | _ =>
    refine iff_of_false (by simp [entriesOf, isSettled_error_iff]) ?_
    rintro ⟨⟩

/-! ## Setting entries -/

/-- The entries that loading goes on behind: a name that means nothing and can be shown, and a value that fits. -/
def Passes : Entry → Prop
  | (name, value) =>
    match Key.ofValue? name with
    | none => name.obstacle? = none
    | some key => key.misfit? value = none

/-- The entries at which loading breaks off: a name that means nothing or a value that does not fit is to be shown, and
cannot be. -/
def BreaksAt : Entry → Prop
  | (name, value) =>
    match Key.ofValue? name with
    | none => name.obstacle? ≠ none
    | some key => ∃ e, key.misfit? value = some e ∧ e.obstacle? ≠ none

/-- The lists of entries at one of which loading breaks off. -/
inductive BreaksSetting : List Entry → Prop where
  | here {entry : Entry} {rest : List Entry} (h : BreaksAt entry) : BreaksSetting (entry :: rest)
  | later {entry : Entry} {rest : List Entry} (hpasses : Passes entry) (h : BreaksSetting rest) :
      BreaksSetting (entry :: rest)

theorem not_isSettled_ofObstacle {α : Type} (obstacle : Value.Obstacle) :
    ¬IsSettled (.error (.ofObstacle obstacle) : Except LoadError α) := by
  cases obstacle <;> simp [isSettled_error_iff, LoadError.ofObstacle]

theorem isSettled_ofValueError_iff {α : Type} {e : ValueError} :
    IsSettled (.error (.ofValueError e) : Except LoadError α) ↔ e.obstacle? = none := by
  rw [LoadError.ofValueError]
  cases e.obstacle? with
  | none => exact iff_of_true (.inr ⟨e, rfl⟩) rfl
  | some obstacle => exact iff_of_false (not_isSettled_ofObstacle obstacle) (by simp)

theorem breaksSetting_cons_iff {entry : Entry} {rest : List Entry} :
    BreaksSetting (entry :: rest) ↔ BreaksAt entry ∨ Passes entry ∧ BreaksSetting rest := by
  constructor
  · rintro (h | ⟨hpasses, h⟩)
    · exact .inl h
    · exact .inr ⟨hpasses, h⟩
  · rintro (h | ⟨hpasses, h⟩)
    · exact .here h
    · exact .later hpasses h

/-- Setting entries one after another is settled unless one of them breaks it off, by induction on the entries. -/
theorem isSettled_outcome_iff (given : Key → Option Value) (entries : List Entry) :
    IsSettled (outcome ((ofValues given).apply entries)) ↔ ¬BreaksSetting entries := by
  induction entries generalizing given with
  | nil =>
    refine iff_of_true (isSettled_ok _) ?_
    rintro ⟨⟩
  | cons entry rest ih =>
    obtain ⟨name, value⟩ := entry
    rw [breaksSetting_cons_iff, apply, BreaksAt, Passes]
    cases Key.ofValue? name with
    | none =>
      dsimp only
      rw [outcome_cons]
      cases name.obstacle? with
      | none => simpa using ih given
      | some obstacle => simpa using not_isSettled_ofObstacle obstacle
    | some key =>
      dsimp only
      rw [set_ofValues]
      cases key.misfit? value with
      | none => simpa using ih _
      | some e => simpa [outcome, warnings, Except.mapError] using isSettled_ofValueError_iff

/-! ## Loading -/

/-- The ways in which loading breaks off with something else than a complaint about a value. -/
inductive Breaks (tree : FileTree) (directory : Path) (environment : List (Text × Text)) : Prop where
  /-- The project file cannot be read, and is not passed over. -/
  | project (h : BreaksReading tree (projectPath directory))
  /-- The `tool` of the project file is no table. -/
  | tool {project : FileResult} (hread : readFile tree (projectPath directory) = .ok project)
      (h : HasStrayTool project)
  /-- The file that has only settings is looked for, cannot be read and is not passed over. -/
  | own (hsection : LacksSection tree directory) (h : BreaksReading tree (ownPath directory))
  /-- The section does not stand for entries. -/
  | shape {source : Value} (hsource : chosen tree directory = .ok source) (h : ¬HasEntries source)
  /-- What a warning or complaint is about cannot be shown. -/
  | setting {source : Value} {entries : List Entry} (hsource : chosen tree directory = .ok source)
      (hentries : entriesOf source = .ok entries) (h : BreaksSetting (merge entries (ofEnvironment environment)))

theorem isSettled_chosen_iff {tree : FileTree} {directory : Path} :
    IsSettled (chosen tree directory) ↔
      ¬BreaksReading tree (projectPath directory) ∧
      (∀ project, readFile tree (projectPath directory) = .ok project → ¬HasStrayTool project) ∧
      (LacksSection tree directory → ¬BreaksReading tree (ownPath directory)) := by
  rw [chosen, isSettled_bind, isSettled_readFile_iff]
  refine and_congr_right fun _ => ⟨fun h => ⟨fun project hproject => ?_, ?_⟩, ?_⟩
  · exact isSettled_sectionIn_iff.mp (isSettled_bind.mp (h project hproject)).1
  · rintro ⟨project, hproject, hsection⟩
    have hrest := (isSettled_bind.mp (h project hproject)).2 none hsection
    exact isSettled_readFile_iff.mp (isSettled_bind.mp hrest).1
  · rintro ⟨htool, hown⟩ project hproject
    refine isSettled_bind.mpr ⟨isSettled_sectionIn_iff.mpr (htool project hproject), fun source hsource => ?_⟩
    cases source with
    | some source => exact isSettled_ok source
    | none =>
      have hread := isSettled_readFile_iff.mpr (hown ⟨project, hproject, hsource⟩)
      exact isSettled_bind.mpr ⟨hread, fun own _ => isSettled_ok (wholeOf own)⟩

theorem isSettled_result_load_iff (tree : FileTree) (directory : Path) (shown : Text → Text)
    (environment : List (Text × Text)) :
    IsSettled (load tree directory shown environment).result ↔ ¬Breaks tree directory environment := by
  have hdefaults : ({} : Settings) = ofValues fun _ => none := rfl
  rw [result_load_eq, hdefaults, isSettled_bind, isSettled_bind, isSettled_chosen_iff]
  simp only [isSettled_entriesOf_iff, isSettled_outcome_iff]
  constructor
  · rintro ⟨⟨⟨hproject, htool, hown⟩, hshape⟩, hsetting⟩ (h | ⟨hread, h⟩ | ⟨hsection, h⟩ | ⟨hsource, h⟩ |
      ⟨hsource, hentries, h⟩)
    · exact hproject h
    · exact htool _ hread h
    · exact hown hsection h
    · exact h (hshape _ hsource)
    · exact hsetting _ (by rw [hsource]; exact hentries) h
  · intro h
    refine ⟨⟨⟨fun hproject => h (.project hproject), fun project hread htool => h (.tool hread htool),
      fun hsection hown => h (.own hsection hown)⟩, fun source hsource => ?_⟩, fun entries hentries hsetting => ?_⟩
    · by_contra hshape
      exact h (.shape hsource hshape)
    · cases hsource : chosen tree directory with
      | error e =>
        rw [hsource] at hentries
        cases hentries
      | ok source =>
        rw [hsource] at hentries
        exact h (.setting hsource hentries hsetting)

/-! ## Files that are passed over -/

/-- A file that cannot be made out is passed over: there is a warning about it, and what comes of loading is what comes
of it without the file. -/
structure PassesOver (tree : FileTree) (directory : Path) (shown : Text → Text) (environment : List (Text × Text)) :
    Prop where
  /-- The project file. -/
  project : IsPassedOver tree (projectPath directory) →
    unreadableFile projectFileName ∈ (load tree directory shown environment).journal ∧
    ∀ tree', readFile tree' (projectPath directory) = .ok .absent →
      readFile tree' (ownPath directory) = readFile tree (ownPath directory) →
      (load tree directory shown environment).result = (load tree' directory shown environment).result
  /-- The file that has only settings, where it is looked for. -/
  own : LacksSection tree directory → IsPassedOver tree (ownPath directory) →
    unreadableFile ownFileName ∈ (load tree directory shown environment).journal ∧
    ∀ tree', readFile tree' (projectPath directory) = readFile tree (projectPath directory) →
      readFile tree' (ownPath directory) = .ok .absent →
      (load tree directory shown environment).result = (load tree' directory shown environment).result

section PassedOver

variable {tree : FileTree} {directory : Path}

theorem lacksSection_of_read {project : FileResult} (h : readFile tree (projectPath directory) = .ok project)
    (hnone : sectionIn project = .ok none) : LacksSection tree directory := ⟨project, h, hnone⟩

/-- Without a section, what comes of loading depends on the file that has only settings. -/
theorem chosen_of_lacksSection (h : LacksSection tree directory) :
    chosen tree directory = (readFile tree (ownPath directory)).bind fun own => .ok (wholeOf own) := by
  obtain ⟨project, hread, hsection⟩ := h
  rw [chosen, hread, Except.bind, hsection]
  rfl

theorem result_load_of_chosen_eq {tree' : FileTree} (h : chosen tree directory = chosen tree' directory)
    (shown : Text → Text) (environment : List (Text × Text)) :
    (load tree directory shown environment).result = (load tree' directory shown environment).result := by
  rw [result_load_eq, result_load_eq, h]

theorem mem_journal_ownFileEntries {entry : Journal.Entry} {journal : List Journal.Entry} (h : entry ∈ journal)
    (shown : Text → Text) : entry ∈ (ownFileEntries tree directory shown journal).journal := by
  rw [ownFileEntries]
  split <;> simp [takenFrom, h]

theorem mem_journal_load {entry : Journal.Entry} {shown : Text → Text}
    (h : entry ∈ (fileEntries tree directory shown).journal) (environment : List (Text × Text)) :
    entry ∈ (load tree directory shown environment).journal := by
  rw [load]
  split
  · exact h
  · exact List.mem_append_left _ h

theorem exists_fileEntries_of_lacksSection (h : LacksSection tree directory) (shown : Text → Text) :
    ∃ journal, fileEntries tree directory shown = ownFileEntries tree directory shown journal := by
  obtain ⟨project, hread, hsection⟩ := h
  rw [projectPath] at hread
  rw [fileEntries, hread]
  cases project with
  | absent | unreadable => exact ⟨_, rfl⟩
  | document document =>
    rw [sectionIn] at hsection
    exact ⟨[], by simp only [hsection]⟩

theorem warned_own (h : IsPassedOver tree (ownPath directory)) (shown : Text → Text) (journal : List Journal.Entry) :
    unreadableFile ownFileName ∈ (ownFileEntries tree directory shown journal).journal := by
  have hread := readFile_of_isPassedOver h
  rw [ownPath] at hread
  rw [ownFileEntries, hread]
  simp

theorem warned_project (h : IsPassedOver tree (projectPath directory)) (shown : Text → Text) :
    unreadableFile projectFileName ∈ (fileEntries tree directory shown).journal := by
  have hread := readFile_of_isPassedOver h
  rw [projectPath] at hread
  rw [fileEntries, hread]
  exact mem_journal_ownFileEntries List.mem_cons_self shown

theorem passesOver (tree : FileTree) (directory : Path) (shown : Text → Text) (environment : List (Text × Text)) :
    PassesOver tree directory shown environment where
  project := by
    intro h
    refine ⟨mem_journal_load (warned_project h shown) environment, fun tree' hproject hown => ?_⟩
    have hlacks := lacksSection_of_read (readFile_of_isPassedOver h) rfl
    have hlacks' := lacksSection_of_read hproject rfl
    refine result_load_of_chosen_eq ?_ shown environment
    rw [chosen_of_lacksSection hlacks, chosen_of_lacksSection hlacks', hown]
  own := by
    intro hlacks h
    obtain ⟨journal, hentries⟩ := exists_fileEntries_of_lacksSection hlacks shown
    refine ⟨mem_journal_load (hentries ▸ warned_own h shown journal) environment, fun tree' hproject hown => ?_⟩
    have hlacks' : LacksSection tree' directory := by rwa [LacksSection, hproject]
    refine result_load_of_chosen_eq ?_ shown environment
    rw [chosen_of_lacksSection hlacks, chosen_of_lacksSection hlacks', hown, readFile_of_isPassedOver h]
    rfl

end PassedOver

/-- Loading is settled unless it breaks off in one of the listed ways, and passes over the files that cannot be made
out. -/
theorem load_isSettled_iff (tree : FileTree) (directory : Path) (shown : Text → Text)
    (environment : List (Text × Text)) :
    (IsSettled (load tree directory shown environment).result ↔ ¬Breaks tree directory environment) ∧
    PassesOver tree directory shown environment :=
  ⟨isSettled_result_load_iff tree directory shown environment, passesOver tree directory shown environment⟩

/-- A project file of one byte that starts no character. -/
def strayByteTree : FileTree where
  entries := [(⟨"", ["pyproject.toml"]⟩, .file [0xFF])]

/-- The file is not passed over, and there is no complaint about a value. -/
theorem not_isSettled_strayByte : ¬IsSettled (load strayByteTree ⟨"", []⟩ id []).result := by
  have hnone : (load strayByteTree ⟨"", []⟩ id []).result.toOption = none := by decide +kernel
  have hcomplaint : (complaint? (load strayByteTree ⟨"", []⟩ id []).result).isNone = true := by decide +kernel
  rintro (⟨s, hs⟩ | ⟨e, he⟩)
  · rw [hs] at hnone
    cases hnone
  · rw [he] at hcomplaint
    cases hcomplaint

end StructForge.Settings
