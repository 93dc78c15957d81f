import StructForge.FileTree

/-!
# What becomes of the files of a tree

Making directories leaves all files as they are, however far it gets (`sameFiles_makeDirectories`,
`sameFiles_reachDirectories`): a directory is only made where nothing is, and nothing is below nothing
(`at?_child_eq_none`). A file that is written is found again on the same path, with what was written
(`find_of_writeInPlace`), since the directories on the way to it are still there (`follow_of_directories`). Writing
nothing leaves the files as they are exactly if the path leads to an empty file (`sameFiles_of_empty_iff`).
-/

namespace StructForge.FileTree

open Text

variable {tree tree' : FileTree} {place other : Path}

/-! ## Places -/

@[simp] theorem at?_insert_self (tree : FileTree) (place : Path) (node : Node) :
    (tree.insert place node).at? place = some node := by
  simp [at?, insert]

/-- Only what is listed is a file. -/
theorem at?_eq_file_iff {content : Utf8.Bytes} :
    tree.at? place = some (.file content) ↔ ∃ p, tree.entries.find? (·.1 = place) = some (p, .file content) := by
  unfold at?
  cases tree.entries.find? (·.1 = place) with
  | some entry => simp [Prod.ext_iff]
  | none =>
    dsimp only
    split
    · simp
    · split <;> simp

theorem at?_insert_eq_file_iff {node : Node} {content : Utf8.Bytes} (h : other ≠ place) :
    (tree.insert place node).at? other = some (.file content) ↔ tree.at? other = some (.file content) := by
  simp only [at?_eq_file_iff, insert, List.find?_cons, Ne.symm h, decide_false]

/-- Nothing is where nothing is listed, and nothing below. -/
theorem at?_eq_none_iff : tree.at? place = none ↔
    place.parts ≠ [] ∧ ∀ entry ∈ tree.entries, entry.1.root = place.root → ¬place.parts <+: entry.1.parts := by
  unfold at?
  cases hfind : tree.entries.find? (·.1 = place) with
  | some entry =>
    have hplace : entry.1 = place := by simpa using List.find?_some hfind
    refine ⟨nofun, fun h => absurd (List.prefix_refl place.parts) ?_⟩
    simpa [hplace] using h.2 entry (List.mem_of_find?_eq_some hfind)
  | none =>
    dsimp only
    split
    case isTrue hempty => simp_all
    case isFalse hempty =>
      split
      case isTrue hany =>
        obtain ⟨entry, hentry, hbelow⟩ := List.any_eq_true.mp hany
        simp only [Bool.and_eq_true, decide_eq_true_eq, List.isPrefixOf_iff_prefix] at hbelow
        exact ⟨nofun, fun h => absurd hbelow.2 (h.2 entry hentry hbelow.1)⟩
      case isFalse hany => simpa using ⟨by simpa using hempty, by simpa using hany⟩

/-- Nothing is below nothing. -/
theorem at?_child_eq_none (h : tree.at? place = none) (part : Text) : tree.at? (place.child part) = none := by
  rw [at?_eq_none_iff] at h ⊢
  refine ⟨by simp [Path.child], fun entry hentry hroot hbelow => ?_⟩
  exact h.2 entry hentry hroot ((List.prefix_append place.parts [part]).trans hbelow)

/-- A directory stays one behind whatever is inserted elsewhere. -/
theorem at?_insert_of_directory {node : Node} (h : tree.at? other = some .directory) (hne : other ≠ place) :
    (tree.insert place node).at? other = some .directory := by
  rcases hother : (tree.insert place node).at? other with _ | _ | content
  · have hnone := at?_eq_none_iff.mp hother
    rw [at?_eq_none_iff.mpr ⟨hnone.1, fun entry hentry => hnone.2 entry (List.mem_cons_of_mem _ hentry)⟩] at h
    cases h
  · rfl
  · rw [(at?_insert_eq_file_iff hne).mp hother] at h
    cases h

/-! ## The same files -/

/-- Two trees have the same files with the same contents; their directories may differ. -/
def SameFiles (before after : FileTree) : Prop :=
  ∀ place content, after.at? place = some (.file content) ↔ before.at? place = some (.file content)

theorem SameFiles.refl (tree : FileTree) : SameFiles tree tree := fun _ _ => Iff.rfl

theorem SameFiles.trans {a b c : FileTree} (hab : SameFiles a b) (hbc : SameFiles b c) : SameFiles a c :=
  fun place content => (hbc place content).trans (hab place content)

theorem SameFiles.symm {a b : FileTree} (hab : SameFiles a b) : SameFiles b a :=
  fun place content => (hab place content).symm

theorem sameFiles_insertNew {isNew : Bool} (h : isNew = true → tree.at? place = none) :
    SameFiles tree (tree.insertNew isNew place) := by
  cases isNew with
  | false => exact .refl tree
  | true =>
    intro other content
    by_cases hne : other = place
    · simp [hne, insertNew, h rfl]
    · exact at?_insert_eq_file_iff hne

/-! ## Making directories -/

/-- A directory that is new is where nothing is, so that making it changes no file. -/
theorem sameFiles_reachBelow {isNew : Bool} (h : isNew = true → tree.at? place = none) (parts : List Text) :
    SameFiles tree (tree.reachBelow place isNew parts) := by
  induction parts generalizing tree place isNew with
  | nil => exact sameFiles_insertNew h
  | cons part rest ih =>
    rw [reachBelow]
    have hnew := sameFiles_insertNew h
    split
    · split
      · exact hnew
      · exact hnew.trans (ih (by simp))
    · split
      · exact hnew
      · split
        case h_1 hnone =>
          refine ih fun _ => ?_
          cases isNew with
          | false => exact hnone
          | true => exact at?_child_eq_none (h rfl) part
        case h_2 => exact ih (by simp)
        case h_3 => exact hnew

/-- Where all directories can be made, they are made. -/
theorem eq_reachBelow_of_makeBelow {shown : Path} {isNew : Bool} {parts : List Text}
    (h : tree.makeBelow shown place isNew parts = .ok tree') : tree' = tree.reachBelow place isNew parts := by
  induction parts generalizing tree shown place isNew with
  | nil => exact (Except.ok.inj h).symm
  | cons part rest ih =>
    rw [makeBelow] at h
    rw [reachBelow]
    split at h
    case isTrue hup =>
      rw [if_pos hup]
      split at h
      · cases h
      · rw [if_neg ‹_›]
        exact ih h
    case isFalse hup =>
      rw [if_neg hup]
      split at h
      · cases h
      · rw [if_neg ‹_›]
        split at h
        · exact ih h
        · exact ih h
        · cases h

theorem sameFiles_makeDirectories {p : Path} (h : tree.makeDirectories p = .ok tree') : SameFiles tree tree' := by
  unfold makeDirectories at h
  split at h
  · cases h
  · cases h
    exact .refl tree
  · cases h
  · split at h
    · cases h
    · rename_i place left _ _
      dsimp only at h
      cases hmake : tree.makeBelow ⟨p.root, p.parts.take (p.parts.length - left.length)⟩ place false left with
      | error e =>
        rw [hmake] at h
        cases h
      | ok made =>
        rw [hmake] at h
        obtain rfl : made = tree' := Except.ok.inj h
        rw [eq_reachBelow_of_makeBelow hmake]
        exact sameFiles_reachBelow (by simp) left

theorem sameFiles_reachDirectories (tree : FileTree) (p : Path) : SameFiles tree (tree.reachDirectories p) := by
  unfold reachDirectories
  split
  · split
    · exact .refl tree
    · exact sameFiles_reachBelow (by simp) _
  · exact .refl tree

/-! ## Following paths -/

section

variable {found : Path} {parts : List Text}

theorem at?_of_follow {content : Utf8.Bytes} (h : tree.follow place parts = .ok (.file found content)) :
    tree.at? found = some (.file content) := by
  induction parts generalizing place with
  | nil => cases h
  | cons part rest ih =>
    rw [follow] at h
    split at h
    · split at h
      · cases h
      · exact ih h
    · split at h
      · cases h
      · split at h
        case h_1 => cases h
        case h_2 => exact ih h
        case h_3 hfile =>
          split at h <;> cases h
          exact hfile

/-- Where parts lead to nothing, the first that is left is not there. -/
theorem eq_none_of_follow {part : Text} {rest : List Text}
    (h : tree.follow place parts = .ok (.missing found (part :: rest))) (hpart : part ≠ ['.', '.']) :
    tree.at? (found.child part) = none := by
  induction parts generalizing place with
  | nil => cases h
  | cons first others ih =>
    rw [follow] at h
    split at h
    · split at h
      · cases h
        contradiction
      · exact ih h
    · split at h
      · cases h
      · split at h
        case h_1 hnone =>
          cases h
          exact hnone
        case h_2 => exact ih h
        case h_3 => split at h <;> cases h

theorem suffix_of_follow {left : List Text} (h : tree.follow place parts = .ok (.missing found left)) :
    left <:+ parts := by
  induction parts generalizing place with
  | nil => cases h
  | cons first others ih =>
    rw [follow] at h
    split at h
    · split at h
      · cases h
        exact List.suffix_rfl
      · exact (ih h).trans (List.suffix_cons first others)
    · split at h
      · cases h
      · split at h
        case h_1 =>
          cases h
          exact List.suffix_rfl
        case h_2 => exact (ih h).trans (List.suffix_cons first others)
        case h_3 => split at h <;> cases h

/-- Parts that led to a file, or to where one was missing, lead to the file that is there now, if the directories are
still there. -/
theorem follow_of_directories {content : Utf8.Bytes}
    (hdirectories : ∀ q, tree.at? q = some .directory → tree'.at? q = some .directory)
    (hfound : tree'.at? found = some (.file content))
    (h : (∃ old, tree.follow place parts = .ok (.file found old)) ∨
      ∃ directory part, found = directory.child part ∧ part ≠ ['.', '.'] ∧
        tree.follow place parts = .ok (.missing directory [part])) :
    tree'.follow place parts = .ok (.file found content) := by
  induction parts generalizing place with
  | nil => simp [follow] at h
  | cons first others ih =>
    rw [follow] at h ⊢
    split
    case isTrue hup =>
      simp only [if_pos hup] at h
      split
      case isTrue hstart =>
        obtain ⟨old, hold⟩ | ⟨directory, part, -, hpart, hmissing⟩ := h
        · simp [hstart] at hold
        · simp only [hstart, if_true] at hmissing
          cases hmissing
          contradiction
      case isFalse hstart => exact ih (by simpa only [hstart, if_false, Bool.false_eq_true] using h)
    case isFalse hup =>
      simp only [if_neg hup] at h
      split
      case isTrue hlong => simp [hlong] at h
      case isFalse hlong =>
        simp only [if_neg hlong] at h
        rcases hat : tree.at? (place.child first) with _ | _ | old
        · simp only [hat] at h
          obtain ⟨_, hold⟩ | ⟨_, _, rfl, -, hmissing⟩ := h
          · cases hold
          · cases hmissing
            simp [hfound]
        · rw [hdirectories _ hat]
          exact ih (by simpa only [hat] using h)
        · simp only [hat] at h
          split at h
          case isTrue hlast =>
            obtain ⟨_, hold⟩ | ⟨_, _, -, -, hmissing⟩ := h
            · obtain ⟨rfl, -⟩ := by simpa using hold
              simp [hfound, hlast]
            · cases hmissing
          case isFalse => simp at h

end

theorem find_eq_ok_iff {p : Path} {found : Found} : tree.find p = .ok found ↔
    (Utf8.encode p.text).length < maxPathLength ∧ tree.follow ⟨p.root, []⟩ p.parts = .ok found := by
  unfold find
  split
  · simpa using fun h => absurd h (Nat.not_lt.mpr ‹_›)
  · simpa using fun _ => Nat.lt_of_not_le ‹_›

/-! ## Writing -/

section

variable {p : Path} {content : Text}

/-- A file is written where the path leads to one, or to a directory in which there is nothing of that name. -/
theorem cases_of_writeInPlace (hlast : p.parts.getLast? ≠ some ['.', '.'])
    (h : tree.writeInPlace p content = .ok tree') :
    ∃ place, tree' = tree.insert place (.file (Utf8.encode content)) ∧
      ((∃ old, tree.find p = .ok (.file place old) ∧ tree.at? place = some (.file old)) ∨
        ∃ directory part, place = directory.child part ∧ part ≠ ['.', '.'] ∧
          tree.find p = .ok (.missing directory [part]) ∧ tree.at? place = none) := by
  have hfollow {found : Found} (hfind : tree.find p = .ok found) : tree.follow ⟨p.root, []⟩ p.parts = .ok found :=
    (find_eq_ok_iff.mp hfind).2
  unfold writeInPlace at h
  split at h
  case h_1 => cases h
  case h_2 => cases h
  case h_3 place old hfind =>
    cases h
    exact ⟨place, rfl, .inl ⟨old, hfind, at?_of_follow (hfollow hfind)⟩⟩
  case h_4 directory part hfind =>
    cases h
    have hpart : part ≠ ['.', '.'] := by
      rintro rfl
      obtain ⟨front, hfront⟩ := suffix_of_follow (hfollow hfind)
      exact hlast (by rw [← hfront, List.getLast?_concat])
    exact ⟨_, rfl, .inr ⟨directory, part, rfl, hpart, hfind, eq_none_of_follow (hfollow hfind) hpart⟩⟩
  case h_5 => cases h

/-- What was written to a path is what the path leads to. -/
theorem find_of_writeInPlace (hlast : p.parts.getLast? ≠ some ['.', '.'])
    (h : tree.writeInPlace p content = .ok tree') :
    ∃ place, tree'.find p = .ok (.file place (Utf8.encode content)) := by
  obtain ⟨place, rfl, hcases⟩ := cases_of_writeInPlace hlast h
  have hnoDirectory : tree.at? place ≠ some .directory := by
    obtain ⟨old, -, hat⟩ | ⟨_, _, -, -, -, hat⟩ := hcases <;> simp [hat]
  have hfollow : (tree.insert place (.file (Utf8.encode content))).follow ⟨p.root, []⟩ p.parts =
      .ok (.file place (Utf8.encode content)) := by
    refine follow_of_directories (fun q hq => at?_insert_of_directory hq ?_) (at?_insert_self ..) ?_
    · rintro rfl
      exact hnoDirectory hq
    · obtain ⟨old, hfind, -⟩ | ⟨directory, part, hplace, hpart, hfind, -⟩ := hcases
      · exact .inl ⟨old, (find_eq_ok_iff.mp hfind).2⟩
      · exact .inr ⟨directory, part, hplace, hpart, (find_eq_ok_iff.mp hfind).2⟩
  refine ⟨place, find_eq_ok_iff.mpr ⟨?_, hfollow⟩⟩
  obtain ⟨_, hfind, -⟩ | ⟨_, _, -, -, hfind, -⟩ := hcases <;> exact (find_eq_ok_iff.mp hfind).1

/-- Opening a file, which writes nothing to it, leaves the files as they are exactly if it was empty. -/
theorem sameFiles_of_empty_iff (hlast : p.parts.getLast? ≠ some ['.', '.']) (h : tree.writeInPlace p [] = .ok tree') :
    SameFiles tree tree' ↔ ∃ place, tree.find p = .ok (.file place []) := by
  obtain ⟨place, rfl, ⟨old, hfind, hat⟩ | ⟨directory, part, -, -, hfind, hat⟩⟩ := cases_of_writeInPlace hlast h
  · refine ⟨fun hsame => ⟨place, ?_⟩, fun ⟨other, hother⟩ => ?_⟩
    · have hempty := (hsame place []).mp (at?_insert_self ..)
      obtain rfl : old = [] := by simpa [hat] using hempty
      exact hfind
    · obtain ⟨rfl, rfl⟩ : place = other ∧ old = [] := by simpa [hfind] using hother
      intro q content
      by_cases hq : q = place
      · simp [hq, hat, Utf8.encode]
      · exact at?_insert_eq_file_iff hq
  · refine ⟨fun hsame => ?_, fun ⟨other, hother⟩ => by simp [hfind] at hother⟩
    have hempty := (hsame place []).mp (at?_insert_self ..)
    simp [hat] at hempty

end

end StructForge.FileTree
