import StructForge.Proofs.Conversion
import StructForge.Proofs.Export
import StructForge.Proofs.Naming.FileNames

/-!
# Where a Go file lies

The name of the file for a struct is read as a path, so that slashes in the name of the struct lead to other directories.
The file lies in the directory that the part up to the last slash leads to from the directory of the export
(`pathFor_eq`). It is a file in this directory itself, with a name in front of its extension, exactly if there is a name
behind the last slash and the part up to it leads nowhere else; without slashes, exactly if the name of the struct is not
all underscores (`isFileIn_goFile_iff`).
-/

namespace StructForge

open Text

namespace Path

/-! ## Paths in two parts -/

theorem child_inj {p q : Path} {a b : Text} : p.child a = q.child b ↔ p = q ∧ a = b := by
  constructor
  · intro h
    obtain ⟨hroot, hparts⟩ := Path.mk.inj h
    obtain ⟨hparts, hlast⟩ := List.append_singleton_inj.mp hparts
    exact ⟨by cases p; cases q; simp_all, hlast⟩
  · rintro ⟨rfl, rfl⟩
    rfl

theorem append_child (base p : Path) (part : Text) : base.append (p.child part) = (base.append p).child part := by
  rw [append, append, child]
  split
  · rw [child, List.append_assoc]
  · rfl

/-- From a path, another one leads to the same again if it leads nowhere, or if it is the same and has a root. -/
theorem append_eq_self_iff (base p : Path) : base.append p = base ↔ p = ⟨[], []⟩ ∨ p.root ≠ [] ∧ p = base := by
  obtain ⟨root, parts⟩ := p
  cases root with
  | nil =>
    have happend : base.append ⟨[], parts⟩ = ⟨base.root, base.parts ++ parts⟩ := rfl
    have hself : base = ⟨base.root, base.parts⟩ := rfl
    rw [happend, hself]
    simp
  | cons c root =>
    have happend : base.append ⟨c :: root, parts⟩ = ⟨c :: root, parts⟩ := rfl
    rw [happend]
    simp

/-- The root of a path is in front of its last slash. -/
theorem root_ofText_append {directory : Text} (hend : ∀ c ∈ directory.getLast?, c = '/') {c : Char} (hc : c ≠ '/')
    (t : Text) : (ofText (directory ++ c :: t)).root = (ofText directory).root := by
  have hslash : ∀ (front : Text) (d : Char), directory = front ++ [d] → d = '/' := by
    rintro front d rfl
    exact hend d List.getLast?_concat
  rcases directory with _ | ⟨d, _ | ⟨e, _ | ⟨f, rest⟩⟩⟩
  · simp [ofText, hc]
  · rw [hslash [] _ rfl]
    simp [ofText, hc]
  · rw [hslash [d] _ rfl]
    by_cases hd : d = '/' <;> simp [ofText, hc, hd]
  · by_cases hd : d = '/' <;> by_cases he : e = '/' <;> by_cases hf : f = '/' <;> simp [ofText, hd, he, hf]

/-- A path is that of its directory, and in it what is behind the last slash. -/
theorem ofText_append {directory part : Text} (hend : ∀ c ∈ directory.getLast?, c = '/') (hpart : '/' ∉ part)
    (hne : part ≠ []) (hdot : part ≠ ['.']) : ofText (directory ++ part) = (ofText directory).child part := by
  obtain ⟨c, t, rfl⟩ := List.exists_cons_of_ne_nil hne
  have hc : c ≠ '/' := fun hslash => hpart (hslash ▸ List.mem_cons_self)
  have hkept : (c :: t ≠ [] && c :: t ≠ ['.']) = true := by
    rw [Bool.and_eq_true]
    exact ⟨decide_eq_true hne, decide_eq_true hdot⟩
  have hparts : (ofText (directory ++ c :: t)).parts = (ofText directory).parts ++ [c :: t] := by
    rw [Export.parts_ofText, Export.parts_ofText]
    rcases List.eq_nil_or_concat directory with rfl | ⟨front, d, rfl⟩
    · rw [List.nil_append, splitOn_eq_singleton hpart, List.filter_cons, if_pos hkept]
      rfl
    · rw [List.concat_eq_append] at hend ⊢
      rw [hend d List.getLast?_concat, List.append_assoc, List.singleton_append, splitOn_append_cons,
        splitOn_append_cons, splitOn_eq_singleton hpart, List.filter_append, List.filter_append, List.filter_cons,
        if_pos hkept]
      simp [splitOn, splitWhere]
  exact Path.mk.injEq .. ▸ ⟨root_ofText_append hend hc t, hparts⟩

end Path

namespace Export

/-! ## The parts of the name of a file -/

/-- A name up to its last slash. -/
def directoryPart (name : Text) : Text := dropEndWhile (· ≠ '/') name

/-- A name behind its last slash. -/
def basePart (name : Text) : Text := name.drop (directoryPart name).length

theorem exists_parts (name : Text) : name = directoryPart name ++ basePart name ∧ '/' ∉ basePart name := by
  obtain ⟨base, hname, hbase⟩ := dropEndWhile_append (· ≠ '/') name
  change name = directoryPart name ++ base at hname
  have hdrop : basePart name = base := by
    have hdrop : (directoryPart name ++ base).drop (directoryPart name).length = base := List.drop_left
    rwa [← hname] at hdrop
  rw [hdrop]
  exact ⟨hname, fun hmem => absurd (hbase '/' hmem) (by decide)⟩

theorem getLast?_directoryPart (name : Text) : ∀ c ∈ (directoryPart name).getLast?, c = '/' := by
  intro c hc
  simpa using getLast?_dropEndWhile (· ≠ '/') name c hc

theorem directoryPart_of_not_mem {name : Text} (h : '/' ∉ name) : directoryPart name = [] :=
  dropEndWhile_eq_nil (ne_of_not_mem h)

theorem basePart_of_not_mem {name : Text} (h : '/' ∉ name) : basePart name = name := by
  rw [basePart, directoryPart_of_not_mem h]
  rfl

/-- The file for a struct, and the directory that its name leads to. -/
theorem pathFor_eq (directory structName : Text) : pathFor directory structName =
    ((Path.ofText directory).append (Path.ofText (directoryPart (Naming.snake structName)))).child
      (basePart (Naming.snake structName) ++ ".go") := by
  obtain ⟨hname, hbase⟩ := exists_parts (Naming.snake structName)
  have hfile : Naming.fileName structName =
      directoryPart (Naming.snake structName) ++ (basePart (Naming.snake structName) ++ ".go") := by
    rw [Naming.fileName, ← List.append_assoc, ← hname]
  have hlong : ∀ t : Text, t.length < 3 → basePart (Naming.snake structName) ++ ".go" ≠ t := by
    rintro t ht rfl
    have hthree : (".go" : Text).length = 3 := rfl
    rw [List.length_append] at ht
    omega
  rw [pathFor, hfile, Path.ofText_append (getLast?_directoryPart _) (List.not_mem_append hbase (by decide))
    (hlong [] (by decide)) (hlong ['.'] (by decide)), Path.append_child]

/-! ## Files in the directory itself -/

/-- The path is that of a Go file in the directory itself, with a name in front of its extension. -/
def IsFileIn (directory : Text) (file : Path) : Prop :=
  ∃ base : Text, base ≠ [] ∧ file = (Path.ofText directory).child (base ++ ".go")

theorem isFileIn_pathFor_iff (directory structName : Text) : IsFileIn directory (pathFor directory structName) ↔
    basePart (Naming.snake structName) ≠ [] ∧
      (Path.ofText directory).append (Path.ofText (directoryPart (Naming.snake structName))) = Path.ofText directory := by
  rw [IsFileIn, pathFor_eq]
  simp only [Path.child_inj, List.append_cancel_right_eq]
  constructor
  · rintro ⟨base, hne, hdirectory, rfl⟩
    exact ⟨hne, hdirectory⟩
  · rintro ⟨hne, hdirectory⟩
    exact ⟨_, hne, hdirectory, rfl⟩

/-- Without slashes, only underscores make no name. -/
theorem isFileIn_pathFor_of_not_mem {structName : Text} (h : '/' ∉ structName) (directory : Text) :
    IsFileIn directory (pathFor directory structName) ↔ ∃ c ∈ structName, c ≠ '_' := by
  have hsnake : '/' ∉ Naming.snake structName := mt Naming.slash_mem_snake h
  have hnowhere : (Path.ofText directory).append (Path.ofText []) = Path.ofText directory :=
    (Path.append_eq_self_iff _ _).mpr (.inl rfl)
  rw [isFileIn_pathFor_iff, directoryPart_of_not_mem hsnake, basePart_of_not_mem hsnake, Ne, Naming.snake_eq_nil_iff]
  simp [hnowhere]

/-- The file of an export that succeeds lies in the directory itself, with a name in front of its extension, exactly if
there is a name behind the last slash, and what is in front of that is dots and slashes or the directory with its
root. -/
theorem isFileIn_goFile_iff {tree : FileTree} {code structName directory packageName : Text} {imports : List Text}
    {written : Written} (h : goFile tree code structName directory packageName imports = .ok written) :
    (IsFileIn directory written.file ↔
      basePart (Naming.snake structName) ≠ [] ∧
        (Path.ofText (directoryPart (Naming.snake structName)) = Path.ofText "." ∨
          (Path.ofText (directoryPart (Naming.snake structName))).root ≠ [] ∧
            Path.ofText (directoryPart (Naming.snake structName)) = Path.ofText directory)) ∧
      ('/' ∉ structName → (IsFileIn directory written.file ↔ ∃ c ∈ structName, c ≠ '_')) := by
  have hfile : written.file = pathFor directory structName := by
    rw [goFile] at h
    obtain ⟨tree', -, rfl⟩ := map_eq_ok_iff.mp h
    rfl
  have hdot : Path.ofText "." = ⟨[], []⟩ := by decide
  rw [hfile, hdot, ← Path.append_eq_self_iff]
  exact ⟨isFileIn_pathFor_iff directory structName, fun hslash => isFileIn_pathFor_of_not_mem hslash directory⟩

/-- A name of two words. -/
theorem isFileIn_goFile_userProfile :
    ∃ written, goFile {} "// UserProfile\n" "UserProfile" "models" "model" [] = .ok written ∧
      IsFileIn "models" written.file := by
  have hmade : (goFile {} "// UserProfile\n" "UserProfile" "models" "model" []).toOption.map (·.file) =
      some (Path.ofText "models/user_profile.go") := by decide +kernel
  obtain ⟨written, hwritten, -⟩ := exists_ok_of_toOption hmade
  exact ⟨written, hwritten, ((isFileIn_goFile_iff hwritten).2 (by decide)).mpr ⟨'U', by decide, by decide⟩⟩

/-- A name may lead out of the directory: here, the file lies beside it. -/
theorem not_isFileIn_parentUser :
    ∃ written, goFile {} "// User\n" "../User" "out" "model" [] = .ok written ∧
      written.tree.files.map (·.1) = [Path.ofText "user.go"] ∧ ¬IsFileIn "out" written.file := by
  have hmade : (goFile {} "// User\n" "../User" "out" "model" []).toOption.map
      (fun written => (written.file, written.tree.files.map (·.1))) =
        some (Path.ofText "out/../user.go", [Path.ofText "user.go"]) := by decide +kernel
  obtain ⟨written, hwritten, hparts⟩ := exists_ok_of_toOption hmade
  obtain ⟨hfile, hfiles⟩ := Prod.mk.inj hparts
  refine ⟨written, hwritten, hfiles, ?_⟩
  rintro ⟨base, -, hchild⟩
  have hlength := congrArg (·.parts.length) (hfile.symm.trans hchild)
  exact absurd hlength (by simp [Path.ofText, Path.child, splitOn, splitWhere])

end Export

end StructForge
