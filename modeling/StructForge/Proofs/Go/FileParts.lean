import StructForge.Proofs.Go.Paragraphs

/-!
# The parts of a file

A file determines its package, its imports and its code, where the package and the paths are one line each and the code
starts with a comment, as generated code does (`file_determines_parts`). The lines of a file are those of its parts
(`lines_file`): the package, an empty line, the lines of the imports, and those of the code. The three forms of the
imports differ in their first lines, from each other and from a comment, and a block of paths ends at the first line that
is a parenthesis, so the lines of the imports can be told from those behind them (`importLines_append_inj`).
-/

namespace StructForge.Go

open Text

/-- The text starts with a comment. -/
def IsCommented (t : Text) : Prop := ("// " : Text) <+: t

/-- Generated code starts with a comment. -/
theorem isCommented_code {s : Schema} {o : Options} {c : Text} (h : code s o = .ok c) : IsCommented c := by
  obtain ⟨fields, -, rfl⟩ := map_eq_ok_iff.mp h
  have hlines : ∃ title rest, codeLines s o fields = (("// " : Text) ++ title) :: rest := by
    simp only [codeLines, declaration, List.append_assoc, List.cons_append]
    exact ⟨_, _, rfl⟩
  obtain ⟨title, rest, hlines⟩ := hlines
  rw [hlines]
  cases rest with
  | nil => exact ⟨_, (List.append_assoc _ title _).symm⟩
  | cons line rest =>
    rw [join_cons_of_ne_nil "\n" _ (List.cons_ne_nil line rest), List.append_assoc, List.append_assoc, List.append_assoc]
    exact List.prefix_append _ _

/-- Its first line does. -/
theorem IsCommented.lines_eq {t : Text} (h : IsCommented t) : ∃ line rest, lines t = ('/' :: line) :: rest := by
  obtain ⟨u, rfl⟩ := h
  obtain ⟨front, last, first, back, hfront, -, happend⟩ := exists_splitWhere_append (· == '\n') "// " u
  have hline : lines "// " = [("// " : Text)] := lines_eq_singleton (by decide)
  obtain ⟨rfl, rfl⟩ : front = [] ∧ last = ("// " : Text) := by
    have hsplit : front ++ [last] = [] ++ [("// " : Text)] := hfront.symm.trans hline
    exact List.append_singleton_inj.mp hsplit
  exact ⟨_, back, happend⟩

/-! ## Lines of imports -/

/-- The lines of the import declaration of some paths, with the empty line behind it. -/
def importLines : List Text → List Text
  | [] => []
  | [path] => [("import \"" : Text) ++ path ++ ("\"" : Text), []]
  | paths => ("import (" : Text) :: (paths.map quotedPath ++ [(")" : Text), []])

theorem lines_append_empty (t u : Text) : lines (t ++ "\n\n" ++ u) = lines t ++ [] :: lines u := by
  have hparts : t ++ "\n\n" ++ u = t ++ '\n' :: ([] ++ '\n' :: u) := by simp
  rw [hparts, lines_append, lines_append]
  rfl

theorem lines_importDeclaration {paths : List Text} (h : ∀ path ∈ paths, '\n' ∉ path) (t : Text) :
    lines (importDeclaration paths ++ t) = importLines paths ++ lines t := by
  match paths with
  | [] => rfl
  | [path] =>
    have hline : '\n' ∉ ("import \"" : Text) ++ path ++ ("\"" : Text) := by simp [h path List.mem_cons_self]
    have hparts : importDeclaration [path] = ("import \"" : Text) ++ path ++ ("\"" : Text) ++ "\n\n" :=
      (List.append_assoc (("import \"" : Text) ++ path) "\"" "\n\n").symm
    rw [hparts, lines_append_empty, lines_eq_singleton hline]
    rfl
  | path :: path' :: paths =>
    have hblock : ∀ line ∈ ("import (" : Text) :: ((path :: path' :: paths).map quotedPath ++ [(")" : Text)]),
        '\n' ∉ line := by
      intro line hline
      rw [List.mem_cons, List.mem_append, List.mem_singleton] at hline
      rcases hline with rfl | hline | rfl
      · decide
      · obtain ⟨path, hpath, rfl⟩ := List.mem_map.mp hline
        simp [quotedPath, h path hpath]
      · decide
    rw [importDeclaration_block, lines_append_empty, lines_join (List.cons_ne_nil _ _), flatMap_lines_of_not_mem hblock]
    simp [importLines]

theorem lines_file {name : Text} (hname : '\n' ∉ name) {paths : List Text} (h : ∀ path ∈ paths, '\n' ∉ path)
    (c : Text) : lines (file c name paths) = ("package " ++ name : Text) :: [] :: (importLines paths ++ lines c) := by
  have hline : '\n' ∉ ("package " ++ name : Text) := List.not_mem_append (by decide) hname
  have hparts : file c name paths = ("package " ++ name : Text) ++ "\n\n" ++ (importDeclaration paths ++ c) :=
    List.append_assoc _ (importDeclaration paths) c
  rw [hparts, lines_append_empty, lines_eq_singleton hline, lines_importDeclaration h, List.singleton_append]

/-! ## Parts from lines -/

theorem quotedPath_inj {path path' : Text} : quotedPath path = quotedPath path' ↔ path = path' := by
  simp [quotedPath]

/-- The imports and what is behind them, where that starts with a comment. -/
theorem importLines_append_inj {paths paths' : List Text} {line line' : Text} {rest rest' : List Text}
    (h : importLines paths ++ ('/' :: line) :: rest = importLines paths' ++ ('/' :: line') :: rest') :
    paths = paths' ∧ ('/' :: line) :: rest = ('/' :: line') :: rest' := by
  have hparen : ∀ paths : List Text, (")" : Text) ∉ paths.map quotedPath := by
    intro paths hmem
    obtain ⟨path, -, hpath⟩ := List.mem_map.mp hmem
    simp [quotedPath] at hpath
  -- no path, one path or several, on either side: declarations of different forms differ in their first lines
  rcases paths with _ | ⟨p, _ | ⟨q, ps⟩⟩
  · rcases paths' with _ | ⟨p', _ | ⟨q', ps'⟩⟩
    · exact ⟨rfl, h⟩
    · simp [importLines] at h
    · simp [importLines] at h
  · rcases paths' with _ | ⟨p', _ | ⟨q', ps'⟩⟩
    · simp [importLines] at h
    · obtain ⟨rfl, rfl, rfl⟩ : p = p' ∧ line = line' ∧ rest = rest' := by simpa [importLines] using h
      exact ⟨rfl, rfl⟩
    · simp [importLines] at h
  · rcases paths' with _ | ⟨p', _ | ⟨q', ps'⟩⟩
    · simp [importLines] at h
    · simp [importLines] at h
    · simp only [importLines, List.cons_append, List.append_assoc, List.cons.injEq, true_and] at h
      obtain ⟨hpaths, hrest⟩ := append_cons_inj (hparen _) (hparen _) h
      exact ⟨(List.map_injective_iff.mpr fun _ _ => quotedPath_inj.mp) hpaths, List.tail_eq_of_cons_eq hrest⟩

/-- Generated code starts with a comment. Of names, imports and code that starts so, a file determines each, and the code
is its end. -/
theorem file_determines_parts :
    (∀ (s : Schema) (o : Options) (c : Text), code s o = .ok c → IsCommented c) ∧
      ∀ (c c' name name' : Text) (paths paths' : List Text), IsCommented c → IsCommented c' → '\n' ∉ name → '\n' ∉ name' →
        (∀ path ∈ paths, '\n' ∉ path) → (∀ path ∈ paths', '\n' ∉ path) →
          (file c name paths = file c' name' paths' ↔ name = name' ∧ paths = paths' ∧ c = c') ∧
            c <:+ file c name paths := by
  refine ⟨fun _ _ _ h => isCommented_code h, fun c c' name name' paths paths' hc hc' hname hname' hpaths hpaths' => ?_⟩
  refine ⟨⟨fun heq => ?_, ?_⟩, List.suffix_append _ c⟩
  · have hlines := congrArg lines heq
    rw [lines_file hname hpaths, lines_file hname' hpaths'] at hlines
    obtain ⟨hfirst, -, hrest⟩ : _ ∧ _ ∧ _ := by simpa only [List.cons.injEq] using hlines
    obtain ⟨line, rest, hline⟩ := hc.lines_eq
    obtain ⟨line', rest', hline'⟩ := hc'.lines_eq
    rw [hline, hline'] at hrest
    obtain ⟨himports, hcode⟩ := importLines_append_inj hrest
    refine ⟨List.append_cancel_left hfirst, himports, ?_⟩
    rw [← hline, ← hline'] at hcode
    rw [← join_splitOn '\n' c, ← join_splitOn '\n' c']
    exact congrArg (join ['\n']) hcode
  · rintro ⟨rfl, rfl, rfl⟩
    rfl

/-- The schema of a table with one column. -/
def daysSchema : Schema where
  tableName := some "days"
  fields := [{ sourceName := "day", targetName := "Day", sourceType := "DATE", targetType := "time.Time",
               serializedName := "day", storageColumn := some "day" }]

/-- Its code in files of two packages with one import or two, of which one looks like a part of a template. -/
theorem file_determines_parts_daysSchema :
    ∃ c, code daysSchema {} = .ok c ∧ c <:+ file c "model" ["time"] ∧
      file c "model" ["time"] ≠ file c "model" ["time", "\x7b% endif %\x7d"] ∧
      file c "model" ["time"] ≠ file c "\x7b\x7b struct_code \x7d\x7d" ["time"] := by
  have hmade : (code daysSchema {}).toOption.map List.isEmpty = some false := by decide +kernel
  obtain ⟨c, hcode, -⟩ := exists_ok_of_toOption hmade
  have hcomment := file_determines_parts.1 daysSchema {} c hcode
  have hpaths := file_determines_parts.2 c c "model" "model" ["time"] ["time", "\x7b% endif %\x7d"] hcomment hcomment
    (by decide) (by decide) (by decide) (by decide)
  have hname := file_determines_parts.2 c c "model" "\x7b\x7b struct_code \x7d\x7d" ["time"] ["time"] hcomment hcomment
    (by decide) (by decide) (by decide) (by decide)
  refine ⟨c, hcode, hpaths.2, fun h => ?_, fun h => ?_⟩
  · exact absurd (hpaths.1.mp h).2.1 (by decide)
  · exact absurd (hname.1.mp h).1 (by decide)

end StructForge.Go
