import StructForge.Go.File
import StructForge.Proofs.Go.ColumnLines
import StructForge.Proofs.Go.Imports
import StructForge.Proofs.Go.Outline
import StructForge.Proofs.Listing

/-!
# Code in paragraphs

Where no name, type, tag or comment has a newline (`Schema.IsUnbroken`), the rows of a struct are paragraphs, also with
nested types in place (`rendersParagraphs_inlineFields`, by induction on the room for further levels). A declaration and
an accessor are a paragraph each, and so are the package and the imports in front of them, so that the code and the file
are set out (`isSetOut_code`, `isSetOut_file`). What is read from a text is unbroken, but for the keys of a document
(`isUnbroken_of_read`).
-/

namespace StructForge

open Text

/-! ## Schemas -/

/-- No part of a field has a newline. -/
structure Field.IsUnbroken (f : Field) : Prop where
  targetName : '\n' ∉ f.targetName
  targetType : '\n' ∉ f.targetType
  tag : ∀ withStorage, '\n' ∉ Go.tag f withStorage
  comment : ∀ comment, f.comment = some comment → '\n' ∉ comment

/-- No field and no nested type has a newline in a part of it, nor has the name of the table. -/
structure Schema.IsUnbroken (s : Schema) : Prop where
  fields : ∀ f ∈ s.fields, f.IsUnbroken
  nested : ∀ n ∈ s.places, '\n' ∉ n.name ∧ ∀ f ∈ n.fields, f.IsUnbroken
  table : ∀ table, s.tableName = some table → '\n' ∉ table

namespace Go

/-! ## Rows -/

section Row

variable {r : Row} (hname : '\n' ∉ r.name) (htype : '\n' ∈ r.type → IsParagraph r.type) (htag : '\n' ∉ r.tag)
include hname htype htag

theorem Row.isParagraph_declaration (depth : Nat) (w : Widths) :
    IsParagraph (indentation depth ++ r.declaration w) := by
  have hfront : IsParagraph (indentation depth ++ (padRight w.name r.name ++ ' ' :: [])) :=
    isParagraph_of_line (by simp) (List.not_mem_append (newline_not_mem_indentation depth)
      (List.not_mem_append (newline_not_mem_padRight hname _) (by decide)))
  have hback : '\n' ∉ ' ' :: r.tag := List.not_mem_cons_of_ne_of_not_mem (by decide) htag
  have hparts : indentation depth ++ r.declaration w =
      indentation depth ++ (padRight w.name r.name ++ ' ' :: []) ++
        (if r.isMultiLine then r.type else padRight w.type r.type) ++ ' ' :: r.tag := by
    simp [Row.declaration]
  rw [hparts]
  refine IsParagraph.append_line ?_ hback
  split
  case isTrue hmulti => exact hfront.append (htype (List.contains_iff_mem.mp hmulti))
  case isFalse hsingle =>
    have hline : '\n' ∉ r.type := fun hmem => hsingle (List.contains_iff_mem.mpr hmem)
    exact hfront.append_line (newline_not_mem_padRight hline _)

/-- A row is a paragraph if its type is one line or a paragraph, and the other parts are one line. -/
theorem Row.isParagraph_render (hcomment : ∀ comment, r.visibleComment = some comment → '\n' ∉ comment) (depth : Nat)
    (w : Widths) : IsParagraph (indentation depth ++ r.render w) := by
  have hfront := Row.isParagraph_declaration hname htype htag depth w
  rw [Row.render]
  split
  · exact hfront
  · rename_i comment hvisible
    have hback : '\n' ∉ " // " ++ comment := List.not_mem_append (by decide) (hcomment comment hvisible)
    have hpadded : IsParagraph (indentation depth ++
        (if r.isMultiLine then r.declaration w else padRight (w.name + w.type + w.tag + 2) (r.declaration w))) := by
      split
      · exact hfront
      · rw [padRight, ← List.append_assoc]
        refine hfront.append_line fun hmem => ?_
        cases (List.mem_replicate.mp hmem).2
    rw [List.append_assoc, ← List.append_assoc (indentation depth)]
    exact hpadded.append_line hback

end Row

theorem isParagraph_rowOf {f : Field} (hf : f.IsUnbroken) {type : Text} (htype : '\n' ∈ type → IsParagraph type)
    (withStorage : Bool) (depth : Nat) (w : Widths) :
    IsParagraph (indentation depth ++ (rowOf withStorage f type).render w) :=
  Row.isParagraph_render hf.targetName htype (hf.tag withStorage)
    (fun comment hcomment => hf.comment comment (Option.filter_eq_some_iff.mp hcomment).1) depth w

/-- Fields on one line each are paragraphs. -/
theorem isParagraph_of_plainFields {fields : List Field} (h : ∀ f ∈ fields, f.IsUnbroken) (withStorage : Bool) :
    ∀ row ∈ plainFields withStorage fields, IsParagraph row := by
  intro row hrow
  rw [plainFields, renderRows, List.map_map] at hrow
  obtain ⟨f, hf, rfl⟩ := List.mem_map.mp hrow
  exact isParagraph_rowOf (h f hf) (fun hmem => absurd hmem (h f hf).targetType) withStorage 0 _

/-! ## Fields in place -/

/-- A struct in place is a paragraph. -/
theorem isParagraph_inlineStruct (depth : Nat) {rows : List Text} (hrows : ∀ row ∈ rows, IsParagraph row) :
    IsParagraph (inlineStruct depth rows) := by
  cases rows with
  | nil =>
    have hempty : IsParagraph "struct\x7b\x7d" := isParagraph_of_line (by decide) (by decide)
    exact hempty
  | cons row rows =>
    have hopen : IsParagraph "struct \x7b" := isParagraph_of_line (by decide) (by decide)
    have hclose : IsParagraph (indentation depth ++ "\x7d") := isParagraph_of_line (by simp)
      (List.not_mem_append (newline_not_mem_indentation depth) (by decide))
    refine .join (by simp) ?_
    simp only [List.forall_mem_append, List.forall_mem_cons, List.not_mem_nil, false_imp_iff, implies_true, and_true]
      at hrows ⊢
    exact ⟨⟨⟨hopen, hrows.1⟩, hrows.2⟩, hclose⟩

/-- A rendering of fields in paragraphs. -/
def RendersParagraphs (render : List Field → Except TooDeep (List Text)) : Prop :=
  ∀ ⦃fields rows⦄, (∀ f ∈ fields, f.IsUnbroken) → render fields = .ok rows → ∀ row ∈ rows, IsParagraph row

section

variable {s : Schema} (hs : s.IsUnbroken)
include hs

theorem isUnbroken_of_nested? {f : Field} {nested : NestedType} (h : nested? s f = some nested) :
    ∀ g ∈ nested.fields, g.IsUnbroken := by
  refine (hs.nested nested ?_).2
  rw [nested?] at h
  split at h
  · exact List.mem_of_getElem? h
  · exact List.mem_append_left _ (List.mem_of_find?_eq_some h)

/-- A type in place is one line or a paragraph. -/
theorem isParagraph_of_inlineType {renderInner : List Field → Except TooDeep (List Text)}
    (hinner : RendersParagraphs renderInner) {depth : Nat} {f : Field} (hf : f.IsUnbroken) {type : Text}
    (h : inlineType s depth renderInner f = .ok type) (hmulti : '\n' ∈ type) : IsParagraph type := by
  rw [inlineType] at h
  split at h
  · cases h
    exact absurd hmulti hf.targetType
  · rename_i nested hnested
    obtain ⟨rows, hrows, rfl⟩ := map_eq_ok_iff.mp h
    have hfront : '\n' ∉ dropSuffix f.targetType nested.name := by
      rw [dropSuffix]
      split
      · exact fun hmem => hf.targetType (List.mem_of_mem_take hmem)
      · exact hf.targetType
    refine .line_append hfront (isParagraph_inlineStruct depth ?_)
    split at hrows
    · cases hrows
      exact fun row hrow => absurd hrow List.not_mem_nil
    · exact hinner (isUnbroken_of_nested? hs hnested) hrows

/-- The rows of fields with nested types in place are paragraphs. -/
theorem rendersParagraphs_inlineFields (room depth : Nat) (withStorage : Bool) :
    RendersParagraphs (inlineFields s room depth withStorage) := by
  have hrows : ∀ {room depth : Nat} {withStorage : Bool}, RendersParagraphs (renderBelow s room depth) →
      RendersParagraphs (inlineFields s room depth withStorage) := by
    intro room depth withStorage hbelow fields rendered hfields h row hrow
    obtain ⟨rows, hrows, -, rfl⟩ := exists_rows_of_inlineFields h
    obtain ⟨r, hr, rfl⟩ := List.mem_map.mp hrow
    obtain ⟨f, hf, hmade⟩ := exists_mem_of_mapM hrows hr
    obtain ⟨type, htype, rfl⟩ := map_eq_ok_iff.mp hmade
    have htypes := isParagraph_of_inlineType hs hbelow (hfields f hf) htype
    exact isParagraph_rowOf (hfields f hf) htypes withStorage depth _
  induction room generalizing depth withStorage with
  | zero => exact hrows fun _ _ _ h => by cases h
  | succ room ih => exact hrows (ih (depth + 1) false)

theorem isParagraph_of_fieldLines {o : Options} {rows : List Text} (h : fieldLines s o = .ok rows) :
    ∀ row ∈ rows, IsParagraph row := by
  rw [fieldLines] at h
  split at h
  · exact rendersParagraphs_inlineFields hs _ _ _ hs.fields h
  · cases h
    exact isParagraph_of_plainFields hs.fields true

end

/-! ## Blocks -/

/-- The lines of a declaration or of a method: paragraphs, of which the last one is a brace. -/
structure IsBlock (block : List Text) : Prop where
  paragraphs : ∀ line ∈ block, IsParagraph line
  closed : ∃ front, block = front ++ [("\x7d" : Text)]

namespace IsBlock

variable {block : List Text} (h : IsBlock block)
include h

theorem ne_nil : block ≠ [] := by
  obtain ⟨front, rfl⟩ := h.closed
  simp

theorem isParagraph_join : IsParagraph (join "\n" block) := .join h.ne_nil h.paragraphs

theorem endsInk_join : EndsInk (join "\n" block) := by
  obtain ⟨front, rfl⟩ := h.closed
  exact endsInk_join_concat "\n" front ⟨[], '\x7d', rfl, by decide⟩

end IsBlock

theorem isParagraph_brace : IsParagraph "\x7d" := isParagraph_of_line (by decide) (by decide)

theorem isBlock_declaration {name description : Text} {rows : List Text} (hname : '\n' ∉ name)
    (hdescription : '\n' ∉ description) (hrows : ∀ row ∈ rows, IsParagraph row) :
    IsBlock (declaration name description rows) where
  paragraphs := by
    simp only [declaration, List.forall_mem_cons, List.forall_mem_append, List.not_mem_nil, false_imp_iff,
      implies_true, and_true]
    exact ⟨isParagraph_of_line (by simp) (by simp [hname, hdescription]),
      isParagraph_of_line (by simp) (by simp [hname]), hrows, isParagraph_brace⟩
  closed := ⟨_, (List.append_assoc [_, _] rows _).symm⟩

/-- The accessor is a block behind an empty line. -/
theorem exists_accessor {name table : Text} (hname : '\n' ∉ name) (htable : '\n' ∉ table) :
    ∃ block, accessor name table = [] :: block ∧ IsBlock block := by
  refine ⟨_, rfl, ?_, ⟨_, (List.append_assoc [_, _, _] [] _).symm⟩⟩
  simp only [List.forall_mem_cons, List.not_mem_nil, false_imp_iff, implies_true, and_true]
  exact ⟨isParagraph_of_line (by decide) (by decide), isParagraph_of_line (by simp) (by simp [hname]),
    isParagraph_of_line (by simp) (by simp [indent, htable]), isParagraph_brace⟩

/-- The lines of the nested types are blocks behind an empty line each. -/
theorem flatMap_nestedDeclaration (types : List NestedType) :
    types.flatMap nestedDeclaration =
      (types.map fun n => declaration n.name "is a nested type" (plainFields false n.fields)).flatMap ([] :: ·) := by
  rw [List.flatMap_map]
  rfl

/-- The lines of the code are blocks with an empty line between neighbours. -/
theorem exists_blocks {s : Schema} (hs : s.IsUnbroken) {o : Options} (hname : '\n' ∉ structName s o)
    (rows : List Text) :
    ∃ (description : Text) (blocks : List (List Text)), '\n' ∉ description ∧ (∀ block ∈ blocks, IsBlock block) ∧
      codeLines s o rows = declaration (structName s o) description rows ++ blocks.flatMap ([] :: ·) := by
  have hnested : ∀ n ∈ s.nestedTypes, IsBlock (declaration n.name "is a nested type" (plainFields false n.fields)) := by
    intro n hn
    obtain ⟨hline, hfields⟩ := hs.nested n (List.mem_append_left _ hn)
    exact isBlock_declaration hline (by decide) (isParagraph_of_plainFields hfields false)
  obtain ⟨types, htypes, htypesLines⟩ : ∃ types : List (List Text), (∀ block ∈ types, IsBlock block) ∧
      (if o.inlineNestedTypes then [] else s.nestedTypes.flatMap nestedDeclaration) = types.flatMap ([] :: ·) := by
    split
    · exact ⟨[], nofun, rfl⟩
    · refine ⟨_, ?_, flatMap_nestedDeclaration s.nestedTypes⟩
      intro block hblock
      obtain ⟨n, hn, rfl⟩ := List.mem_map.mp hblock
      exact hnested n hn
  cases htable : s.tableName.filter (!·.isEmpty) with
  | none =>
    refine ⟨"represents a JSON document", types, by decide, htypes, ?_⟩
    simp only [codeLines, htable, htypesLines, List.append_nil]
  | some table =>
    have hline : '\n' ∉ table := hs.table table (Option.filter_eq_some_iff.mp htable).1
    have hdescription : '\n' ∉ "represents the " ++ table ++ " table" := by simp [hline]
    cases hemit : o.emitStorageAccessor with
    | false =>
      refine ⟨_, types, hdescription, htypes, ?_⟩
      simp [codeLines, htable, htypesLines, hemit]
    | true =>
      obtain ⟨block, hblock, hisBlock⟩ := exists_accessor hname hline
      refine ⟨_, block :: types, hdescription, List.forall_mem_cons.mpr ⟨hisBlock, htypes⟩, ?_⟩
      simp [codeLines, htable, htypesLines, hemit, hblock]

/-- Blocks with an empty line between neighbours are as many paragraphs. -/
theorem join_blocks {first : List Text} {blocks : List (List Text)} (hfirst : first ≠ [])
    (hblocks : ∀ block ∈ blocks, block ≠ []) :
    join "\n" (first ++ blocks.flatMap ([] :: ·)) = join "\n\n" ((first :: blocks).map (join "\n")) := by
  induction blocks generalizing first with
  | nil => simp [join]
  | cons block blocks ih =>
    rw [List.forall_mem_cons] at hblocks
    have hne : block ++ blocks.flatMap ([] :: ·) ≠ [] := List.append_ne_nil_of_left_ne_nil hblocks.1 _
    have hrest : join "\n\n" ((first :: block :: blocks).map (join "\n")) =
        join "\n" first ++ "\n\n" ++ join "\n\n" ((block :: blocks).map (join "\n")) :=
      join_cons_of_ne_nil "\n\n" (join "\n" first) (List.cons_ne_nil _ _)
    rw [List.flatMap_cons, List.cons_append, join_append_of_ne_nil "\n" hfirst (List.cons_ne_nil _ _),
      join_cons_of_ne_nil "\n" [] hne, ih hblocks.1 hblocks.2, hrest]
    simp only [List.nil_append, List.append_assoc]
    rfl

/-- The code for an unbroken schema is set out. -/
theorem isSetOut_code {s : Schema} (hs : s.IsUnbroken) {o : Options} (hname : '\n' ∉ structName s o) {c : Text}
    (h : code s o = .ok c) : IsSetOut c := by
  obtain ⟨rows, hrows, rfl⟩ := map_eq_ok_iff.mp h
  obtain ⟨description, blocks, hdescription, hblocks, hlines⟩ := exists_blocks hs hname rows
  have hfirst := isBlock_declaration hname hdescription (isParagraph_of_fieldLines hs hrows)
  have hall : ∀ block ∈ declaration (structName s o) description rows :: blocks, IsBlock block :=
    List.forall_mem_cons.mpr ⟨hfirst, hblocks⟩
  have hjoin := join_blocks hfirst.ne_nil fun block hblock => (hblocks block hblock).ne_nil
  rw [hlines, hjoin]
  have hpieces : ∀ p ∈ (declaration (structName s o) description rows :: blocks).map (join "\n"),
      IsParagraph p ∧ EndsInk p := by
    intro p hp
    obtain ⟨block, hblock, rfl⟩ := List.mem_map.mp hp
    exact ⟨(hall block hblock).isParagraph_join, (hall block hblock).endsInk_join⟩
  refine ⟨⟨_, by simp, fun p hp => (hpieces p hp).1, rfl⟩, fun c hc => ?_, ?_⟩
  · rw [← hjoin] at hc
    obtain rfl : '/' = c := Option.some.inj hc
    decide
  · have hink : EndsInk (join "\n\n" ((declaration (structName s o) description rows :: blocks).map (join "\n"))) :=
      .join (List.cons_ne_nil _ _) fun p hp => (hpieces p hp).2
    exact List.dropLast_concat ▸ hink

/-! ## Files -/

theorem newline_not_mem_imports (fields : List Field) : ∀ path ∈ imports fields, '\n' ∉ path := by
  have hpackages : ∀ packaged ∈ packagedTypes, '\n' ∉ packaged.2 := by decide
  intro path hpath
  rw [imports, mem_foldl_addImport] at hpath
  obtain ⟨f, -, hpath⟩ := List.mem_flatMap.mp hpath
  obtain ⟨packaged, hpackaged, rfl⟩ := List.mem_map.mp hpath
  exact hpackages packaged (List.mem_of_mem_filter hpackaged)

/-- An import in a block, without its newline. -/
def quotedPath (path : Text) : Text := ("\t\"" : Text) ++ path ++ ("\"" : Text)

theorem importLine_eq (path : Text) : importLine path = quotedPath path ++ "\n" :=
  (List.append_assoc (("\t\"" : Text) ++ path) "\"" "\n").symm

theorem flatten_importLine (paths : List Text) (last : Text) :
    (paths.map importLine).flatten ++ last = join "\n" (paths.map quotedPath ++ [last]) := by
  induction paths with
  | nil => rfl
  | cons path paths ih =>
    have hcons := join_cons_of_ne_nil "\n" (quotedPath path) (List.append_ne_nil_of_right_ne_nil
      (paths.map quotedPath) (List.cons_ne_nil last []))
    rw [List.map_cons, List.map_cons, List.cons_append, hcons, ← ih, List.flatten_cons, List.append_assoc,
      importLine_eq]

/-- Several imports are lines between parentheses. -/
theorem importDeclaration_block (path path' : Text) (paths : List Text) :
    importDeclaration (path :: path' :: paths) =
      join "\n" (("import (" : Text) :: ((path :: path' :: paths).map quotedPath ++ [(")" : Text)])) ++ "\n\n" := by
  have hassoc : ∀ front lines back behind : Text,
      front ++ lines ++ (back ++ behind) = front ++ (lines ++ back) ++ behind :=
    fun _ _ _ _ => by simp only [List.append_assoc]
  rw [join_cons_of_ne_nil "\n" _ (by simp), ← flatten_importLine]
  exact hassoc "import (\n" _ ")" "\n\n"

/-- The imports are nothing, or a paragraph with an empty line behind it. -/
theorem importDeclaration_cases {paths : List Text} (h : ∀ path ∈ paths, '\n' ∉ path) :
    importDeclaration paths = [] ∨ ∃ p, IsParagraph p ∧ importDeclaration paths = p ++ "\n\n" := by
  match paths with
  | [] => exact .inl rfl
  | [path] =>
    have hpath := h path List.mem_cons_self
    exact .inr ⟨("import \"" : Text) ++ path ++ ("\"" : Text), isParagraph_of_line (by simp) (by simp [hpath]),
      (List.append_assoc (("import \"" : Text) ++ path) "\"" "\n\n").symm⟩
  | path :: path' :: paths =>
    refine .inr ⟨_, .join (List.cons_ne_nil _ _) fun line hline => ?_, importDeclaration_block path path' paths⟩
    rw [List.mem_cons, List.mem_append, List.mem_singleton] at hline
    rcases hline with rfl | hline | rfl
    · exact isParagraph_of_line (by decide) (by decide)
    · obtain ⟨path, hpath, rfl⟩ := List.mem_map.mp hline
      exact isParagraph_of_line (by simp [quotedPath]) (by simp [quotedPath, h path hpath])
    · exact isParagraph_of_line (by decide) (by decide)

/-- A file with code that is set out is set out. -/
theorem isSetOut_file {c : Text} (hcode : IsSetOut c) {packageName : Text} (hpackage : '\n' ∉ packageName)
    {paths : List Text} (hpaths : ∀ path ∈ paths, '\n' ∉ path) : IsSetOut (file c packageName paths) := by
  obtain ⟨⟨ps, hne, hps, rfl⟩, -, hink⟩ := hcode
  rw [List.dropLast_concat] at hink
  have hline : IsParagraph ("package " ++ packageName) := isParagraph_of_line (by simp) (by simp [hpackage])
  have hend : file (join "\n\n" ps ++ ['\n']) packageName paths = file (join "\n\n" ps) packageName paths ++ ['\n'] :=
    (List.append_assoc _ (join "\n\n" ps) ['\n']).symm
  obtain ⟨front, hfront, hfile⟩ : ∃ front : List Text, (∀ p ∈ front, IsParagraph p) ∧
      file (join "\n\n" ps) packageName paths = join "\n\n" (front ++ ps) := by
    unfold file
    generalize ("package " ++ packageName : Text) = line at hline
    rcases importDeclaration_cases hpaths with himports | ⟨p, hp, himports⟩
    · refine ⟨[line], List.forall_mem_singleton.mpr hline, ?_⟩
      rw [himports, List.append_nil, List.singleton_append, join_cons_of_ne_nil _ line hne]
    · refine ⟨[line, p], List.forall_mem_cons.mpr ⟨hline, List.forall_mem_singleton.mpr hp⟩, ?_⟩
      rw [himports, List.cons_append, List.singleton_append, join_cons_of_ne_nil _ line (List.cons_ne_nil p ps),
        join_cons_of_ne_nil _ p hne, List.append_assoc]
  rw [hend]
  refine ⟨⟨front ++ ps, by simp [hne], List.forall_mem_append.mpr ⟨hfront, hps⟩, by rw [hfile]⟩, fun c hc => ?_, ?_⟩
  · obtain rfl : 'p' = c := Option.some.inj hc
    decide
  · rw [List.dropLast_concat]
    exact hink.append _

end Go

/-! ## What is read -/

theorem isUnbroken_of_column {f : Field} (hf : Sql.IsColumnField f) : f.IsUnbroken where
  targetName := hf.targetName ▸ Naming.newline_not_mem_camel f.serializedName
  targetType := hf.type_line
  tag := Go.newline_not_mem_columnTag hf
  comment := by
    obtain ⟨comment, hcomment, hline, -⟩ := hf.comment_line
    intro comment' hcomment'
    obtain rfl : comment = comment' := Option.some.inj (hcomment.symm.trans hcomment')
    exact hline

/-- The schema of a document is unbroken if no key is broken. -/
theorem Json.isUnbroken_of_isSchemaOf {members : List (Text × Json)} {s : Schema} {entries : List Json.Entry}
    (hs : Json.IsSchemaOf members s entries) (hkeys : ∀ f ∈ s.allFields, '\n' ∉ f.sourceName) : s.IsUnbroken := by
  have hname : ∀ n ∈ s.nestedTypes, '\n' ∉ n.name := fun n hn =>
    (hs.isGoName_of_mem hn).not_mem (by decide) (by decide +kernel)
  have hfields : ∀ f ∈ s.allFields, f.IsUnbroken := by
    intro f hf
    have hmember := hs.memberFields f hf
    refine ⟨?_, ?_, fun withStorage => ?_, ?_⟩
    · rw [Go.targetName_of_member hmember]
      exact Naming.newline_not_mem_camel _
    · rcases hs.field_cases hf with ⟨-, hscalar⟩ | ⟨_, depth, n, hn, -, -, htype⟩
      · exact Go.newline_not_mem_scalar hscalar
      · rw [htype]
        exact Go.newline_not_mem_slices (hname n hn) depth
    · rw [Go.tag_of_member hmember]
      exact Go.newline_not_mem_keyTag (hkeys f hf)
    · obtain ⟨key, value, shape, rfl⟩ := hmember.made
      nofun
  refine ⟨fun f hf => hfields f (List.mem_append_left _ hf), fun n hn => ?_, fun table htable => ?_⟩
  · rw [Schema.places, hs.unlisted, List.append_nil] at hn
    exact ⟨hname n hn, fun f hf => hfields f (List.mem_append_right _ (List.mem_flatMap.mpr ⟨n, hn, hf⟩))⟩
  · rw [hs.tableName] at htable
    cases htable

/-- What is read from a text is unbroken, if no key of a document is broken. -/
theorem isUnbroken_of_read {source : Source} {structName t : Text} {schema : Schema}
    (h : (Reader.ofSource structName source).read t = .ok schema)
    (hkeys : source = .json → ∀ f ∈ schema.allFields, '\n' ∉ f.sourceName) : schema.IsUnbroken := by
  cases source with
  | sql dialect =>
    obtain ⟨table, htable, hschema, hfields⟩ := Sql.schema_of_readSchema (Reader.read_sql_eq_ok.mp h)
    refine ⟨fun f hf => isUnbroken_of_column (hfields f hf), ?_, fun name hname => ?_⟩
    · rw [hschema]
      nofun
    · rw [hschema] at hname
      cases hname
      exact htable.newline_not_mem
  | json =>
    obtain ⟨members, entries, -, hs⟩ := Json.exists_isSchemaOf (Reader.read_json_eq_ok.mp h)
    exact Json.isUnbroken_of_isSchemaOf hs (hkeys rfl)

namespace Conversion

open Go

/-- The code of a conversion and its file are set out, if no key of a document and neither name has a newline. -/
theorem isSetOut_of_convert {t : Text} {request : Request} {o : Options} {given : Option Text} {r : Result}
    (h : convert t request o given = .ok r) (hname : '\n' ∉ r.structName) (hpackage : '\n' ∉ r.packageName)
    (hkeys : r.source = .json → ∀ f ∈ r.schema.allFields, '\n' ∉ f.sourceName) :
    IsSetOut r.code ∧ IsSetOut r.file := by
  obtain ⟨-, hread, hcode, hstruct⟩ := exists_read_of_convert h
  have hresult := eq_resultOf_of_convert h
  have hsetOut := isSetOut_code (isUnbroken_of_read hread hkeys) (hstruct ▸ hname) hcode
  have himports : r.imports = imports r.schema.allFields := congrArg Result.imports hresult
  refine ⟨hsetOut, isSetOut_file hsetOut hpackage ?_⟩
  rw [himports]
  exact newline_not_mem_imports _

end Conversion

end StructForge
