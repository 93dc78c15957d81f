import StructForge.Proofs.Go.InPlace

/-!
# The outline of a document

With nested types in place, the lines between the braces of the struct for a document are its *outline*: a line for
every member of the objects that are reached through members and first elements, in the order of the document, and one
where a nested struct with members ends (`outlineOfMembers`, `code_outline`). The depth and the key of a member decide
the start of its line, and all of the closing line (`Mark.Fits`).

The inference lists the nested types children first and the rendering looks them up again; what joins the two is that
every field in place is the member that it describes (`row_outline`), by induction on the room for further levels
(`inlineFields_outline`).
-/

namespace StructForge

open Text Json

/-! ## Joined pieces -/

namespace Text

theorem append_join (sep front piece : Text) (rest : List Text) :
    front ++ join sep (piece :: rest) = join sep ((front ++ piece) :: rest) := by
  cases rest <;> simp [join]

theorem join_append (sep : Text) (pieces : List Text) (last back : Text) :
    join sep (pieces ++ [last]) ++ back = join sep (pieces ++ [last ++ back]) := by
  induction pieces with
  | nil => rfl
  | cons piece rest ih =>
    have hcons : ∀ z : Text, join sep (piece :: rest ++ [z]) = piece ++ sep ++ join sep (rest ++ [z]) := fun z =>
      join_cons_of_ne_nil sep piece (by simp)
    rw [hcons, hcons, ← ih, List.append_assoc (piece ++ sep)]

end Text

namespace Go

/-! ## Marks -/

/-- A line of an outline: where a member starts, and where the struct in its type ends. The depth is the number of
objects around the object of the member. -/
inductive Mark where
  | opens (depth : Nat) (key : Text)
  | closes (depth : Nat) (key : Text)
  deriving DecidableEq

/-- The key of the member. -/
def Mark.key : Mark → Text
  | .opens _ key | .closes _ key => key

/-- The end of the struct in a type, for a value with an object that has members. -/
def closing (depth : Nat) (key : Text) (value : Json) : List Mark :=
  match innermost? value with
  | some (_, _ :: _) => [.closes depth key]
  | some (_, []) | none => []

mutual

/-- The outline of the object in a value that a member of an object `depth` objects below the root has. -/
def outlineOf (depth : Nat) : Json → List Mark
  | .object members => outlineOfMembers (depth + 1) members
  | .array elements => outlineOfFirst depth elements
  | .null | .bool _ | .int _ | .float _ | .string _ => []

/-- The outline of the object in the first of some values. -/
def outlineOfFirst (depth : Nat) : List Json → List Mark
  | [] => []
  | first :: _ => outlineOf depth first

/-- The outline of the members of an object `depth` objects below the root. -/
def outlineOfMembers (depth : Nat) : List (Text × Json) → List Mark
  | [] => []
  | (key, value) :: rest =>
    .opens depth key :: (outlineOf depth value ++ closing depth key value) ++ outlineOfMembers depth rest

end

theorem outlineOf_of_none : ∀ {value : Json} (depth : Nat), innermost? value = none → outlineOf depth value = []
  | .array (first :: _), depth, h => by
    rw [innermost?, Option.map_eq_none_iff] at h
    rw [outlineOf, outlineOfFirst, outlineOf_of_none depth h]
  | .array [], _, _ | .null, _, _ | .bool _, _, _ | .int _, _, _ | .float _, _, _ | .string _, _, _ => rfl

theorem outlineOf_of_some : ∀ {value : Json} {arrays : Nat} {inner : List (Text × Json)} (depth : Nat),
    innermost? value = some (arrays, inner) → outlineOf depth value = outlineOfMembers (depth + 1) inner
  | .object _, _, _, _, rfl => rfl
  | .array (first :: _), _, _, depth, h => by
    rw [innermost?] at h
    obtain ⟨⟨arrays, inner⟩, hfirst, hpair⟩ := Option.map_eq_some_iff.mp h
    cases hpair
    rw [outlineOf, outlineOfFirst, outlineOf_of_some depth hfirst]

/-- The tag of a member. -/
def keyTag (key : Text) : Text := backquote :: (tagPair "json" key ++ [backquote])

/-- A line is as the mark says: a member starts with its Go name and a space, a struct ends with a brace, a space and
the tag of its member, each behind four spaces for every object around. -/
def Mark.Fits : Mark → Text → Prop
  | .opens depth key, line =>
    ∃ rest, line = List.replicate (4 * (depth + 1)) ' ' ++ (Naming.camel key ++ ' ' :: rest)
  | .closes depth key, line => line = List.replicate (4 * (depth + 1)) ' ' ++ ("\x7d " ++ keyTag key)

/-! ## Rows of members -/

section Member

variable {f : Field} (hf : IsMemberField f)
include hf

theorem targetName_of_member : f.targetName = Naming.camel f.sourceName := by
  obtain ⟨key, value, shape, rfl⟩ := hf.made
  rfl

theorem tag_of_member (withStorage : Bool) : tag f withStorage = keyTag f.sourceName := by
  obtain ⟨key, value, shape, rfl⟩ := hf.made
  exact tag_of_unstored fun _ => rfl

/-- A member has no comment, so its row ends in its tag. -/
theorem render_of_member (withStorage : Bool) (type : Text) (w : Widths) :
    (rowOf withStorage f type).render w = padRight w.name (Naming.camel f.sourceName) ++ " " ++
      (if type.contains '\n' then type else padRight w.type type) ++ " " ++ keyTag f.sourceName := by
  obtain ⟨key, value, shape, rfl⟩ := hf.made
  rw [Row.render, ← tag_of_member ⟨⟨key, value, shape, rfl⟩, hf.scalar⟩ withStorage]
  rfl

end Member

theorem newline_not_mem_keyTag {key : Text} (h : '\n' ∉ key) : '\n' ∉ keyTag key := by
  have hpair : '\n' ∉ tagPair "json" key := newline_not_mem_tagPair (by decide) h
  rw [keyTag, List.mem_cons, List.mem_append, List.mem_singleton]
  rintro (hmem | hmem | hmem)
  · exact absurd hmem (by decide)
  · exact hpair hmem
  · exact absurd hmem (by decide)

theorem newline_not_mem_brackets (depth : Nat) : '\n' ∉ brackets depth := newline_not_mem_slices List.not_mem_nil depth

theorem newline_not_mem_scalar {goType : Text} (h : IsScalar goType) : '\n' ∉ goType := by
  have hbases : ∀ base ∈ scalarTypes, '\n' ∉ base := by decide
  obtain ⟨depth, base, hbase, rfl⟩ := h
  exact newline_not_mem_slices (hbases base hbase) depth

/-- A type on one line leaves the row on one line. -/
theorem fits_of_line {f : Field} (hf : IsMemberField f) (hkey : '\n' ∉ f.sourceName) {type : Text} (htype : '\n' ∉ type)
    (withStorage : Bool) (depth : Nat) (w : Widths) :
    List.Forall₂ Mark.Fits [.opens depth f.sourceName]
      (lines (indentation depth ++ (rowOf withStorage f type).render w)) := by
  have hline : '\n' ∉ indentation depth ++ (rowOf withStorage f type).render w := by
    refine List.not_mem_append (newline_not_mem_indentation depth) (Row.newline_not_mem_render ?_ htype ?_ ?_)
    · show '\n' ∉ f.targetName
      rw [targetName_of_member hf]
      exact Naming.newline_not_mem_camel _
    · show '\n' ∉ tag f withStorage
      rw [tag_of_member hf]
      exact newline_not_mem_keyTag hkey
    · obtain ⟨key, value, shape, rfl⟩ := hf.made
      nofun
  obtain ⟨u, hu⟩ := (rowOf withStorage f type).exists_render w
  rw [lines_eq_singleton hline]
  refine .cons ⟨u, ?_⟩ .nil
  rw [hu, indentation_eq, ← targetName_of_member hf]
  rfl

theorem inlineStruct_of_ne_nil (depth : Nat) : ∀ {inner : List Text}, inner ≠ [] →
    inlineStruct depth inner = join "\n" (("struct \x7b" : Text) :: (inner ++ [indentation depth ++ "\x7d"]))
  | _ :: _, _ => rfl

/-- A struct with lines between its braces puts these between the start and the end of the row. -/
theorem fits_of_struct {f : Field} (hf : IsMemberField f) (hkey : '\n' ∉ f.sourceName) {inner : List Text}
    (hne : inner ≠ []) {depth : Nat} {marks : List Mark} (hinner : List.Forall₂ Mark.Fits marks (inner.flatMap lines))
    (arrays : Nat) (withStorage : Bool) (w : Widths) :
    List.Forall₂ Mark.Fits (.opens depth f.sourceName :: (marks ++ [.closes depth f.sourceName]))
      (lines (indentation depth ++
        (rowOf withStorage f (brackets arrays ++ inlineStruct depth inner)).render w)) := by
  have hbehind : inner ++ [indentation depth ++ "\x7d"] ≠ [] := by simp
  have hstruct := inlineStruct_of_ne_nil depth hne
  have hmulti : (brackets arrays ++ inlineStruct depth inner).contains '\n' = true := by
    rw [hstruct, join_cons_of_ne_nil _ _ hbehind, List.contains_iff_mem]
    simp
  generalize hfront :
    indentation depth ++ (padRight w.name (Naming.camel f.sourceName) ++ ' ' :: brackets arrays) = front
  -- the start of the row joins the first line of the type, and the tag joins the last one
  have hrow : indentation depth ++ (rowOf withStorage f (brackets arrays ++ inlineStruct depth inner)).render w =
      join "\n" ((front ++ "struct \x7b") :: (inner ++ [indentation depth ++ ("\x7d " ++ keyTag f.sourceName)])) :=
    calc indentation depth ++ (rowOf withStorage f (brackets arrays ++ inlineStruct depth inner)).render w
      _ = front ++ (inlineStruct depth inner ++ (" " ++ keyTag f.sourceName)) := by
        rw [render_of_member hf, if_pos hmulti, ← hfront]
        simp
      _ = front ++ join "\n" (("struct \x7b" : Text) ::
            (inner ++ [indentation depth ++ ("\x7d " ++ keyTag f.sourceName)])) := by
        rw [hstruct, ← List.cons_append, join_append, List.append_assoc]
        rfl
      _ = _ := append_join ..
  have hstart : '\n' ∉ front ++ "struct \x7b" := by
    rw [← hfront]
    refine List.not_mem_append (List.not_mem_append (newline_not_mem_indentation depth) ?_) (by decide)
    refine List.not_mem_append (newline_not_mem_padRight (Naming.newline_not_mem_camel _) _) ?_
    exact List.not_mem_cons_of_ne_of_not_mem (by decide) (newline_not_mem_brackets arrays)
  have hend : '\n' ∉ indentation depth ++ ("\x7d " ++ keyTag f.sourceName) :=
    List.not_mem_append (newline_not_mem_indentation depth)
      (List.not_mem_append (by decide) (newline_not_mem_keyTag hkey))
  rw [hrow, lines_join (List.cons_ne_nil _ _), List.flatMap_cons, List.flatMap_append, List.flatMap_singleton,
    lines_eq_singleton hstart, lines_eq_singleton hend]
  refine .cons ?_ (List.rel_append hinner (.cons ?_ .nil))
  · rw [← hfront, padRight_space, indentation_eq, List.append_assoc, List.append_assoc]
    exact ⟨_, rfl⟩
  · rw [indentation_eq]
    rfl

/-! ## Members in place -/

/-- A rendering of fields that gives the outline of the members which they describe, one row for each, where no key
breaks a line. -/
def RendersOutline (s : Schema) (entries : List Entry) (depth : Nat)
    (render : List Field → Except TooDeep (List Text)) : Prop :=
  ∀ ⦃fields : List Field⦄ ⦃ms : List (Text × Json)⦄ ⦃rows : List Text⦄, List.Forall₂ (Describes entries) fields ms →
    (∀ f ∈ fields, f ∈ s.allFields) → (∀ mark ∈ outlineOfMembers depth ms, '\n' ∉ mark.key) → render fields = .ok rows →
      rows.length = fields.length ∧ List.Forall₂ Mark.Fits (outlineOfMembers depth ms) (rows.flatMap lines)

section Document

variable {members : List (Text × Json)} {s : Schema} {entries : List Entry} (hs : IsSchemaOf members s entries)
include hs

/-- The lines of the row of a member, if the lines of the members of the object in it are their outline. -/
theorem row_outline {depth : Nat} {renderInner : List Field → Except TooDeep (List Text)}
    (hinner : RendersOutline s entries (depth + 1) renderInner)
    {f : Field} {key : Text} {value : Json} (hf : f ∈ s.allFields) (hdescribes : Describes entries f (key, value))
    (hkeys : ∀ mark ∈ outlineOfMembers depth [(key, value)], '\n' ∉ mark.key) {type : Text}
    (htype : inlineType s depth renderInner f = .ok type) (withStorage : Bool) (w : Widths) :
    List.Forall₂ Mark.Fits (outlineOfMembers depth [(key, value)])
      (lines (indentation depth ++ (rowOf withStorage f type).render w)) := by
  have hmember := hs.memberFields f hf
  obtain rfl : f.sourceName = key := hdescribes.sourceName
  have hkey : '\n' ∉ f.sourceName := hkeys (.opens depth f.sourceName) List.mem_cons_self
  rw [outlineOfMembers, outlineOfMembers, List.append_nil] at hkeys ⊢
  cases hvalue : innermost? value with
  | none =>
    rw [inlineType_of_scalar hs hdescribes hf hvalue] at htype
    cases htype
    rw [outlineOf_of_none depth hvalue, closing, hvalue]
    exact fits_of_line hmember hkey
      (newline_not_mem_scalar (hmember.scalar (hdescribes.refers.none_of_none hvalue))) withStorage depth w
  | some r =>
    obtain ⟨arrays, inner⟩ := r
    obtain ⟨below, hbelow, hmem, heq⟩ := inlineType_of_object hs hdescribes hvalue
    rw [outlineOf_of_some depth hvalue, closing, hvalue] at hkeys ⊢
    rw [heq] at htype
    cases hbelow with
    | nil =>
      cases htype
      have hempty : '\n' ∉ ("struct\x7b\x7d" : Text) := by decide
      exact fits_of_line hmember hkey (List.not_mem_append (newline_not_mem_brackets arrays) hempty) withStorage depth w
    | @cons g member gs ms hg hgs =>
      cases hrows : renderInner (g :: gs) with
      | error e =>
        simp only [List.isEmpty_cons, Bool.false_eq_true, if_false, hrows] at htype
        cases htype
      | ok rows =>
        simp only [List.isEmpty_cons, Bool.false_eq_true, if_false, hrows] at htype
        cases htype
        obtain ⟨hlength, hfits⟩ := hinner (.cons hg hgs) hmem
          (fun mark hmark => hkeys mark (List.mem_cons_of_mem _ (List.mem_append_left _ hmark))) hrows
        have hne : rows ≠ [] := fun hnil => by
          rw [hnil] at hlength
          cases hlength
        exact fits_of_struct hmember hkey hne hfits arrays withStorage w

/-- The lines of the rows of some members. -/
theorem rows_outline {depth : Nat} {renderInner : List Field → Except TooDeep (List Text)}
    (hinner : RendersOutline s entries (depth + 1) renderInner)
    {fields : List Field} {ms : List (Text × Json)} (hdescribes : List.Forall₂ (Describes entries) fields ms)
    (hfields : ∀ f ∈ fields, f ∈ s.allFields) (hkeys : ∀ mark ∈ outlineOfMembers depth ms, '\n' ∉ mark.key)
    (withStorage : Bool) (w : Widths) {rows : List Row}
    (hrows : (fields.mapM fun f => (inlineType s depth renderInner f).map (rowOf withStorage f)) = .ok rows) :
    List.Forall₂ Mark.Fits (outlineOfMembers depth ms)
      ((rows.map fun r => indentation depth ++ r.render w).flatMap lines) := by
  rw [mapM_eq_ok_iff] at hrows
  induction hdescribes generalizing rows with
  | nil =>
    cases hrows
    exact .nil
  | @cons f member fields ms hf _ ih =>
    obtain ⟨key, value⟩ := member
    cases hrows with
    | @cons _ row _ rows hrow hrest =>
      rw [List.forall_mem_cons] at hfields
      have hsplit : outlineOfMembers depth ((key, value) :: ms) =
          outlineOfMembers depth [(key, value)] ++ outlineOfMembers depth ms := by
        simp [outlineOfMembers]
      rw [hsplit] at hkeys ⊢
      rw [List.forall_mem_append] at hkeys
      cases htype : inlineType s depth renderInner f with
      | error e =>
        rw [htype] at hrow
        cases hrow
      | ok type =>
        rw [htype] at hrow
        cases hrow
        rw [List.map_cons, List.flatMap_cons]
        exact List.rel_append (row_outline hs hinner hfields.1 hf hkeys.1 htype withStorage w)
          (ih hfields.2 hkeys.2 hrest)

/-- The lines of some members in place are their outline, by induction on the room for levels below them. -/
theorem inlineFields_outline (room depth : Nat) (withStorage : Bool) :
    RendersOutline s entries depth (inlineFields s room depth withStorage) := by
  induction room generalizing depth withStorage with
  | zero =>
    have hbelow : RendersOutline s entries (depth + 1) (renderBelow s 0 depth) := fun _ _ _ _ _ _ h => by cases h
    intro fields ms rows hdescribes hfields hkeys h
    obtain ⟨parts, hparts, hlength, rfl⟩ := exists_rows_of_inlineFields h
    exact ⟨hlength, rows_outline hs hbelow hdescribes hfields hkeys withStorage _ hparts⟩
  | succ room ih =>
    have hbelow : RendersOutline s entries (depth + 1) (renderBelow s (room + 1) depth) := ih (depth + 1) false
    intro fields ms rows hdescribes hfields hkeys h
    obtain ⟨parts, hparts, hlength, rfl⟩ := exists_rows_of_inlineFields h
    exact ⟨hlength, rows_outline hs hbelow hdescribes hfields hkeys withStorage _ hparts⟩

/-- The lines of the struct for a document, with nested types in place. -/
theorem lines_document {o : Options} (hinline : o.inlineNestedTypes = true) (hname : '\n' ∉ structName s o)
    (hkeys : ∀ mark ∈ outlineOfMembers 0 members, '\n' ∉ mark.key) {c : Text} (hcode : code s o = .ok c) :
    ∃ inner, lines c = [("// " ++ structName s o ++ " represents a JSON document" : Text),
        "type " ++ structName s o ++ " struct \x7b"] ++ inner ++ [("\x7d" : Text), []] ∧
      List.Forall₂ Mark.Fits (outlineOfMembers 0 members) inner := by
  obtain ⟨rows, hrows, hlines⟩ := lines_code hcode
  rw [fieldLines, if_pos hinline] at hrows
  obtain ⟨-, hfits⟩ := inlineFields_outline hs maxInlineDepth 0 true hs.forest.fields
    (fun f hf => List.mem_append_left _ hf) hkeys hrows
  have hdeclaration : codeLines s o rows = declaration (structName s o) "represents a JSON document" rows := by
    simp [codeLines, hs.tableName, hinline]
  have hcomment : '\n' ∉ ("// " ++ structName s o ++ " " ++ "represents a JSON document" : Text) := by simp [hname]
  have htype : '\n' ∉ ("type " ++ structName s o ++ " struct \x7b" : Text) := by simp [hname]
  refine ⟨rows.flatMap lines, ?_, hfits⟩
  rw [hlines, hdeclaration, declaration, List.flatMap_cons, List.flatMap_cons, List.flatMap_append,
    lines_eq_singleton hcomment, lines_eq_singleton htype, List.flatMap_singleton]
  simp [lines_eq_singleton]

end Document

/-- With nested types in place, the lines between the braces of the struct for a document are its outline. The fields of
the schema have the Go names and the tags of the outline. -/
theorem code_outline {name t : Text} {s : Schema} (h : readSchema name t = .ok s) {o : Options}
    (hinline : o.inlineNestedTypes = true) (hname : '\n' ∉ structName s o) :
    ∃ members c, read t = .ok (.object members) ∧ code s o = .ok c ∧
      (∀ f ∈ s.allFields, f.targetName = Naming.camel f.sourceName ∧
        ∀ withStorage, tag f withStorage = keyTag f.sourceName) ∧
      ((∀ mark ∈ outlineOfMembers 0 members, '\n' ∉ mark.key) →
        ∃ inner, lines c = [("// " ++ structName s o ++ " represents a JSON document" : Text),
            "type " ++ structName s o ++ " struct \x7b"] ++ inner ++ [("\x7d" : Text), []] ∧
          List.Forall₂ Mark.Fits (outlineOfMembers 0 members) inner) := by
  obtain ⟨members, entries, hread, hs⟩ := exists_isSchemaOf h
  obtain ⟨c, hcode⟩ := exists_code hs o
  refine ⟨members, c, hread, hcode, fun f hf => ?_, fun hkeys => lines_document hs hinline hname hkeys hcode⟩
  exact ⟨targetName_of_member (hs.memberFields f hf), tag_of_member (hs.memberFields f hf)⟩

/-- A document with an object in arrays, an empty object, and a key that two objects have. -/
def nestedText : Text :=
  "\x7b\"user\": \x7b\"id\": 1, \"tags\": \x7b\x7d\x7d, \"rows\": [[\x7b\"id\": true\x7d, 0]]\x7d"

/-- The outline of a document. -/
def outlineOfDocument : Json → List Mark
  | .object members => outlineOfMembers 0 members
  | _ => []

/-- The outline of this document. -/
def nestedOutline : List Mark :=
  [.opens 0 "user", .opens 1 "id", .opens 1 "tags", .closes 0 "user", .opens 0 "rows", .opens 1 "id", .closes 0 "rows"]

/-- The lines of the code for the document are those of its outline. -/
theorem code_outline_nestedText :
    ∃ s c inner, readSchema "Response" nestedText = .ok s ∧ code s {} = .ok c ∧
      lines c = [("// " ++ structName s {} ++ " represents a JSON document" : Text),
        "type " ++ structName s {} ++ " struct \x7b"] ++ inner ++ [("\x7d" : Text), []] ∧
      List.Forall₂ Mark.Fits nestedOutline inner := by
  have hread : (readSchema "Response" nestedText).toOption.map (structName · {}) = some ("Response" : Text) := by
    decide +kernel
  have hmarks : (read nestedText).toOption.map outlineOfDocument = some nestedOutline := by decide +kernel
  cases hs : readSchema "Response" nestedText with
  | error e =>
    rw [hs] at hread
    cases hread
  | ok s =>
    rw [hs] at hread
    have hstruct : structName s {} = ("Response" : Text) := Option.some.inj hread
    have hname : '\n' ∉ structName s {} := by
      rw [hstruct]
      decide
    obtain ⟨members, c, hmembers, hcode, -, houtline⟩ := code_outline hs rfl hname
    rw [hmembers] at hmarks
    rw [show outlineOfMembers 0 members = nestedOutline from Option.some.inj hmarks] at houtline
    obtain ⟨inner, hlines, hfits⟩ := houtline (by decide)
    exact ⟨s, c, inner, rfl, hcode, hlines, hfits⟩

end Go

end StructForge
