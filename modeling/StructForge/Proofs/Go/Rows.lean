import StructForge.Go.Struct
import StructForge.Go.TypeName
import StructForge.Proofs.Text.Lines

/-!
# Rows as lines

A row starts with its name and a space, however wide the columns are (`Row.exists_render`). It has no newline where
none of its parts has one (`Row.newline_not_mem_render`), and ends in ink: its last part is a tag or a visible comment
(`Row.endsInk_render`). The lines of the code are those of its parts, and an empty one at the end (`lines_code`).
-/

namespace StructForge.Go

open Text

/-! ## Indentation and padding -/

theorem indentation_eq (depth : Nat) : indentation depth = List.replicate (4 * (depth + 1)) ' ' := by
  induction depth with
  | zero => rfl
  | succ depth ih =>
    have hstep : indentation (depth + 1) = List.replicate 4 ' ' ++ indentation depth := rfl
    rw [hstep, ih, List.replicate_append_replicate]
    congr 1
    omega

theorem newline_not_mem_indentation (depth : Nat) : '\n' ∉ indentation depth := by
  rw [indentation_eq, List.mem_replicate]
  rintro ⟨-, h⟩
  cases h

theorem newline_not_mem_padRight {t : Text} (h : '\n' ∉ t) (width : Nat) : '\n' ∉ padRight width t := by
  rw [padRight, List.mem_append, List.mem_replicate]
  rintro (hmem | ⟨-, hmem⟩)
  · exact h hmem
  · cases hmem

/-- The padding may as well stand behind the space that follows it. -/
theorem padRight_space (width : Nat) (t u : Text) :
    padRight width t ++ ' ' :: u = t ++ ' ' :: (List.replicate (width - t.length) ' ' ++ u) := by
  have hmove : ∀ n, List.replicate n ' ' ++ ' ' :: u = ' ' :: (List.replicate n ' ' ++ u) := by
    intro n
    induction n with
    | zero => rfl
    | succ n ih => rw [List.replicate_succ, List.cons_append, ih, List.cons_append]
  rw [padRight, List.append_assoc, hmove]

/-! ## Types and tags -/

theorem newline_not_mem_slices {element : Text} (h : '\n' ∉ element) : ∀ depth, '\n' ∉ TypeName.slices depth element
  | 0 => h
  | depth + 1 => List.not_mem_append (by decide) (newline_not_mem_slices h depth)

theorem endsInk_tag (f : Field) (withStorage : Bool) : EndsInk (tag f withStorage) :=
  EndsInk.append ⟨[], backquote, rfl, by decide⟩ _

theorem newline_not_mem_storageItems {f : Field} {column : Text} (h : '\n' ∉ column) :
    ∀ item ∈ storageItems f column, '\n' ∉ item := by
  have hcolumn : '\n' ∉ ("column:" ++ column : Text) := List.not_mem_append (by decide) h
  have hflag : ∀ {isSet : Bool} {item : Text}, '\n' ∉ item → ∀ i ∈ flag isSet item, '\n' ∉ i := by
    intro isSet item hitem i hi
    cases isSet with
    | true => rwa [List.mem_singleton.mp hi]
    | false => cases hi
  simp only [storageItems, List.forall_mem_append, List.forall_mem_singleton]
  exact ⟨⟨⟨hcolumn, hflag (by decide)⟩, hflag (by decide)⟩, hflag (by decide)⟩

theorem newline_not_mem_tagPair {key value : Text} (hkey : '\n' ∉ key) (hvalue : '\n' ∉ value) :
    '\n' ∉ tagPair key value := by
  simp [tagPair, hkey, hvalue]

/-- A tag is one line if the names in it are. -/
theorem newline_not_mem_tag {f : Field} (hname : '\n' ∉ f.serializedName)
    (hcolumn : ∀ column, f.storageColumn = some column → '\n' ∉ column) (withStorage : Bool) :
    '\n' ∉ tag f withStorage := by
  have hjson : '\n' ∉ tagPair "json" f.serializedName := newline_not_mem_tagPair (by decide) hname
  have hquotes : ∀ {pairs : List Text}, (∀ pair ∈ pairs, '\n' ∉ pair) →
      '\n' ∉ [backquote] ++ join " " (tagPair "json" f.serializedName :: pairs) ++ [backquote] := by
    intro pairs hpairs
    have hjoin : '\n' ∉ join " " (tagPair "json" f.serializedName :: pairs) :=
      not_mem_join (by decide) (List.forall_mem_cons.mpr ⟨hjson, hpairs⟩)
    simpa [backquote] using hjoin
  rw [tag]
  cases hstorage : f.storageColumn with
  | none => exact hquotes nofun
  | some column =>
    cases withStorage with
    | false => exact hquotes nofun
    | true =>
      refine hquotes (List.forall_mem_singleton.mpr ?_)
      exact newline_not_mem_tagPair (by decide)
        (not_mem_join (by decide) (newline_not_mem_storageItems (hcolumn column hstorage)))

/-- The tag of a field without storage in it. -/
theorem tag_of_unstored {f : Field} {withStorage : Bool} (h : withStorage = true → f.storageColumn = none) :
    tag f withStorage = backquote :: (tagPair "json" f.serializedName ++ [backquote]) := by
  rw [tag]
  cases withStorage with
  | false => cases f.storageColumn <;> rfl
  | true =>
    rw [h rfl]
    rfl

/-! ## Rows -/

namespace Row

variable (w : Widths) (r : Row)

theorem exists_declaration : ∃ u, r.declaration w = r.name ++ ' ' :: u := by
  simp only [declaration, List.append_assoc]
  exact ⟨_, padRight_space w.name r.name _⟩

/-- A row starts with its name and a space. -/
theorem exists_render : ∃ u, r.render w = r.name ++ ' ' :: u := by
  obtain ⟨u, hu⟩ := r.exists_declaration w
  rw [render]
  split
  · exact ⟨u, hu⟩
  · rename_i comment _
    dsimp only
    split
    · exact ⟨u ++ " // " ++ comment, by simp [hu]⟩
    · exact ⟨u ++ List.replicate (w.name + w.type + w.tag + 2 - (r.declaration w).length) ' ' ++ " // " ++ comment, by
        simp [hu, padRight]⟩

variable {w r}

theorem newline_not_mem_declaration (hname : '\n' ∉ r.name) (htype : '\n' ∉ r.type) (htag : '\n' ∉ r.tag) :
    '\n' ∉ r.declaration w := by
  have hpadded : '\n' ∉ (if r.isMultiLine then r.type else padRight w.type r.type) := by
    split
    · exact htype
    · exact newline_not_mem_padRight htype _
  simp only [declaration, List.mem_append, not_or]
  exact ⟨⟨⟨⟨newline_not_mem_padRight hname _, by decide⟩, hpadded⟩, by decide⟩, htag⟩

/-- A row is one line if its parts are. -/
theorem newline_not_mem_render (hname : '\n' ∉ r.name) (htype : '\n' ∉ r.type) (htag : '\n' ∉ r.tag)
    (hcomment : ∀ comment, r.visibleComment = some comment → '\n' ∉ comment) : '\n' ∉ r.render w := by
  have hfront := newline_not_mem_declaration (w := w) hname htype htag
  rw [render]
  split
  · exact hfront
  · rename_i comment hvisible
    have hpadded : '\n' ∉ (if r.isMultiLine then r.declaration w
        else padRight (w.name + w.type + w.tag + 2) (r.declaration w)) := by
      split
      · exact hfront
      · exact newline_not_mem_padRight hfront _
    simp only [List.mem_append, not_or]
    exact ⟨⟨hpadded, by decide⟩, hcomment comment hvisible⟩

/-- A row ends in its tag or in its comment. -/
theorem endsInk_render (htag : EndsInk r.tag)
    (hcomment : ∀ comment, r.visibleComment = some comment → EndsInk comment) : EndsInk (r.render w) := by
  rw [render]
  split
  · exact htag.append _
  · rename_i comment hvisible
    exact (hcomment comment hvisible).append _

end Row

/-! ## Fields in place -/

/-- The lines of the fields of nested types, where there is room for that many levels below. -/
def renderBelow (s : Schema) : (room : Nat) → (depth : Nat) → List Field → Except TooDeep (List Text)
  | 0, _ => fun _ => .error .tooDeep
  | room + 1, depth => inlineFields s room (depth + 1) false

theorem inlineFields_eq (s : Schema) (room depth : Nat) (withStorage : Bool) (fields : List Field) :
    inlineFields s room depth withStorage fields =
      (fields.mapM fun f => (inlineType s depth (renderBelow s room depth) f).map (rowOf withStorage f)).map
        (renderRows depth) := by
  cases room <;> rw [inlineFields, renderBelow]

/-! ## Code -/

theorem codeLines_ne_nil (s : Schema) (o : Options) (fields : List Text) : codeLines s o fields ≠ [] := by
  simp [codeLines, declaration]

/-- The lines of the code for a schema. -/
theorem lines_code {s : Schema} {o : Options} {c : Text} (h : code s o = .ok c) :
    ∃ fields, fieldLines s o = .ok fields ∧ lines c = (codeLines s o fields).flatMap lines ++ [[]] := by
  rw [code] at h
  cases hfields : fieldLines s o with
  | error e =>
    rw [hfields] at h
    cases h
  | ok fields =>
    rw [hfields] at h
    cases h
    exact ⟨fields, rfl, lines_join_newline (codeLines_ne_nil s o fields)⟩

end StructForge.Go
