import StructForge.Proofs.Go.ColumnLines
import StructForge.Proofs.Go.FieldNames

/-!
# The accessor and the fields

The method that tells a table's name is called `TableName`, and so is the field of a column with one of six spellings of
this name (`camel_eq_tableName_iff`). The code declares the method exactly if the options ask for it
(`declaresMethod_iff`), whatever the fields are, and even if the name of the struct is several lines. So the method and a
field have one name exactly if it is asked for, and there is a column with one of the spellings (`accessor_apart_iff`).
-/

namespace StructForge

open Text

/-! ## Spellings of the accessor's name -/

namespace Naming

/-- A capital other than `I` and `S` is the upper case of itself and of its small letter only. -/
theorem eq_of_upperChar_eq_capital {c x : Char} (hx : isCapital x = true) (hI : x ≠ 'I') (hS : x ≠ 'S')
    (h : upperChar c = [x]) : c = x ∨ c = Char.ofNat (x.toNat + 0x20) := by
  have hexpansions : ∀ e ∈ upperExpansions, e.2.length ≠ 1 := by decide
  have hruns : ∀ r ∈ upperRuns, 0x80 ≤ r.image ∨ (r.first = 0x61 ∧ r.image = 0x41) ∨
      (r.first = r.last ∧ (r.image = 'I'.toNat ∨ r.image = 'S'.toNat)) := by decide +kernel
  have hascii := toNat_lt_of_isCapital hx
  rcases upperChar_cases c with ⟨image, himage, hupper⟩ | ⟨-, r, hr, hfirst, hlast, -, hvalid, hupper⟩ | ⟨-, -, hupper⟩
  · have hlength := congrArg List.length (hupper.symm.trans h)
    rw [List.length_map] at hlength
    exact absurd hlength (hexpansions _ himage)
  · obtain rfl := List.singleton_inj.mp (hupper.symm.trans h)
    rw [toNat_ofNat hvalid] at hascii ⊢
    have hname : ∀ d : Char, r.image + (c.toNat - r.first) = d.toNat → Char.ofNat (r.image + (c.toNat - r.first)) = d :=
      fun d hd => by rw [hd, Char.ofNat_toNat]
    rcases hruns r hr with hbeyond | ⟨hfirst', himage⟩ | ⟨hone, himage | himage⟩
    · omega
    · right
      rw [show r.image + (c.toNat - r.first) + 0x20 = c.toNat by omega, Char.ofNat_toNat]
    · exact absurd (hname 'I' (by omega)) hI
    · exact absurd (hname 'S' (by omega)) hS
  · exact .inl (List.singleton_inj.mp (hupper.symm.trans h))

/-- A small letter behind a capital is not of the same upper case. -/
theorem eq_of_upperChar_append {c x y : Char} {v w : Text} (hx : isCapital x = true) (hI : x ≠ 'I') (hS : x ≠ 'S')
    (hy : isSmall y = true) (h : upperChar c ++ v = x :: y :: w) :
    (c = x ∨ c = Char.ofNat (x.toNat + 0x20)) ∧ v = y :: w := by
  obtain ⟨a, as, hupper⟩ := List.exists_cons_of_ne_nil (upperChar_ne_nil c)
  rw [hupper, List.cons_append] at h
  obtain ⟨rfl, hrest⟩ := List.cons_eq_cons.mp h
  cases as with
  | nil => exact ⟨eq_of_upperChar_eq_capital hx hI hS hupper, hrest⟩
  | cons b as =>
    obtain ⟨rfl, -⟩ := List.cons_eq_cons.mp hrest
    have hmem : b ∈ upperChar c := by simp [hupper]
    rcases mem_upperChar hmem (toNat_lt_of_isSmall hy) with hcapital | ⟨rfl, hsmall⟩
    · rw [isSmall_of_isCapital hcapital] at hy
      cases hy
    · rw [hsmall] at hy
      cases hy

section Segments

variable {segs : List Text} (hsegs : ∀ seg ∈ segs, seg ≠ [])
include hsegs

/-- What is capitalised does not start with a small letter. -/
theorem isSmall_head_flatMap_capitalise : (segs.flatMap capitalise).head?.any isSmall = false := by
  cases segs with
  | nil => rfl
  | cons seg segs =>
    obtain ⟨d, t, rfl⟩ := List.exists_cons_of_ne_nil (hsegs seg List.mem_cons_self)
    obtain ⟨a, as, hupper⟩ := List.exists_cons_of_ne_nil (upperChar_ne_nil d)
    rw [List.flatMap_cons, capitalise, hupper, List.cons_append, List.cons_append, List.head?_cons, Option.any_some]
    have hmem : a ∈ upperChar d := hupper ▸ List.mem_cons_self
    refine Bool.eq_false_iff.mpr fun hsmall => ?_
    rcases mem_upperChar hmem (toNat_lt_of_isSmall hsmall) with hcapital | ⟨rfl, hno⟩
    · rw [isSmall_of_isCapital hcapital] at hsmall
      cases hsmall
    · rw [hno] at hsmall
      cases hsmall

theorem eq_nil_of_flatMap_capitalise (h : segs.flatMap capitalise = []) : segs = [] := by
  cases segs with
  | nil => rfl
  | cons seg segs =>
    obtain ⟨d, t, rfl⟩ := List.exists_cons_of_ne_nil (hsegs seg List.mem_cons_self)
    rw [List.flatMap_cons, capitalise, List.append_assoc] at h
    exact absurd (List.append_eq_nil_iff.mp h).1 (upperChar_ne_nil d)

/-- Where a text of capitalised segments may go on behind some characters. -/
theorem split_of_append {u t : Text} (h : u ++ segs.flatMap capitalise = t) :
    (segs = [] ∧ u = t) ∨ ∃ n < t.length, u = t.take n ∧ segs.flatMap capitalise = t.drop n ∧
      (t.drop n).head?.any isSmall = false := by
  subst h
  by_cases hnil : segs = []
  · subst hnil
    exact .inl ⟨rfl, (List.append_nil u).symm⟩
  · have hne : 0 < (segs.flatMap capitalise).length :=
      List.length_pos_iff.mpr fun h => hnil (eq_nil_of_flatMap_capitalise hsegs h)
    refine .inr ⟨u.length, ?_, (List.take_left ..).symm, (List.drop_left ..).symm, ?_⟩
    · rw [List.length_append]
      omega
    · rw [List.drop_left]
      exact isSmall_head_flatMap_capitalise hsegs

end Segments

/-- The segments of the names that become `TableName`. -/
def tableNameSpellings : List (List Text) :=
  [["TableName"], ["tableName"], ["Table", "Name"], ["Table", "name"], ["table", "Name"], ["table", "name"]]

/-- Capitalised and joined, no other segments are `TableName`: the segments start at its capitals. -/
theorem mem_tableNameSpellings {segs : List Text} (hsegs : ∀ seg ∈ segs, seg ≠ [])
    (h : segs.flatMap capitalise = "TableName") : segs ∈ tableNameSpellings := by
  have htable : ("TableName" : Text) = 'T' :: 'a' :: "bleName" := by decide
  have hname : ("Name" : Text) = 'N' :: 'a' :: "me" := by decide
  cases segs with
  | nil => cases h
  | cons seg segs =>
    rw [List.forall_mem_cons] at hsegs
    obtain ⟨c, u, rfl⟩ := List.exists_cons_of_ne_nil hsegs.1
    rw [List.flatMap_cons, capitalise, List.append_assoc, htable] at h
    obtain ⟨hc, hrest⟩ := eq_of_upperChar_append (by decide) (by decide) (by decide) (by decide) h
    rcases split_of_append hsegs.2 hrest with ⟨rfl, rfl⟩ | ⟨n, hn, rfl, hback, hhead⟩
    · rcases hc with rfl | rfl <;> decide
    · have hfour : ∀ n < 8, (("ableName" : Text).drop n).head?.any isSmall = false → n = 4 := by decide
      obtain rfl := hfour n hn hhead
      cases segs with
      | nil => cases hback
      | cons seg segs =>
        rw [List.forall_mem_cons] at hsegs
        obtain ⟨d, v, rfl⟩ := List.exists_cons_of_ne_nil hsegs.2.1
        rw [List.flatMap_cons, capitalise, List.append_assoc] at hback
        obtain ⟨hd, hrest⟩ := eq_of_upperChar_append (by decide) (by decide) (by decide) (by decide) (hback.trans hname)
        rcases split_of_append hsegs.2.2 hrest with ⟨rfl, rfl⟩ | ⟨n, hn, -, -, hhead⟩
        · rcases hc with rfl | rfl <;> rcases hd with rfl | rfl <;> decide
        · have hnone : ∀ n < 3, (("ame" : Text).drop n).head?.any isSmall = true := by decide
          exact absurd (hhead.symm.trans (hnone n hn)) Bool.false_ne_true

/-- The names that become `TableName` are those with the segments of its spellings. -/
theorem camel_eq_tableName_iff (name : Text) : camel name = "TableName" ↔ segments name ∈ tableNameSpellings := by
  constructor
  · intro h
    refine mem_tableNameSpellings (fun _ hseg => (of_mem_runsOf hseg).1) ?_
    rw [camel] at h
    split at h
    · cases h
    · rename_i c t hjoined
      split at h
      · cases h
      · exact hjoined.trans h
  · intro h
    have hspellings : ∀ segs ∈ tableNameSpellings, segs.flatMap capitalise = "TableName" := by decide +kernel
    rw [camel, hspellings _ h]
    rfl

end Naming

namespace Go

/-! ## Lines around a text -/

/-- What stands in front of a text joins its first line. -/
theorem lines_append_left {a : Text} (ha : '\n' ∉ a) (t : Text) :
    ∃ first back, lines t = first :: back ∧ lines (a ++ t) = (a ++ first) :: back := by
  obtain ⟨front, last, first, back, hfront, hback, happend⟩ := exists_splitWhere_append (· == '\n') a t
  obtain ⟨rfl, rfl⟩ : [] = front ∧ a = last := by
    have hone := (lines_eq_singleton ha).symm.trans hfront
    exact (List.append_inj' (show [] ++ [a] = front ++ [last] from hone) rfl).imp_right List.singleton_inj.mp
  exact ⟨first, back, hback, happend⟩

/-- What stands behind a text joins its last line. -/
theorem lines_append_right {b : Text} (hb : '\n' ∉ b) (t : Text) :
    ∃ front last, lines t = front ++ [last] ∧ lines (t ++ b) = front ++ [last ++ b] := by
  obtain ⟨front, last, first, back, hfront, hback, happend⟩ := exists_splitWhere_append (· == '\n') t b
  obtain ⟨rfl, rfl⟩ := List.cons_eq_cons.mp ((lines_eq_singleton hb).symm.trans hback)
  exact ⟨front, last, hfront, happend⟩

/-- Lines that are those of a text but for something in front of the first and something behind the last one. -/
structure LinesAround (a t b : Text) (ls : List Text) : Prop where
  length : ls.length = (lines t).length
  first : ∀ line, ls[0]? = some line → ∃ u, line = a ++ u
  last : ∀ i line, i + 1 = (lines t).length → ls[i]? = some line → ∃ u, line = u ++ b
  inner : ∀ i, i ≠ 0 → i + 1 < (lines t).length → ls[i]? = (lines t)[i]?

theorem linesAround_lines {a b : Text} (ha : '\n' ∉ a) (hb : '\n' ∉ b) (t : Text) :
    LinesAround a t b (lines (a ++ t ++ b)) := by
  obtain ⟨first, back, ht, hleft⟩ := lines_append_left ha t
  obtain ⟨front, last, hleft', hright⟩ := lines_append_right hb (a ++ t)
  rw [hleft] at hleft'
  obtain rfl | ⟨mid, z, rfl⟩ := List.eq_nil_or_concat back
  · obtain ⟨rfl, hlast⟩ := List.append_inj' (show [] ++ [a ++ first] = front ++ [last] from hleft') rfl
    obtain rfl := List.singleton_inj.mp hlast
    rw [hright]
    refine ⟨by rw [ht]; rfl, fun line hline => ?_, fun i line hi hline => ?_, fun i hne hi => ?_⟩
    · exact ⟨first ++ b, by rw [← Option.some.inj hline, List.append_assoc]⟩
    · obtain rfl : i = 0 := by simpa [ht] using hi
      exact ⟨a ++ first, (Option.some.inj hline).symm⟩
    · rw [ht, List.length_singleton] at hi
      omega
  · rw [List.concat_eq_append, ← List.cons_append] at hleft'
    obtain ⟨rfl, hlast⟩ := List.append_inj' hleft' rfl
    obtain rfl := List.singleton_inj.mp hlast
    rw [hright]
    refine ⟨by rw [ht]; simp, fun line hline => ?_, fun i line hi hline => ?_, fun i hne hi => ?_⟩
    · exact ⟨first, (Option.some.inj hline).symm⟩
    · obtain rfl : i = ((a ++ first) :: mid).length := by simpa [ht] using hi
      rw [List.getElem?_concat_length] at hline
      exact ⟨z, (Option.some.inj hline).symm⟩
    · obtain ⟨i, rfl⟩ := Nat.exists_eq_succ_of_ne_zero hne
      have hmid : i < mid.length := by simpa [ht] using hi
      rw [ht, List.concat_eq_append, List.cons_append, List.getElem?_cons_succ, List.getElem?_cons_succ,
        List.getElem?_append_left hmid, List.getElem?_append_left hmid]

/-! ## Methods -/

/-- The lines of a method without parameters that returns a text. -/
def methodLines (struct method value : Text) : List Text :=
  ["func (" ++ struct ++ (") " ++ method ++ "() string \x7b"), indent ++ "return \"" ++ value ++ "\"", "\x7d"]

/-- Among the lines of the code, a method of that name is declared on the struct. -/
def DeclaresMethod (code struct method : Text) : Prop :=
  ∃ value, '\n' ∉ value ∧ (methodLines struct method value).flatMap lines <:+: lines code

theorem accessor_eq (name table : Text) :
    accessor name table =
      [("" : Text), "// TableName returns the table name"] ++ methodLines name "TableName" table := by
  simp [accessor, methodLines]

theorem tableLines_true (name table : Text) (rows : List Text) :
    tableLines name table rows true = tableLines name table rows false ++
      [("" : Text), "// TableName returns the table name"] ++ methodLines name "TableName" table := by
  simp [tableLines, accessor_eq]

/-- With the accessor, the method is among the lines. -/
theorem isInfix_tableLines (name table : Text) (rows : List Text) :
    (methodLines name "TableName" table).flatMap lines <:+: (tableLines name table rows true).flatMap lines ++ [[]] := by
  rw [tableLines_true, List.flatMap_append]
  exact ⟨_, [[]], rfl⟩

/-- The line behind a method's first lines stands behind the lines that open the struct: these are as many as the lines
in front of them and the method's own, so that it would else stand in place of the method's first line, too. -/
theorem mem_of_linesAround {t b b' : Text} {func description type front rest back : List Text} {result : Text}
    (hfunc : LinesAround "func (" t b func) (hdescription : LinesAround "// " t b' description)
    (htype : LinesAround "type " t " struct \x7b" type) (hstart : result.head? = some ' ')
    (hend : result.getLast? = some '"') (h : front ++ (func ++ result :: back) = description ++ (type ++ rest)) :
    result ∈ rest := by
  have hpos : 0 < (lines t).length := List.length_pos_iff.mpr (splitWhere_ne_nil _ t)
  have hlength := hfunc.length
  have hlength' := hdescription.length
  obtain ⟨first, hfirst⟩ : ∃ first, func[0]? = some first :=
    ⟨_, List.getElem?_eq_getElem (by omega)⟩
  obtain ⟨u, hu⟩ := hfunc.first first hfirst
  -- the places of the method's first line and of the line in question
  have hplace : (description ++ (type ++ rest))[front.length]? = some first := by
    rw [← h, List.getElem?_append_right (Nat.le_refl _), Nat.sub_self, List.getElem?_append_left (by omega), hfirst]
  have hplace' : (type ++ rest)[front.length]? = some result := by
    have hresult : (front ++ (func ++ result :: back))[front.length + func.length]? = some result := by
      rw [List.getElem?_append_right (by omega), List.getElem?_append_right (by omega),
        show front.length + func.length - front.length - func.length = 0 by omega]
      rfl
    rwa [h, List.getElem?_append_right (by omega), show front.length + func.length - description.length = front.length by
      omega] at hresult
  by_cases hwithin : front.length < type.length
  · exfalso
    rw [List.getElem?_append_left hwithin] at hplace'
    rw [htype.length] at hwithin
    rw [List.getElem?_append_left (by omega)] at hplace
    rcases Nat.eq_zero_or_pos front.length with hzero | hne
    · obtain ⟨v, rfl⟩ := htype.first result (hzero ▸ hplace')
      cases hstart
    · rcases Nat.lt_or_eq_of_le (Nat.succ_le_of_lt hwithin) with hinner | hlast
      · rw [htype.inner _ (by omega) hinner, ← hdescription.inner _ (by omega) hinner, hplace, hu] at hplace'
        rw [← Option.some.inj hplace'] at hstart
        cases hstart
      · obtain ⟨v, rfl⟩ := htype.last _ result hlast hplace'
        rw [List.getLast?_append_of_ne_nil _ (by decide)] at hend
        cases hend
  · rw [List.getElem?_append_right (by omega)] at hplace'
    exact List.mem_of_getElem? hplace'

/-- Without the accessor, the method is not among the lines: the line that returns something would be a row of the
struct, and that starts with a Go name. -/
theorem not_isInfix_tableLines {name table value : Text} {rows : List Text} (htable : '\n' ∉ table)
    (hvalue : '\n' ∉ value) (hline : ∀ row ∈ rows, '\n' ∉ row)
    (hrows : ∀ row ∈ rows, ∃ goName u, Naming.IsGoName goName ∧ row = indent ++ goName ++ ' ' :: u) :
    ¬(methodLines name "TableName" value).flatMap lines <:+: (tableLines name table rows false).flatMap lines ++ [[]] := by
  rintro ⟨front, back, hsplit⟩
  have hbrace : '\n' ∉ ("\x7d" : Text) := by decide
  have hresult : '\n' ∉ indent ++ "return \"" ++ value ++ "\"" := by simp [indent, hvalue]
  have hmethod : (methodLines name "TableName" value).flatMap lines =
      lines ("func (" ++ name ++ (") " ++ "TableName" ++ "() string \x7b")) ++
        (indent ++ "return \"" ++ value ++ "\"") :: [("\x7d" : Text)] := by
    rw [methodLines, List.flatMap_cons, List.flatMap_cons, List.flatMap_singleton, lines_eq_singleton hresult,
      lines_eq_singleton hbrace]
    rfl
  have hcode : (tableLines name table rows false).flatMap lines ++ [[]] =
      lines ("// " ++ name ++ (" represents the " ++ table ++ " table")) ++
        (lines ("type " ++ name ++ " struct \x7b") ++ (rows ++ [("\x7d" : Text), []])) := by
    rw [tableLines, List.flatMap_append, List.flatMap_append, List.flatMap_append, List.flatMap_cons,
      List.flatMap_singleton, List.flatMap_singleton, flatMap_lines_of_not_mem hline, lines_eq_singleton hbrace]
    simp only [List.append_assoc]
    rfl
  rw [hmethod, hcode, List.append_assoc, List.append_assoc] at hsplit
  have hmem := mem_of_linesAround (linesAround_lines (by decide) (by decide) name)
    (linesAround_lines (by decide) (by simp [htable]) name) (linesAround_lines (by decide) (by decide) name) rfl
    List.getLast?_concat hsplit
  rcases List.mem_append.mp hmem with hrow | hrest
  · obtain ⟨goName, u, hname, hrow⟩ := hrows _ hrow
    obtain ⟨c, v, rfl, hcapital⟩ := hname.start
    rw [List.append_assoc, List.append_assoc, List.append_assoc, List.append_cancel_left_eq] at hrow
    obtain ⟨rfl, -⟩ := List.cons_eq_cons.mp hrow
    cases hcapital (by decide)
  · rw [List.mem_cons, List.mem_singleton] at hrest
    rcases hrest with hrest | hrest <;> cases hrest

end Go

/-! ## Conversions -/

namespace Conversion

open Go Naming

section Result

variable {t : Text} {request : Request} {o : Go.Options} {given : Option Text} {r : Result}
  (h : convert t request o given = .ok r)
include h

/-- A field has the name of the method exactly if its source name has one of the spellings. -/
theorem targetName_eq_tableName_iff {f : Field} (hf : f ∈ r.schema.fields) :
    f.targetName = "TableName" ↔ segments f.sourceName ∈ tableNameSpellings := by
  obtain ⟨-, hread, -⟩ := exists_read_of_convert h
  rw [isNamedAfterSource_of_read hread (List.mem_append_left _ hf), camel_eq_tableName_iff]

variable {dialect : Sql} (hsource : r.source = .sql dialect)
include hsource

/-- The code for a statement declares the method exactly if it is asked for. -/
theorem declaresMethod_iff : DeclaresMethod r.code r.structName "TableName" ↔ o.emitStorageAccessor = true := by
  obtain ⟨-, hread, hcode, hstruct⟩ := exists_read_of_convert h
  rw [hsource, Reader.read_sql_eq_ok] at hread
  obtain ⟨table, htable, hschema, hfields⟩ := Sql.schema_of_readSchema hread
  have htypes : r.schema.nestedTypes = [] := by rw [hschema]
  have htableName : r.schema.tableName = some table := by rw [hschema]
  obtain ⟨rows, hrows, hlines⟩ := lines_code hcode
  rw [fieldLines_of_unnested htypes fun f hf => (hfields f hf).unnested] at hrows
  cases hrows
  rw [codeLines_table htableName htable.ne_nil htypes, ← hstruct] at hlines
  rw [DeclaresMethod, hlines]
  cases o.emitStorageAccessor with
  | true => exact iff_of_true ⟨table, htable.newline_not_mem, isInfix_tableLines _ _ _⟩ rfl
  | false =>
    refine iff_of_false ?_ Bool.false_ne_true
    rintro ⟨value, hvalue, hinfix⟩
    obtain ⟨hstart, hneat⟩ := plainFields_lines hfields true
    refine not_isInfix_tableLines htable.newline_not_mem hvalue (fun row hrow => (hneat row hrow).1) (fun row hrow => ?_)
      hinfix
    obtain ⟨f, hf, u, hu⟩ := exists_mem_of_forall₂ (List.Forall₂.flip hstart) hrow
    exact ⟨f.targetName, u, (hfields f hf).targetName ▸ isGoName_camel _, hu⟩

/-- **The accessor and the fields.** The code for a statement declares the method `TableName` exactly if it is asked
for. It does so without a field of this name exactly if it is not asked for, or no column has one of the spellings. -/
theorem accessor_apart_iff :
    (DeclaresMethod r.code r.structName "TableName" ↔ o.emitStorageAccessor = true) ∧
    ((DeclaresMethod r.code r.structName "TableName" → ∀ f ∈ r.schema.fields, f.targetName ≠ "TableName") ↔
      (o.emitStorageAccessor = true → ∀ f ∈ r.schema.fields, segments f.sourceName ∉ tableNameSpellings)) := by
  have hmethod := declaresMethod_iff h hsource
  exact ⟨hmethod, imp_congr hmethod (forall₂_congr fun f hf => not_congr (targetName_eq_tableName_iff h hf))⟩

end Result

/-- A statement with a column whose name has none of the spellings. -/
def tablesTable : Text := "CREATE TABLE tables (table_names TEXT)"

/-- The code for it has the accessor and no field of its name. -/
theorem accessor_apart_tablesTable :
    ∃ r, convert tablesTable (.byName "mysql") {} none = .ok r ∧ r.source = .sql .mysql ∧
      DeclaresMethod r.code r.structName "TableName" ∧ ∀ f ∈ r.schema.fields, f.targetName ≠ "TableName" := by
  have hresult : (convert tablesTable (.byName "mysql") {} none).toOption.map
      (fun r => (r.source, r.schema.fields.map (·.sourceName))) = some (.sql .mysql, [("table_names" : Text)]) := by
    decide +kernel
  obtain ⟨r, h, hpair⟩ := exists_ok_of_toOption hresult
  obtain ⟨hsource, hnames⟩ := Prod.mk.inj hpair
  obtain ⟨hmethod, hapart⟩ := accessor_apart_iff h hsource
  have hdeclares := hmethod.mpr rfl
  refine ⟨r, h, hsource, hdeclares, hapart.mpr (fun _ f hf => ?_) hdeclares⟩
  have hname := List.mem_map_of_mem (f := (·.sourceName)) hf
  rw [hnames, List.mem_singleton] at hname
  rw [hname]
  decide +kernel

/-- A statement with a column that has the name of the accessor. -/
def namesTable : Text := "CREATE TABLE names (table_name TEXT)"

/-- The code for it has a field and a method of one name. -/
theorem accessor_clash_namesTable :
    ∃ r, convert namesTable (.byName "mysql") {} none = .ok r ∧ r.source = .sql .mysql ∧
      DeclaresMethod r.code r.structName "TableName" ∧ ∃ f ∈ r.schema.fields, f.targetName = "TableName" := by
  have hresult : (convert namesTable (.byName "mysql") {} none).toOption.map
      (fun r => (r.source, r.schema.fields.map (·.targetName))) = some (.sql .mysql, [("TableName" : Text)]) := by
    decide +kernel
  obtain ⟨r, h, hpair⟩ := exists_ok_of_toOption hresult
  obtain ⟨hsource, hnames⟩ := Prod.mk.inj hpair
  refine ⟨r, h, hsource, (declaresMethod_iff h hsource).mpr rfl, List.mem_map.mp ?_⟩
  rw [hnames]
  exact List.mem_cons_self

end Conversion

end StructForge
