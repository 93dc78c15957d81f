import StructForge.Proofs.Conversion
import StructForge.Proofs.Detection.Documents
import StructForge.Proofs.Go.InPlace

/-!
# Documents that are taken for statements

Detection looks for a statement first, in the whole text, so a document in which `CREATE TABLE` occurs is taken for SQL
and any other document with a schema is detected as JSON (`detect_of_readSchema`). Exactly then a conversion without a
dialect is the same as one for JSON: that one always succeeds, and a conversion for SQL never has its result
(`detect_iff_of_readSchema`).
-/

namespace StructForge.Detection

open Text Conversion

/-- A text with a schema stays a document without the blanks around it. -/
theorem isJsonContainer_trim {name t : Text} {s : Schema} (h : Json.readSchema name t = .ok s) :
    isJsonContainer (trim t) = true := by
  obtain ⟨members, hread, -⟩ := Json.exists_fieldsOf_of_readSchema h
  rw [Json.read] at hread
  cases hdocument : Json.readDocument t with
  | error e =>
    rw [hdocument] at hread
    cases hread
  | ok v =>
    rw [hdocument] at hread
    obtain rfl : v = .object members := Except.ok.inj hread
    rw [isJsonContainer, Json.read, Json.readDocument_trim hdocument]
    rfl

/-- A text with a schema is JSON, unless a statement starts in it. -/
theorem detect_of_readSchema {name t : Text} {s : Schema} (h : Json.readSchema name t = .ok s) :
    detect t = if hasStatement t then some (.sql (sqlDialect (trim t))) else some .json := by
  rw [detect]
  simp only [hasStatement_trim, isJsonContainer_trim h, if_true]

/-- The conversion of a document for JSON has a result of JSON, whatever the options. -/
theorem exists_convert_of_readSchema {name t : Text} {s : Schema} (h : Json.readSchema name t = .ok s)
    {request : Request} (hrequest : resolve t request = .ok (some .json)) (o : Go.Options) (given : Option Text) :
    ∃ r, convert t request o given = .ok r ∧ r.source = .json := by
  obtain ⟨s', hs'⟩ := Json.exists_readSchema h (documentName given o)
  obtain ⟨members, entries, -, hschema⟩ := Json.exists_isSchemaOf hs'
  obtain ⟨c, hcode⟩ := Go.exists_code hschema o
  refine ⟨resultOf .json s' o c, ?_, rfl⟩
  rw [convert_of_read hrequest (Reader.read_json_eq_ok.mpr hs'), hcode]
  rfl

/-- A text with a schema is detected as JSON exactly if no statement starts in it, and exactly then it is converted
without a dialect as it is for JSON. -/
theorem detect_iff_of_readSchema {name t : Text} {s : Schema} (h : Json.readSchema name t = .ok s) :
    (detect t = some .json ↔ hasStatement t = false) ∧
      ∀ request, resolve t request = .ok (some .json) → ∀ o given,
        (convert t .detect o given = convert t request o given ↔ hasStatement t = false) := by
  have hdetect := detect_of_readSchema h
  cases hstatement : hasStatement t with
  | false =>
    rw [hstatement, if_neg Bool.false_ne_true] at hdetect
    refine ⟨iff_of_true hdetect rfl, fun request hrequest o given => iff_of_true ?_ rfl⟩
    refine convert_congr ?_ o given
    rw [hrequest, resolve, hdetect]
  | true =>
    rw [hstatement, if_pos rfl] at hdetect
    refine ⟨iff_of_false (by rw [hdetect]; nofun) nofun, fun request hrequest o given => iff_of_false ?_ nofun⟩
    intro heq
    obtain ⟨r, hr, hsource⟩ := exists_convert_of_readSchema h hrequest o given
    obtain ⟨hresolve, -⟩ := exists_read_of_convert (heq.trans hr)
    rw [resolve, hdetect, hsource] at hresolve
    cases hresolve

/-- A document with the words of a statement, but not next to each other. -/
def tableNote : Text := "\x7b\"create\": \"table\"\x7d"

/-- The document is detected, and converted without a dialect as it is for JSON. -/
theorem detect_iff_tableNote :
    (∃ s, Json.readSchema defaultStructName tableNote = .ok s) ∧ detect tableNote = some .json ∧
      ∀ o given, convert tableNote .detect o given = convert tableNote (.byName "json") o given := by
  have hread : (Json.readSchema defaultStructName tableNote).toOption.isSome = true := by decide +kernel
  have hstatement : hasStatement tableNote = false := by decide +kernel
  cases hs : Json.readSchema defaultStructName tableNote with
  | error e =>
    rw [hs] at hread
    cases hread
  | ok s =>
    obtain ⟨hdetect, hconvert⟩ := detect_iff_of_readSchema hs
    exact ⟨⟨s, rfl⟩, hdetect.mpr hstatement, fun o given => (hconvert _ (by rfl) o given).mpr hstatement⟩

/-- A document with the words of a statement in one of its values. -/
def statementNote : Text := "\x7b\"note\": \"create table\"\x7d"

/-- The document has a schema but is taken for MySQL, and fails as that. -/
theorem not_detect_statementNote :
    (∃ s, Json.readSchema defaultStructName statementNote = .ok s) ∧ detect statementNote = some (.sql .mysql) ∧
      convert statementNote .detect {} none ≠ convert statementNote (.byName "json") {} none := by
  have hread : (Json.readSchema defaultStructName statementNote).toOption.isSome = true := by decide +kernel
  refine ⟨?_, by decide +kernel, ?_⟩
  · cases hs : Json.readSchema defaultStructName statementNote with
    | error e =>
      rw [hs] at hread
      cases hread
    | ok s => exact ⟨s, rfl⟩
  · have hdetect : (convert statementNote .detect {} none).toOption.isSome = false := by decide +kernel
    have hjson : (convert statementNote (.byName "json") {} none).toOption.isSome = true := by decide +kernel
    intro heq
    rw [heq, hjson] at hdetect
    cases hdetect

end StructForge.Detection
