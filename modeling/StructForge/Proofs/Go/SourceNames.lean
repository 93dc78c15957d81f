import StructForge.Conversion
import StructForge.Proofs.Go.Rows
import StructForge.Proofs.Go.TagReading
import StructForge.Proofs.Json.Members
import StructForge.Proofs.Sql.Fields

/-!
# Tags and the names of the source

A tag is to give back the name under which a field is serialised, and the column that stores it (`Decodes`). The name
is written into the tag as it is, so it comes back exactly if every character of it stands for itself there
(`decodes_iff_of_unstored`). The names of columns are of this kind, as they are words; the keys of a document need not
be (`decodes_iff`).
-/

namespace StructForge

namespace Go

open Text Text.Utf8

/-! ## What a tag says -/

/-- The value that a tag has for a key. -/
def valueOf? (key tag : Text) : Option Bytes := (rawContent? tag).bind (lookup? key)

/-- The tag of a field gives its serialised name and, where it speaks of storage, its column first. -/
structure Decodes (f : Field) (withStorage : Bool) : Prop where
  json : valueOf? "json" (tag f withStorage) = some (encode f.serializedName)
  gorm : ∀ column, withStorage = true → f.storageColumn = some column → ∃ items,
    valueOf? "gorm" (tag f withStorage) = some (encode items) ∧
      (splitOn ';' items).findSome? (afterPrefix? "column:") = some column

theorem tagPair_eq (key value : Text) : tagPair key value = key ++ ':' :: '"' :: (value ++ ['"']) := by
  simp [tagPair]

theorem isKeyChar_json : ∀ c ∈ ("json" : Text), isKeyChar c = true := by decide

theorem isKeyChar_gorm : ∀ c ∈ ("gorm" : Text), isKeyChar c = true := by decide

/-! ## Plain texts -/

theorem IsPlain.append {t u : Text} (ht : IsPlain t) (hu : IsPlain u) : IsPlain (t ++ u) :=
  List.forall_mem_append.mpr ⟨ht, hu⟩

theorem isPlain_of_isWordChar {t : Text} (h : ∀ c ∈ t, isWordChar c = true) : IsPlain t := by
  have hspecial : ∀ c ∈ special, isWordChar c = false := by decide
  intro c hc hmem
  have hword := h c hc
  rw [hspecial c hmem] at hword
  cases hword

/-- A text that a raw literal can have as its content. -/
def IsRaw (t : Text) : Prop := ∀ c ∈ t, c ≠ backquote ∧ c ≠ '\r'

instance (t : Text) : Decidable (IsRaw t) := inferInstanceAs (Decidable (∀ c ∈ t, c ≠ backquote ∧ c ≠ '\r'))

theorem IsRaw.append {t u : Text} (ht : IsRaw t) (hu : IsRaw u) : IsRaw (t ++ u) :=
  List.forall_mem_append.mpr ⟨ht, hu⟩

theorem IsPlain.isRaw {t : Text} (h : IsPlain t) : IsRaw t := by
  intro c hc
  have hspecial := h c hc
  simp only [special, List.mem_cons, not_or] at hspecial
  exact ⟨hspecial.1, hspecial.2.2.2.2.1⟩

/-- A key and a value with nothing that a raw literal cannot have. -/
theorem isRaw_tagPair {key value : Text} (hkey : IsRaw key) (hvalue : IsRaw value) : IsRaw (tagPair key value) :=
  ((hkey.append (by decide)).append hvalue).append (by decide)

theorem rawContent?_of_isRaw {inner : Text} (h : IsRaw inner) :
    rawContent? (backquote :: (inner ++ [backquote])) = some inner := by
  have hfilter : inner.filter (· ≠ '\r') = inner :=
    List.filter_eq_self.mpr fun c hc => decide_eq_true (h c hc).2
  rw [rawContent?_eq, if_neg fun hmem => (h backquote hmem).1 rfl, hfilter]

/-! ## Fields without storage -/

/-- The value of the key that comes first. -/
theorem lookup?_json (t : Text) :
    lookup? "json" ("json" ++ ':' :: '"' :: t) = (quotedValue? t).bind fun x => unquote? x.1 :=
  lookup?_first (by decide) isKeyChar_json t

/-- A plain name comes back. -/
theorem lookup?_json_of_isPlain {name : Text} (h : IsPlain name) (t : Text) :
    lookup? "json" (tagPair "json" name ++ t) = some (encode name) := by
  have htext : tagPair "json" name ++ t = "json" ++ ':' :: '"' :: (name ++ '"' :: t) := by simp [tagPair]
  rw [htext, lookup?_json, quotedValue?_of_isPlain h, Option.bind_some, unquote?_of_isPlain h]

/-- A plain name comes back from a tag of its own. -/
theorem valueOf?_json_of_isPlain {name : Text} (h : IsPlain name) :
    valueOf? "json" (backquote :: (tagPair "json" name ++ [backquote])) = some (encode name) := by
  have hlookup := lookup?_json_of_isPlain h []
  rw [List.append_nil] at hlookup
  rw [valueOf?, rawContent?_of_isRaw (isRaw_tagPair (by decide) h.isRaw), Option.bind_some, hlookup]

/-- A name that comes back is plain. -/
theorem isPlain_of_valueOf?_json {name : Text}
    (h : valueOf? "json" (backquote :: (tagPair "json" name ++ [backquote])) = some (encode name)) : IsPlain name := by
  have hjson : ("json" : Text).filter (· ≠ '\r') = "json" := by decide
  have hfilter : (tagPair "json" name).filter (· ≠ '\r') =
      "json" ++ ':' :: '"' :: (name.filter (· ≠ '\r') ++ ['"']) := by
    rw [tagPair_eq, List.filter_append, hjson, List.filter_cons_of_pos (by decide), List.filter_cons_of_pos (by decide),
      List.filter_append]
    rfl
  rw [valueOf?, rawContent?_eq] at h
  split at h
  · cases h
  · rename_i hbackquote
    rw [Option.bind_some, hfilter, lookup?_json] at h
    obtain ⟨⟨value, rest⟩, hvalue, hunquote⟩ := Option.bind_eq_some_iff.mp h
    -- the value is a start of the name without its carriage returns
    have happend := append_of_quotedValue? _ hvalue
    have hstart : value <+: name.filter (· ≠ '\r') := by
      have hlength := congrArg List.length happend
      simp only [List.length_append, List.length_cons, List.length_nil] at hlength
      exact List.prefix_of_prefix_length_le (happend ▸ List.prefix_append value _) (List.prefix_append _ ['"'])
        (by omega)
    obtain ⟨heq, hquote, hbackslash, hend⟩ :=
      eq_of_unquote? (hstart.sublist.trans List.filter_sublist) hunquote
    have hreturn : '\r' ∉ name := by
      have hsub := hstart.sublist
      rw [heq] at hsub
      have hself := List.filter_eq_self.mp (List.filter_sublist.eq_of_length_le hsub.length_le)
      exact fun hmem => absurd (hself _ hmem) (by decide)
    have hname : backquote ∉ name := fun hmem => hbackquote (by rw [tagPair_eq]; simp [hmem])
    intro c hc hmem
    simp only [special, List.mem_cons, List.not_mem_nil, or_false] at hmem
    rcases hmem with rfl | rfl | rfl | rfl | rfl
    · exact hname hc
    · exact hquote hc
    · exact hbackslash hc
    · exact hend hc
    · exact hreturn hc

/-! ## Fields with storage -/

/-- Texts joined after a first one. -/
theorem join_cons_eq (sep t : Text) : ∀ ts : List Text, join sep (t :: ts) = t ++ ts.flatMap (sep ++ ·)
  | [] => by simp [join]
  | u :: ts => by
    rw [join_cons_of_ne_nil sep t (List.cons_ne_nil u ts), join_cons_eq sep u ts, List.flatMap_cons]
    simp

/-- What stands in front of the first separator is the first piece. -/
theorem splitOn_append {c : Char} : ∀ {t : Text}, c ∉ t → ∀ {u : Text}, (u = [] ∨ ∃ v, u = c :: v) →
    ∃ pieces, splitOn c (t ++ u) = t :: pieces
  | [], _, u, hu => by
    rcases hu with rfl | ⟨v, rfl⟩
    · exact ⟨[], rfl⟩
    · exact ⟨splitOn c v, by simp [splitOn, splitWhere]⟩
  | d :: t, h, u, hu => by
    rw [List.mem_cons, not_or] at h
    obtain ⟨pieces, hpieces⟩ := splitOn_append h.2 hu
    have hd : (d == c) = false := by simpa using Ne.symm h.1
    refine ⟨pieces, ?_⟩
    rw [splitOn] at hpieces ⊢
    rw [List.cons_append, splitWhere, hd, hpieces]
    rfl

/-- What a tag says of the storage of a field, as one text. -/
def storageText (f : Field) (column : Text) : Text := join ";" (storageItems f column)

/-- The column comes first, and something else only behind a semicolon. -/
theorem storageText_eq (f : Field) (column : Text) : ∃ u, storageText f column = "column:" ++ column ++ u ∧
    IsPlain u ∧ (u = [] ∨ ∃ v, u = ';' :: v) := by
  have hflag : ∀ {isSet : Bool} {item : Text}, IsPlain item → ∀ g ∈ flag isSet item, IsPlain g := by
    intro isSet item hitem g hg
    cases isSet with
    | false => cases hg
    | true => exact List.mem_singleton.mp hg ▸ hitem
  let flags := flag f.isPrimaryKey "primaryKey" ++ flag f.isAutoIncrement "autoIncrement" ++
    flag (!f.nullable) "not null"
  have hflags : ∀ g ∈ flags, IsPlain g := List.forall_mem_append.mpr
    ⟨List.forall_mem_append.mpr ⟨hflag (by decide), hflag (by decide)⟩, hflag (by decide)⟩
  refine ⟨flags.flatMap (";" ++ ·), join_cons_eq ";" ("column:" ++ column) flags, ?_, ?_⟩
  · intro c hc
    obtain ⟨g, hg, hc⟩ := List.mem_flatMap.mp hc
    exact (by decide : IsPlain ";").append (hflags g hg) c hc
  · cases flags with
    | nil => exact .inl rfl
    | cons g gs => exact .inr ⟨_, rfl⟩

/-- The tag of a field with storage in it. -/
theorem tag_of_stored {f : Field} {column : Text} (h : f.storageColumn = some column) :
    tag f true = backquote ::
      ((tagPair "json" f.serializedName ++ ' ' :: tagPair "gorm" (storageText f column)) ++ [backquote]) := by
  have hjoin : join " " [tagPair "json" f.serializedName, tagPair "gorm" (storageText f column)] =
      tagPair "json" f.serializedName ++ ' ' :: tagPair "gorm" (storageText f column) := by
    simp [join]
  rw [← hjoin, tag, h]
  rfl

/-- Without storage, the name of a field comes back exactly if it is plain. -/
theorem decodes_iff_of_unstored {f : Field} (h : f.storageColumn = none) (withStorage : Bool) :
    Decodes f withStorage ↔ IsPlain f.serializedName := by
  have htag := tag_of_unstored fun _ : withStorage = true => h
  constructor
  · intro hdecodes
    exact isPlain_of_valueOf?_json (htag ▸ hdecodes.json)
  · intro hplain
    refine ⟨htag ▸ valueOf?_json_of_isPlain hplain, fun column _ hcolumn => ?_⟩
    rw [h] at hcolumn
    cases hcolumn

/-- The storage in a tag comes back. -/
theorem lookup?_gorm {name items : Text} (hname : IsPlain name) (hitems : IsPlain items) :
    lookup? "gorm" (tagPair "json" name ++ ' ' :: tagPair "gorm" items) = some (encode items) := by
  have hnext : lookup? "gorm" ("json" ++ ':' :: '"' :: (name ++ '"' :: (' ' :: tagPair "gorm" items))) =
      lookup? "gorm" (' ' :: tagPair "gorm" items) :=
    lookup?_next (by decide) isKeyChar_json (by decide) hname _
  have hfirst : lookup? "gorm" ("gorm" ++ ':' :: '"' :: (items ++ ['"'])) =
      (quotedValue? (items ++ ['"'])).bind fun x => unquote? x.1 :=
    lookup?_first (by decide) isKeyChar_gorm _
  have htext : tagPair "json" name ++ ' ' :: tagPair "gorm" items =
      "json" ++ ':' :: '"' :: (name ++ '"' :: (' ' :: tagPair "gorm" items)) := by
    rw [tagPair_eq "json"]
    simp
  rw [htext, hnext, lookup?_space, tagPair_eq, hfirst, quotedValue?_of_isPlain hitems, Option.bind_some,
    unquote?_of_isPlain hitems]

/-- What a tag says of the storage of a field is plain where the name of its column is. -/
theorem isPlain_storageText (f : Field) {column : Text} (h : IsPlain column) : IsPlain (storageText f column) := by
  obtain ⟨u, htext, hu, -⟩ := storageText_eq f column
  rw [htext]
  exact ((by decide : IsPlain "column:").append h).append hu

section Stored

variable {f : Field} (h : f.storageColumn = some f.serializedName) (hplain : IsPlain f.serializedName)
include h hplain

/-- The content of the tag of a field that is stored under its name. -/
theorem rawContent?_of_stored : rawContent? (tag f true) =
    some (tagPair "json" f.serializedName ++ ' ' :: tagPair "gorm" (storageText f f.serializedName)) := by
  have hjson := isRaw_tagPair (by decide : IsRaw "json") hplain.isRaw
  have hgorm := isRaw_tagPair (by decide : IsRaw "gorm") (isPlain_storageText f hplain).isRaw
  rw [tag_of_stored h]
  exact rawContent?_of_isRaw (hjson.append ((by decide : IsRaw " ").append hgorm))

/-- What the tag says of the storage. -/
theorem valueOf?_gorm_of_stored : valueOf? "gorm" (tag f true) = some (encode (storageText f f.serializedName)) := by
  rw [valueOf?, rawContent?_of_stored h hplain, Option.bind_some, lookup?_gorm hplain (isPlain_storageText f hplain)]

end Stored

/-- A field that is stored under its name comes back if the name is a word. -/
theorem decodes_of_stored {f : Field} (h : f.storageColumn = some f.serializedName)
    (hword : ∀ c ∈ f.serializedName, isWordChar c = true) (withStorage : Bool) : Decodes f withStorage := by
  have hplain := isPlain_of_isWordChar hword
  cases withStorage with
  | false =>
    have htag : tag f false = backquote :: (tagPair "json" f.serializedName ++ [backquote]) :=
      tag_of_unstored fun hfalse => by cases hfalse
    exact ⟨htag ▸ valueOf?_json_of_isPlain hplain, fun _ hfalse => by cases hfalse⟩
  | true =>
    obtain ⟨u, htext, -, hstart⟩ := storageText_eq f f.serializedName
    have hcolumn : ';' ∉ ("column:" : Text) ++ f.serializedName := by
      intro hmem
      rcases List.mem_append.mp hmem with hmem | hmem
      · exact absurd hmem (by decide)
      · exact absurd (hword _ hmem) (by decide)
    obtain ⟨pieces, hpieces⟩ := splitOn_append hcolumn hstart
    refine ⟨?_, fun column _ hsome => ⟨storageText f f.serializedName, valueOf?_gorm_of_stored h hplain, ?_⟩⟩
    · rw [valueOf?, rawContent?_of_stored h hplain, Option.bind_some, lookup?_json_of_isPlain hplain]
    · rw [h] at hsome
      cases hsome
      rw [htext, hpieces, List.findSome?_cons, afterPrefix?_append]

end Go

/-! ## Names of columns -/

namespace Sql

open Text

/-- The fields of a statement are stored under their names, which are words. -/
theorem stored_of_readSchema {dialect : Sql} {t : Text} {schema : Schema} (h : readSchema dialect t = .ok schema)
    {f : Field} (hf : f ∈ schema.allFields) :
    f.storageColumn = some f.serializedName ∧ ∀ c ∈ f.serializedName, isWordChar c = true := by
  obtain ⟨table, _, hschema, hfields⟩ := schema_of_readSchema h
  rw [hschema] at hf
  have hmem : f ∈ schema.fields := by simpa [Schema.allFields] using hf
  exact ⟨(hfields f hmem).stored, (hfields f hmem).name.chars⟩

end Sql

/-! ## Keys of documents -/

namespace Json

/-- The fields of a document are stored in no column. -/
theorem unstored_of_readSchema {structName t : Text} {schema : Schema} (h : readSchema structName t = .ok schema)
    {f : Field} (hf : f ∈ schema.allFields) : f.storageColumn = none := by
  obtain ⟨key, value, shape, rfl⟩ := (isMemberField_of_readSchema h hf).made
  rfl

end Json

/-! ## Tags of schemas -/

namespace Go

open Text

/-- What is read from a text has tags that give back its names, except for the keys of a document that are not plain. -/
theorem decodes_iff {source : Source} {structName t : Text} {schema : Schema}
    (h : (Reader.ofSource structName source).read t = .ok schema) {f : Field} (hf : f ∈ schema.allFields)
    (withStorage : Bool) :
    (Decodes f withStorage ↔ IsPlain f.serializedName) ∧
      ∀ dialect, source = .sql dialect → IsPlain f.serializedName := by
  cases source with
  | sql dialect =>
    have hread : ((Sql.readSchema dialect t).mapError SchemaError.statement) = .ok schema := h
    cases hschema : Sql.readSchema dialect t with
    | error e =>
      rw [hschema] at hread
      cases hread
    | ok schema' =>
      rw [hschema] at hread
      cases hread
      obtain ⟨hstored, hword⟩ := Sql.stored_of_readSchema hschema hf
      have hplain := isPlain_of_isWordChar hword
      exact ⟨iff_of_true (decodes_of_stored hstored hword withStorage) hplain, fun _ _ => hplain⟩
  | json =>
    have hread : ((Json.readSchema structName t).mapError SchemaError.document) = .ok schema := h
    cases hschema : Json.readSchema structName t with
    | error e =>
      rw [hschema] at hread
      cases hread
    | ok schema' =>
      rw [hschema] at hread
      cases hread
      exact ⟨decodes_iff_of_unstored (Json.unstored_of_readSchema hschema hf) withStorage, nofun⟩

/-- A field of a document by its name. -/
theorem exists_field (t : Text) (names : List Text) {name : Text}
    (h : (Json.readSchema defaultStructName t).toOption.map (·.allFields.map (·.serializedName)) = some names)
    (hname : name ∈ names) :
    ∃ schema f, Json.readSchema defaultStructName t = .ok schema ∧
      (Reader.ofSource defaultStructName .json).read t = .ok schema ∧ f ∈ schema.allFields ∧
      f.serializedName = name := by
  cases hschema : Json.readSchema defaultStructName t with
  | error e =>
    rw [hschema] at h
    cases h
  | ok schema =>
    rw [hschema] at h
    cases h
    obtain ⟨f, hf, hname⟩ := List.mem_map.mp hname
    refine ⟨schema, f, rfl, ?_, hf, hname⟩
    show (Json.readSchema defaultStructName t).mapError _ = _
    rw [hschema]
    rfl

/-- A key with a space comes back, in a nested type too. -/
theorem decodes_spacedKey :
    ∃ schema f, (Reader.ofSource defaultStructName .json).read "\x7b\"user\": \x7b\"first name\": \"Ada\"\x7d\x7d" =
      .ok schema ∧ f ∈ schema.allFields ∧ f.serializedName = "first name" ∧ Decodes f true := by
  obtain ⟨schema, f, _, hread, hf, hname⟩ :=
    exists_field "\x7b\"user\": \x7b\"first name\": \"Ada\"\x7d\x7d" ["user", "first name"] (by decide +kernel)
      (List.mem_cons_of_mem _ List.mem_cons_self)
  exact ⟨schema, f, hread, hf, hname, (decodes_iff hread hf true).1.mpr (by rw [hname]; decide)⟩

/-- A key with a quote does not come back. -/
theorem not_decodes_quotedKey :
    ∃ schema f, (Reader.ofSource defaultStructName .json).read "\x7b\"a\\\"b\": 1\x7d" = .ok schema ∧
      f ∈ schema.allFields ∧ f.serializedName = "a\"b" ∧ tag f true = "\x60json:\"a\"b\"\x60" ∧ ¬Decodes f true := by
  obtain ⟨schema, f, hschema, hread, hf, hname⟩ :=
    exists_field "\x7b\"a\\\"b\": 1\x7d" ["a\"b"] (by decide +kernel) List.mem_cons_self
  have hnone := Json.unstored_of_readSchema hschema hf
  refine ⟨schema, f, hread, hf, hname, ?_, ?_⟩
  · rw [tag_of_unstored fun _ => hnone, hname]
    rfl
  · rw [decodes_iff_of_unstored hnone, hname]
    decide

end Go

end StructForge
