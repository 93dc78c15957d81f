import Mathlib.Data.List.Induction
import StructForge.Proofs.Conversion
import StructForge.Proofs.Go.InPlace
import StructForge.Proofs.Sql.Fields

/-!
# The imports of a schema

Packages are found by the text of a type. The types of fields are slices of a type of columns, of a type of scalars or
of a nested type, and among those the text of a type shows a package exactly if its elements are the package's type
(`ShowsPackage`). Imports are the packages in the order in which they are first met (`pairwise_foldl_addImport`), each
of them once (`nodup_foldl_addImport`), so that what is imported for a text is what its fields need
(`imports_convert`), and nothing is imported for a document.
-/

namespace StructForge.Go

open Text Json

/-! ## Parts of a text -/

/-- A part that starts with another character is in what follows. -/
theorem occursIn_cons_of_ne {a c : Char} (h : a ≠ c) (part t : Text) :
    occursIn (a :: part) (c :: t) = occursIn (a :: part) t := by
  rw [occursIn, startsWith, afterPrefix?, if_neg h]
  rfl

theorem mem_of_occursIn {part t : Text} {c : Char} (h : occursIn part t = true) (hc : c ∈ part) : c ∈ t := by
  induction t with
  | nil =>
    rw [occursIn, List.isEmpty_iff] at h
    rw [h] at hc
    cases hc
  | cons d t ih =>
    rw [occursIn, Bool.or_eq_true] at h
    rcases h with h | h
    · obtain ⟨rest, hrest⟩ := Option.isSome_iff_exists.mp h
      rw [eq_append_of_afterPrefix? hrest]
      exact List.mem_append_left rest hc
    · exact List.mem_cons_of_mem d (ih h)

/-! ## Paths in order -/

/-- One path is met, and another one not before it. -/
def MetBefore (paths : List Text) (path path' : Text) : Prop :=
  ∃ front back, paths = front ++ path :: back ∧ path' ∉ front ++ [path]

theorem MetBefore.append {paths : List Text} {path path' : Text} (h : MetBefore paths path path') (more : List Text) :
    MetBefore (paths ++ more) path path' := by
  obtain ⟨front, back, rfl, hnot⟩ := h
  exact ⟨front, back ++ more, by rw [List.append_assoc, List.cons_append], hnot⟩

theorem foldl_addImport_append_singleton (paths : List Text) (path : Text) :
    (paths ++ [path]).foldl addImport [] = addImport (paths.foldl addImport []) path := by
  rw [List.foldl_append, List.foldl_cons, List.foldl_nil]

theorem mem_addImport {imports : List Text} {path path' : Text} :
    path' ∈ addImport imports path ↔ path' ∈ imports ∨ path' = path := by
  rw [addImport]
  split
  · rename_i hmem
    rw [List.contains_iff_mem] at hmem
    refine ⟨Or.inl, fun h => ?_⟩
    rcases h with h | rfl
    · exact h
    · exact hmem
  · rw [List.mem_append, List.mem_singleton]

theorem mem_foldl_addImport {paths : List Text} {path : Text} : path ∈ paths.foldl addImport [] ↔ path ∈ paths := by
  induction paths using List.reverseRecOn with
  | nil => rfl
  | append_singleton paths last ih =>
    rw [foldl_addImport_append_singleton, mem_addImport, ih, List.mem_append, List.mem_singleton]

theorem nodup_foldl_addImport (paths : List Text) : (paths.foldl addImport []).Nodup := by
  induction paths using List.reverseRecOn with
  | nil => exact List.nodup_nil
  | append_singleton paths last ih =>
    rw [foldl_addImport_append_singleton, addImport]
    split
    · exact ih
    · rename_i hnew
      rw [List.contains_iff_mem] at hnew
      exact ih.append (List.nodup_singleton last) (List.disjoint_singleton.mpr hnew)

/-- Paths are listed in the order in which they are met, by induction from the end: a path that is added was not met
before. -/
theorem pairwise_foldl_addImport (paths : List Text) :
    (paths.foldl addImport []).Pairwise (MetBefore paths) := by
  induction paths using List.reverseRecOn with
  | nil => exact .nil
  | append_singleton paths last ih =>
    have hlisted : (paths.foldl addImport []).Pairwise (MetBefore (paths ++ [last])) := ih.imp fun h => h.append [last]
    rw [foldl_addImport_append_singleton, addImport]
    split
    · exact hlisted
    · rename_i hnew
      rw [List.contains_iff_mem, mem_foldl_addImport] at hnew
      rw [List.pairwise_append]
      refine ⟨hlisted, List.pairwise_singleton _ _, fun path hpath last' hlast => ?_⟩
      rw [List.mem_singleton.mp hlast]
      obtain ⟨front, back, hpaths⟩ := List.append_of_mem (mem_foldl_addImport.mp hpath)
      refine MetBefore.append ⟨front, back, hpaths, fun hmem => hnew ?_⟩ [last]
      rw [hpaths]
      rcases List.mem_append.mp hmem with hmem | hmem
      · exact List.mem_append_left _ hmem
      · exact List.mem_append_right _ (List.mem_singleton.mp hmem ▸ List.mem_cons_self)

/-! ## The package of a type -/

/-- The type is a given one, or slices of it. -/
def IsSlicesOf (base type : Text) : Prop := ∃ depth, type = TypeName.slices depth base

/-- A type needs a package if its elements are the package's type. -/
def Needs (path type : Text) : Prop :=
  path = "time" ∧ IsSlicesOf "time.Time" type ∨ path = "encoding/json" ∧ IsSlicesOf "json.RawMessage" type

/-- The package of a type, by the name of its elements. -/
def package? (type : Text) : Option Text := packagedTypes.lookup (elementName type)

/-- The text of a type shows the package that the type needs, and no other. -/
structure ShowsPackage (type : Text) : Prop where
  shown : packagesOf type = (package? type).toList
  needed : ∀ path, package? type = some path ↔ Needs path type

theorem package?_of_needs {path type : Text} (h : Needs path type) : package? type = some path := by
  obtain ⟨rfl, depth, rfl⟩ | ⟨rfl, depth, rfl⟩ := h
  · rw [package?, elementName_slices]
    rfl
  · rw [package?, elementName_slices]
    rfl

theorem packagesOf_slices (depth : Nat) (element : Text) :
    packagesOf (TypeName.slices depth element) = packagesOf element := by
  have hslice : ∀ t, packagesOf (TypeName.slice t) = packagesOf t := by
    intro t
    rw [packagesOf, packagesOf, List.filter_congr fun packaged hpackaged => ?_]
    have hstart : ∃ a part, packaged.1 = a :: part ∧ a ≠ '[' ∧ a ≠ ']' := by
      rcases List.mem_pair.mp hpackaged with rfl | rfl
      · exact ⟨'t', "ime.Time", rfl, by decide, by decide⟩
      · exact ⟨'j', "son.RawMessage", rfl, by decide, by decide⟩
    obtain ⟨a, part, hpart, hopen, hclose⟩ := hstart
    rw [hpart]
    exact (occursIn_cons_of_ne hopen part _).trans (occursIn_cons_of_ne hclose part t)
  induction depth with
  | zero => rfl
  | succ depth ih => rw [TypeName.slices, hslice, ih]

theorem package?_slices (depth : Nat) (element : Text) :
    package? (TypeName.slices depth element) = package? element := by
  rw [package?, elementName_slices, package?]

/-- Slices show a package if their elements do, and if these are no slices of the package's type themselves. -/
theorem showsPackage_slices {base : Text} (hshown : packagesOf base = (package? base).toList)
    (hbase : (package? base).isSome = true → elementName base = base) (depth : Nat) :
    ShowsPackage (TypeName.slices depth base) := by
  refine ⟨by rw [packagesOf_slices, package?_slices, hshown], fun path => ⟨fun h => ?_, package?_of_needs⟩⟩
  rw [package?_slices] at h
  have helement := hbase (by rw [h]; rfl)
  have hpackaged : (base, path) ∈ packagedTypes := by
    rw [package?, helement] at h
    obtain ⟨front, back, hsplit, -⟩ := List.lookup_eq_some_iff.mp h
    rw [hsplit]
    exact List.mem_append_right _ List.mem_cons_self
  rcases List.mem_pair.mp hpackaged with heq | heq
  · cases heq
    exact .inl ⟨rfl, depth, rfl⟩
  · cases heq
    exact .inr ⟨rfl, depth, rfl⟩

theorem showsPackage_of_isColumnType {type : Text} (h : Sql.IsColumnType type) : ShowsPackage type := by
  have htypes : ∀ base ∈ Sql.columnTypes, packagesOf base = (package? base).toList ∧
      ((package? base).isSome = true → elementName base = base) := by decide
  obtain ⟨depth, base, hbase, rfl⟩ := h
  exact showsPackage_slices (htypes base hbase).1 (htypes base hbase).2 depth

/-- Slices of what shows no package need none. -/
theorem showsPackage_of_unpackaged {base : Text} (hshown : packagesOf base = []) (hnone : package? base = none)
    (depth : Nat) :
    ShowsPackage (TypeName.slices depth base) ∧ package? (TypeName.slices depth base) = none := by
  refine ⟨showsPackage_slices (by rw [hshown, hnone]; rfl) (fun h => ?_) depth, by rw [package?_slices, hnone]⟩
  rw [hnone] at h
  cases h

/-- A Go name has no dot, and the types from packages have one. -/
theorem packagesOf_goName {name : Text} (h : Naming.IsGoName name) : packagesOf name = [] ∧ package? name = none := by
  have hdot : '.' ∉ name := h.not_mem (by decide) (by decide +kernel)
  have htypes : ∀ packaged ∈ packagedTypes, '.' ∈ packaged.1 := by decide
  constructor
  · rw [packagesOf, List.filter_eq_nil_iff.mpr fun packaged hpackaged hoccurs => ?_]
    · rfl
    · exact hdot (mem_of_occursIn hoccurs (htypes packaged hpackaged))
  · have helement : elementName name = name := elementName_goName h 0
    rw [package?, helement, List.lookup_eq_none_iff]
    intro packaged hpackaged
    rw [bne_iff_ne]
    rintro rfl
    exact hdot (htypes packaged hpackaged)

/-! ## The imports of some fields -/

/-- A field needs one package, and neither it nor a field in front of it needs another one. -/
def NeededBefore (fields : List Field) (path path' : Text) : Prop :=
  ∃ front f back, fields = front ++ f :: back ∧ Needs path f.targetType ∧ ∀ g ∈ front ++ [f], ¬Needs path' g.targetType

section Fields

variable {fields : List Field} (hfields : ∀ f ∈ fields, ShowsPackage f.targetType)
include hfields

theorem imports_eq : imports fields = (fields.filterMap (package? ·.targetType)).foldl addImport [] := by
  rw [imports, List.filterMap_eq_flatMap_toList]
  congr 1
  exact List.flatMap_congr fun f hf => (hfields f hf).shown

theorem mem_imports {path : Text} : path ∈ imports fields ↔ ∃ f ∈ fields, Needs path f.targetType := by
  rw [imports_eq hfields, mem_foldl_addImport, List.mem_filterMap]
  exact exists_congr fun f => and_congr_right fun hf => (hfields f hf).needed path

/-- What is met before among the packages of the fields is needed before. -/
theorem neededBefore_of_metBefore {path path' : Text}
    (h : MetBefore (fields.filterMap (package? ·.targetType)) path path') : NeededBefore fields path path' := by
  obtain ⟨front, back, hpaths, hnot⟩ := h
  obtain ⟨fields₁, fields₂, rfl, rfl, hrest⟩ := List.filterMap_eq_append_iff.mp hpaths
  obtain ⟨others, f, behind, rfl, hothers, hf, -⟩ := List.filterMap_eq_cons_iff.mp hrest
  refine ⟨fields₁ ++ others, f, behind, (List.append_assoc _ _ _).symm,
    ((hfields f (by simp)).needed path).mp hf, fun g hg hneeds => hnot ?_⟩
  have hpackage := package?_of_needs hneeds
  rw [List.append_assoc] at hg
  rcases List.mem_append.mp hg with hg | hg
  · exact List.mem_append_left _ (List.mem_filterMap.mpr ⟨g, hg, hpackage⟩)
  · rcases List.mem_append.mp hg with hg | hg
    · rw [hothers g hg] at hpackage
      cases hpackage
    · rw [List.mem_singleton.mp hg, hf] at hpackage
      rw [Option.some.inj hpackage]
      exact List.mem_append_right _ (List.mem_singleton_self _)

theorem pairwise_imports : (imports fields).Pairwise (NeededBefore fields) := by
  rw [imports_eq hfields]
  exact (pairwise_foldl_addImport _).imp fun h => neededBefore_of_metBefore hfields h

end Fields

/-! ## The imports of a text -/

/-- The types of a document show no package. -/
theorem package?_of_readSchema {structName t : Text} {s : Schema} (h : Json.readSchema structName t = .ok s) {f : Field}
    (hf : f ∈ s.allFields) : ShowsPackage f.targetType ∧ package? f.targetType = none := by
  have hscalars : ∀ base ∈ scalarTypes, packagesOf base = [] ∧ package? base = none := by decide
  obtain ⟨members, entries, -, hs⟩ := exists_isSchemaOf h
  rcases hs.field_cases hf with ⟨-, depth, base, hbase, htype⟩ | ⟨i, depth, n, hn, -, -, htype⟩
  · rw [htype]
    exact showsPackage_of_unpackaged (hscalars base hbase).1 (hscalars base hbase).2 depth
  · have hname := packagesOf_goName (hs.isGoName_of_mem hn)
    rw [htype]
    exact showsPackage_of_unpackaged hname.1 hname.2 depth

theorem showsPackage_of_read {source : Source} {structName t : Text} {schema : Schema}
    (h : (Reader.ofSource structName source).read t = .ok schema) {f : Field} (hf : f ∈ schema.allFields) :
    ShowsPackage f.targetType := by
  cases source with
  | sql dialect =>
    exact showsPackage_of_isColumnType (Sql.isColumnType_of_readSchema (Reader.read_sql_eq_ok.mp h) hf)
  | json => exact (package?_of_readSchema (Reader.read_json_eq_ok.mp h) hf).1

end StructForge.Go

namespace StructForge.Conversion

open Go

/-- What is imported with the code for a text is what its fields need, once each and in the order in which it is first
needed; for a document that is nothing. -/
theorem imports_convert {t : Text} {request : Request} {o : Options} {given : Option Text} {r : Result}
    (h : convert t request o given = .ok r) :
    r.imports.Nodup ∧ (∀ path, path ∈ r.imports ↔ ∃ f ∈ r.schema.allFields, Needs path f.targetType) ∧
      r.imports.Pairwise (NeededBefore r.schema.allFields) ∧ (r.source = .json → r.imports = []) := by
  obtain ⟨-, hread, -⟩ := exists_read_of_convert h
  have hshows : ∀ f ∈ r.schema.allFields, ShowsPackage f.targetType := fun f hf => showsPackage_of_read hread hf
  have himports : r.imports = Go.imports r.schema.allFields := by rw [eq_resultOf_of_convert h]; rfl
  rw [himports]
  refine ⟨nodup_foldl_addImport _, fun path => mem_imports hshows, pairwise_imports hshows, fun hjson => ?_⟩
  rw [hjson] at hread
  rw [imports_eq hshows, List.filterMap_eq_nil_iff.mpr fun f hf => ?_]
  · rfl
  · exact (package?_of_readSchema (Reader.read_json_eq_ok.mp hread) hf).2

/-- Slices of JSON come in front of slices of times here, and so do their packages. -/
theorem imports_convert_logs :
    ∃ r, convert "CREATE TABLE logs (meta JSONB[], at TIMESTAMPTZ[][])" (.byName "postgresql") {} none = .ok r ∧
      r.imports = ["encoding/json", "time"] ∧ r.imports.Nodup ∧
      (∀ path, path ∈ r.imports ↔ ∃ f ∈ r.schema.allFields, Needs path f.targetType) ∧
      r.imports.Pairwise (NeededBefore r.schema.allFields) ∧ (r.source = .json → r.imports = []) := by
  have himports : (convert "CREATE TABLE logs (meta JSONB[], at TIMESTAMPTZ[][])" (.byName "postgresql") {}
      none).toOption.map (·.imports) = some [("encoding/json" : Text), "time"] := by decide +kernel
  cases h : convert "CREATE TABLE logs (meta JSONB[], at TIMESTAMPTZ[][])" (.byName "postgresql") {} none with
  | error e =>
    rw [h] at himports
    cases himports
  | ok r =>
    rw [h] at himports
    exact ⟨r, rfl, Option.some.inj himports, imports_convert h⟩

end StructForge.Conversion
