import Mathlib.Data.List.TakeWhile
import StructForge.Detection
import StructForge.Json.Shape
import StructForge.Proofs.Json.Room
import StructForge.Proofs.Text.Phrases
import StructForge.Proofs.Text.Trimming

/-!
# Detected documents

Detection looks for a document between the blanks of a text, where blanks are the white space of any script, and the
reader of documents passes over four characters only. So a text that is detected as JSON is read as what stands between
its blanks if these are white space of JSON (`readDocument_of_edges`), and is no JSON otherwise
(`readDocument_of_not_edges`). These blanks alone decide whether a detected text is refused as invalid
(`invalidJson_iff_of_detect`).
-/

namespace StructForge

/-! ## The blanks around a text -/

namespace Text

/-- The blanks around a text. -/
def edges (t : Text) : Text := t.takeWhile isBlank ++ blanksBehind t

end Text

namespace Json

open Text

/-! ## White space of JSON around a document -/

theorem isBlank_of_isSpace {c : Char} (h : Cursor.isSpace c = true) : isBlank c = true := by
  simp only [Cursor.isSpace, Bool.or_eq_true, decide_eq_true_eq] at h
  rcases h with ((rfl | rfl) | rfl) | rfl <;> decide

/-- A text without a mark is a value with nothing but white space around it. -/
theorem readDocument_eq {t : Text} (h : t.head? ≠ some '\uFEFF') :
    readDocument t = (readValue t.length maxDepth (Cursor.mk 0 t).skipSpace).bind fun (v, c) =>
      if c.skipSpace.rest.isEmpty then .ok v else .error (.at .extraData c.skipSpace.offset) := by
  unfold readDocument
  simp only [beq_iff_eq, h, if_false]
  rfl

theorem head?_ne_of_readDocument {t : Text} {v : Json} (h : readDocument t = .ok v) : t.head? ≠ some '\uFEFF' := by
  intro hmark
  unfold readDocument at h
  rw [if_pos (by simp [hmark])] at h
  cases h

/-- With white space in front of it, a text is read from where its document starts. -/
theorem extends_trim {t : Text} (hfront : ∀ c ∈ t.takeWhile isBlank, Cursor.isSpace c = true) :
    Extends (blanksBehind t) (Cursor.mk 0 (trim t)).skipSpace (Cursor.mk 0 t).skipSpace := by
  have hdrop : t.dropWhile Cursor.isSpace = (trim t ++ blanksBehind t).dropWhile Cursor.isSpace := by
    conv => lhs; rw [eq_trim_append t]
    exact List.dropWhile_append_of_pos hfront
  rw [Extends, skipSpace_rest, skipSpace_rest, hdrop]
  cases hm : trim t with
  | nil => exact .inr ⟨rfl, fun d hd => isBlank_of_mem_blanksBehind ((List.dropWhile_sublist _).subset hd)⟩
  | cons d m =>
    have hnospace : ¬Cursor.isSpace d = true := fun hs => by
      have hd := head?_trim t d (by rw [hm]; rfl)
      rw [isBlank_of_isSpace hs] at hd
      cases hd
    rw [List.cons_append, List.dropWhile_cons_of_neg hnospace, List.dropWhile_cons_of_neg hnospace]
    exact .inl rfl

/-- With white space in front of it, a value is read as it is, and the blanks behind it are left. -/
theorem readValue_trim {t : Text} (hfront : ∀ c ∈ t.takeWhile isBlank, Cursor.isSpace c = true) (depth : Nat) :
    Continues (blanksBehind t) (readValue (trim t).length depth (Cursor.mk 0 (trim t)).skipSpace)
      (readValue t.length depth (Cursor.mk 0 t).skipSpace) := by
  have hrest : (Cursor.mk 0 (trim t)).skipSpace.rest.length ≤ (trim t).length := length_skipSpace_le _
  have hsize : (trim t).length ≤ t.length := by
    have hlength := congrArg List.length (eq_trim_append t)
    simp only [List.length_append] at hlength
    omega
  rw [readValue_room depth hrest (hrest.trans hsize)]
  exact readValue_append (fun _ => isBlank_of_mem_blanksBehind) _ depth (extends_trim hfront)

/-- Other blanks in front of it are no part of a document: the reader stops at the first one. -/
theorem readDocument_of_not_front {t : Text} (hfront : ¬∀ c ∈ t.takeWhile isBlank, Cursor.isSpace c = true) :
    ∃ offset, readDocument t = .error (.at .expectedValue offset) := by
  have hne : (t.takeWhile isBlank).dropWhile Cursor.isSpace ≠ [] := fun hnil =>
    hfront (List.dropWhile_eq_nil_iff.mp hnil)
  obtain ⟨d, f, hf⟩ := List.exists_cons_of_ne_nil hne
  have hd : isBlank d = true := isBlank_of_mem_takeWhile ((List.dropWhile_sublist _).subset (hf ▸ List.mem_cons_self))
  have hrest : (Cursor.mk 0 t).skipSpace.rest = d :: (f ++ (trim t ++ blanksBehind t)) := by
    have hdrop : t.dropWhile Cursor.isSpace = d :: (f ++ (trim t ++ blanksBehind t)) := by
      conv => lhs; rw [eq_trim_append t]
      rw [List.dropWhile_append, hf]
      rfl
    rw [skipSpace_rest]
    exact hdrop
  have hmark : t.head? ≠ some '\uFEFF' := by
    cases t with
    | nil => nofun
    | cons c t =>
      rintro ⟨rfl⟩
      exact hne rfl
  refine ⟨(Cursor.mk 0 t).skipSpace.offset, ?_⟩
  rw [readDocument_eq hmark, (NoValue.of_isBlank hrest hd).readValue]
  rfl

/-- A mark starts no value. -/
theorem NoValue.of_mark {c : Cursor} {t : Text} (h : c.rest = '\uFEFF' :: t) : NoValue c where
  quote := by simp [Cursor.sees, h]
  bracket := by simp [Cursor.sees, h]
  brace := by simp [Cursor.sees, h]
  minus := by simp [Cursor.sees, h]
  word := by rw [h]; rfl
  digit := by rw [h]; rfl

/-- A document stays one without the blanks around it. -/
theorem readDocument_trim {t : Text} {v : Json} (h : readDocument t = .ok v) : readDocument (trim t) = .ok v := by
  have hfront : ∀ c ∈ t.takeWhile isBlank, Cursor.isSpace c = true := by
    by_contra hfront
    obtain ⟨offset, herror⟩ := readDocument_of_not_front hfront
    rw [herror] at h
    cases h
  rw [readDocument_eq (head?_ne_of_readDocument h)] at h
  have hvalue := readValue_trim hfront maxDepth
  generalize hlong : readValue t.length maxDepth (Cursor.mk 0 t).skipSpace = long at h hvalue
  generalize hshort : readValue (trim t).length maxDepth (Cursor.mk 0 (trim t)).skipSpace = short at hvalue
  cases hvalue with
  | error e e' => cases h
  | ok w hrest =>
    rename_i c c'
    have hmark : (trim t).head? ≠ some '\uFEFF' := fun hmark => by
      cases hm : trim t with
      | nil =>
        rw [hm] at hmark
        cases hmark
      | cons d m =>
        rw [hm] at hmark hshort
        obtain rfl : d = '\uFEFF' := Option.some.inj hmark
        rw [(NoValue.of_mark (by rfl)).readValue] at hshort
        cases hshort
    rw [readDocument_eq hmark, hshort]
    simp only [Except.bind, skipSpace_rest, hrest, List.isEmpty_iff] at h ⊢
    split at h
    · rename_i hend
      rw [List.dropWhile_append] at hend
      split at hend
      · rename_i hnil
        rw [if_pos (List.isEmpty_iff.mp hnil)]
        exact h
      · rename_i hne
        exact absurd (by rw [(List.append_eq_nil_iff.mp hend).1]; rfl) hne
    · cases h

section Edges

variable {t : Text} {v : Json} (h : readDocument (trim t) = .ok v)
include h

/-- Blanks are no mark, so a text has none if its document has none. -/
theorem head?_ne_of_trim : t.head? ≠ some '\uFEFF' := by
  have hmark := head?_ne_of_readDocument h
  have ht := eq_trim_append t
  cases hf : t.takeWhile isBlank with
  | nil =>
    rw [hf, List.nil_append] at ht
    cases hm : trim t with
    | nil =>
      rw [hm] at h
      rw [readDocument_eq (by nofun), (NoValue.of_nil (by rfl)).readValue] at h
      cases h
    | cons d m =>
      rw [hm] at ht hmark
      rw [ht]
      exact hmark
  | cons c f =>
    have hc : isBlank c = true := isBlank_of_mem_takeWhile (hf ▸ List.mem_cons_self)
    rw [hf] at ht
    rw [ht]
    rintro ⟨rfl⟩
    exact absurd hc (by decide)

/-- With white space in front of it, a document is read as it is, and then the blanks behind it. -/
theorem readDocument_of_front (hfront : ∀ c ∈ t.takeWhile isBlank, Cursor.isSpace c = true) :
    ∃ offset, readDocument t =
      if (blanksBehind t).dropWhile Cursor.isSpace = [] then .ok v else .error (.at .extraData offset) := by
  have hmark := head?_ne_of_trim h
  have hvalue := readValue_trim hfront maxDepth
  rw [readDocument_eq (head?_ne_of_readDocument h)] at h
  rw [readDocument_eq hmark]
  generalize readValue t.length maxDepth (Cursor.mk 0 t).skipSpace = long at hvalue ⊢
  generalize readValue (trim t).length maxDepth (Cursor.mk 0 (trim t)).skipSpace = short at h hvalue
  cases hvalue with
  | error e e' => cases h
  | ok w hrest =>
    rename_i c c'
    simp only [Except.bind] at h ⊢
    split at h
    · rename_i hend
      cases h
      have hend' : c'.skipSpace.rest = (blanksBehind t).dropWhile Cursor.isSpace := by
        rw [skipSpace_rest] at hend ⊢
        rw [hrest, List.dropWhile_append, if_pos hend]
      exact ⟨c'.skipSpace.offset, by simp only [hend', List.isEmpty_iff]⟩
    · cases h

/-- White space around a document does not matter. -/
theorem readDocument_of_edges (hspace : ∀ c ∈ edges t, Cursor.isSpace c = true) : readDocument t = .ok v := by
  obtain ⟨offset, hread⟩ := readDocument_of_front h fun c hc => hspace c (List.mem_append_left _ hc)
  rw [hread, if_pos (dropWhile_eq_nil fun c hc => hspace c (List.mem_append_right _ hc))]

/-- Other blanks around a document are no part of it. -/
theorem readDocument_of_not_edges (hspace : ∃ c ∈ edges t, Cursor.isSpace c = false) :
    ∃ problem offset, readDocument t = .error (.at problem offset) := by
  by_cases hfront : ∀ c ∈ t.takeWhile isBlank, Cursor.isSpace c = true
  · obtain ⟨c, hc, hno⟩ := hspace
    obtain ⟨offset, hread⟩ := readDocument_of_front h hfront
    refine ⟨.extraData, offset, ?_⟩
    rw [hread, if_neg fun hnil => ?_]
    rcases List.mem_append.mp hc with hc | hc
    · rw [hfront c hc] at hno
      cases hno
    · rw [List.dropWhile_eq_nil_iff.mp hnil c hc] at hno
      cases hno
  · obtain ⟨offset, hread⟩ := readDocument_of_not_front hfront
    exact ⟨.expectedValue, offset, hread⟩

end Edges

end Json

/-! ## Detected texts -/

namespace Detection

open Text

theorem isPhrase_createTable : IsPhrase ["create", "table"] := by decide

/-- No statement starts in blanks. -/
theorem afterPhrase?_blanks {front : Text} (hfront : ∀ c ∈ front, isBlank c = true) (t p u : Text) (hu : front = p ++ u)
    (hne : u ≠ []) : afterPhrase? ["create", "table"] (u ++ t) = none := by
  obtain ⟨c, v, rfl⟩ := List.exists_cons_of_ne_nil hne
  exact afterPhrase?_of_not_word (by decide) (by decide) (isWordChar_of_isBlank (hfront c (by simp [hu]))) (v ++ t)

/-- The blanks around a text have no part in a statement. -/
theorem hasStatement_trim (t : Text) : hasStatement (trim t) = hasStatement t := by
  have hfront : ∀ c ∈ t.takeWhile isBlank, isBlank c = true := fun _ => isBlank_of_mem_takeWhile
  have hbehind : ∀ c ∈ blanksBehind t, isBlank c = true := fun _ => isBlank_of_mem_blanksBehind
  have hblank : ∀ b, search (fun _ => afterPhrase? ["create", "table"]) b (blanksBehind t) = none := by
    intro b
    have h : search (fun _ => afterPhrase? ["create", "table"]) b (blanksBehind t ++ []) = none :=
      search_of_front (afterPhrase?_blanks hbehind []) b
    rwa [List.append_nil] at h
  conv => rhs; rw [eq_trim_append t]
  rw [hasStatement, hasStatement, search_of_front (afterPhrase?_blanks hfront _),
    search_append (afterPhrase?_append_blanks hbehind isPhrase_createTable) rfl hblank, Option.isSome_map]

/-- What is detected as JSON is a document between blanks. -/
theorem exists_document_of_detect {t : Text} (h : detect t = some .json) : ∃ v, Json.readDocument (trim t) = .ok v := by
  rw [detect] at h
  split at h
  · cases h
  · split at h
    · rename_i hcontainer
      rw [isJsonContainer, Json.read] at hcontainer
      cases hread : Json.readDocument (trim t) with
      | ok v => exact ⟨v, rfl⟩
      | error e =>
        rw [hread] at hcontainer
        cases hcontainer
    · cases h

theorem startsWith_message_notJson (problem : Json.ReadError) :
    startsWith (Json.DocumentError.notJson problem).message "invalid JSON: " = true := by
  have hread := afterPrefix?_append "invalid JSON: " problem.message
  show (afterPrefix? "invalid JSON: " ("invalid JSON: " ++ problem.message)).isSome = true
  rw [hread]
  rfl

/-- The complaint about a text that is no JSON starts with words of its own. -/
theorem startsWith_message_iff (e : Json.DocumentError) :
    startsWith e.message "invalid JSON: " = true ↔ ∃ problem, e = .notJson problem := by
  cases e with
  | notJson problem => exact iff_of_true (startsWith_message_notJson problem) ⟨problem, rfl⟩
  | notAnObject => exact iff_of_false (by decide) nofun
  | tooDeep => exact iff_of_false (by decide) nofun

/-- A value that was read is not refused as invalid JSON any more. -/
theorem schemaOf_ne_notJson (structName : Text) (v : Json) (problem : Json.ReadError) :
    Json.schemaOf structName v ≠ .error (.notJson problem) := by
  cases v with
  | object members =>
    rw [Json.schemaOf]
    split <;> nofun
  | _ => nofun

/-- A text that is detected as JSON is refused as invalid JSON exactly if a blank around it is no white space of JSON.
Otherwise it is only refused for being no object or nested too deep. -/
theorem invalidJson_iff_of_detect {t : Text} (h : detect t = some .json) (structName : Text) :
    ((∃ e, Json.readSchema structName t = .error e ∧ startsWith e.message "invalid JSON: " = true) ↔
      ∃ c ∈ edges t, Json.Cursor.isSpace c = false) ∧
    ∀ e, Json.readSchema structName t = .error e → startsWith e.message "invalid JSON: " = true ∨
      e.message = "JSON must be an object" ∨ e.message = "JSON nesting too deep" := by
  obtain ⟨v, hv⟩ := exists_document_of_detect h
  refine ⟨?_, fun e _ => ?_⟩
  · by_cases hspace : ∀ c ∈ edges t, Json.Cursor.isSpace c = true
    · have hread := Json.readDocument_of_edges hv hspace
      refine iff_of_false ?_ ?_
      · rintro ⟨e, he, hmessage⟩
        obtain ⟨problem, rfl⟩ := (startsWith_message_iff e).mp hmessage
        rw [Json.readSchema, Json.read, hread] at he
        exact schemaOf_ne_notJson structName v problem he
      · rintro ⟨c, hc, hno⟩
        rw [hspace c hc] at hno
        cases hno
    · have hother : ∃ c ∈ edges t, Json.Cursor.isSpace c = false := by simpa using hspace
      obtain ⟨problem, offset, hread⟩ := Json.readDocument_of_not_edges hv hother
      have hrefused : Json.readSchema structName t = .error (.notJson (.syntaxError problem (.at t offset))) := by
        rw [Json.readSchema, Json.read, hread]
        rfl
      exact iff_of_true ⟨_, hrefused, (startsWith_message_iff _).mpr ⟨_, rfl⟩⟩ hother
  · cases e with
    | notJson problem => exact .inl ((startsWith_message_iff _).mpr ⟨problem, rfl⟩)
    | notAnObject => exact .inr (.inl rfl)
    | tooDeep => exact .inr (.inr rfl)

/-- An object with white space of JSON around it. -/
def spacedObject : Text := " \x7b\"a\": 1\x7d\r\n"

/-- Such an object is detected and not refused. -/
theorem invalidJson_iff_spacedObject :
    detect spacedObject = some .json ∧
      ¬∃ e, Json.readSchema "Response" spacedObject = .error e ∧ startsWith e.message "invalid JSON: " = true :=
  have h : detect spacedObject = some .json := by decide +kernel
  ⟨h, fun herror => absurd ((invalidJson_iff_of_detect h "Response").1.mp herror) (by decide)⟩

/-- An object behind a no-break space is detected, but refused. -/
theorem invalidJson_noBreakSpace :
    detect "\u00a0\x7b\"a\": 1\x7d" = some .json ∧
      ∃ e, Json.readSchema "Response" "\u00a0\x7b\"a\": 1\x7d" = .error e ∧
        e.message = "invalid JSON: Expecting value: line 1 column 1 (char 0)" :=
  ⟨by decide +kernel, .notJson (.syntaxError .expectedValue ⟨0, 1, 1⟩), by rfl, by decide +kernel⟩

end Detection

end StructForge
