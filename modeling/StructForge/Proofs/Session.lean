import StructForge.Proofs.Failures
import StructForge.Session

/-!
# What a session keeps

A run leads from session to session, with the answers to its steps (`Leads`, `run_eq_ok_iff`). As long as nothing is
changed by hand, the schema of a session is one that was read (`IsRead`): every step keeps this, and so does every run
(`isRead_of_step`, `isRead_of_leads`). There is code for such a schema, so that a run breaks down only where a column type
is too deep to be read (`run_eq_error_iff`).

Of all that was done, only the text that was read last, its reader and the options of the moment matter: what a session
then has is what the conversion of that text gives under those options (`step_of_convert`).
-/

namespace StructForge.Session

open Text

/-! ## Runs -/

/-- Some steps lead from a session to another one, with these answers. -/
inductive Leads : Session → List Step → List Answer → Session → Prop
  | nil (s : Session) : Leads s [] [] s
  | cons {s next last : Session} {first : Step} {rest : List Step} {answer : Answer} {answers : List Answer} :
      s.step first = .ok (next, answer) → Leads next rest answers last → Leads s (first :: rest) (answer :: answers) last

variable {s next last : Session} {steps : List Step} {answer : Answer} {answers : List Answer} {t : Text}

theorem run_cons_of_ok {first : Step} (h : s.step first = .ok (next, answer)) (rest : List Step) :
    s.run (first :: rest) = (next.run rest).map (answer :: ·) := by
  rw [run, h]
  show next.run rest >>= _ = _
  cases next.run rest <;> rfl

theorem run_cons_of_error {first : Step} {e : Breakdown} (h : s.step first = .error e) (rest : List Step) :
    s.run (first :: rest) = .error e := by
  rw [run, h]
  rfl

/-- A run has answers exactly if its steps lead somewhere. -/
theorem run_eq_ok_iff : s.run steps = .ok answers ↔ ∃ last, Leads s steps answers last := by
  induction steps generalizing s answers with
  | nil =>
    constructor
    · intro h
      cases h
      exact ⟨s, .nil s⟩
    · rintro ⟨last, ⟨⟩⟩
      rfl
  | cons first rest ih =>
    cases hstep : s.step first with
    | error e =>
      rw [run_cons_of_error hstep]
      refine iff_of_false nofun ?_
      rintro ⟨last, hleads⟩
      cases hleads with
      | cons hnext _ => cases hstep.symm.trans hnext
    | ok stepped =>
      obtain ⟨next, answer⟩ := stepped
      rw [run_cons_of_ok hstep, map_eq_ok_iff]
      constructor
      · rintro ⟨answers, hrun, rfl⟩
        obtain ⟨last, hleads⟩ := ih.mp hrun
        exact ⟨last, .cons hstep hleads⟩
      · rintro ⟨last, hleads⟩
        cases hleads with
        | cons hnext hrest =>
          cases hstep.symm.trans hnext
          exact ⟨_, ih.mpr ⟨last, hrest⟩, rfl⟩

/-! ## Steps -/

/-- A change of the schema that does not come of reading. -/
def Step.byHand : Step → Bool
  | .changeField _ _ | .changeSchema _ => true
  | .useReader _ _ | .read _ | .changeOption _ | .code | .structName | .imports | .file => false

/-- Reading a text changes the schema to what is read. -/
theorem step_read {reading : Reading} (h : s.reader.reading t = .ok reading) :
    s.step (.read t) = .ok ({ s with schema := reading.schema, complaint := reading.error.map SchemaError.message },
      .schema reading.schema (reading.error.map SchemaError.message)) := by
  rw [step, h]
  rfl

theorem step_read_of_tooDeep (h : s.reader.reading t = .error .tooDeep) : s.step (.read t) = .error .tooDeep := by
  rw [step, h]
  rfl

/-- Only a text that is read and changes by hand make another schema. -/
theorem schema_of_step {step : Step} (hread : ∀ t, step ≠ .read t) (hhand : step.byHand = false)
    (h : s.step step = .ok (next, answer)) : next.schema = s.schema ∧ next.complaint = s.complaint := by
  cases step with
  | read t => exact absurd rfl (hread t)
  | changeField | changeSchema => cases hhand
  | useReader name structName =>
    rw [Session.step] at h
    split at h <;> cases h <;> exact ⟨rfl, rfl⟩
  | changeOption | structName | imports =>
    cases h
    exact ⟨rfl, rfl⟩
  | code | file =>
    obtain ⟨code, -, hnext⟩ := map_eq_ok_iff.mp h
    cases hnext
    exact ⟨rfl, rfl⟩

theorem schema_of_leads (hread : ∀ step ∈ steps, ∀ t, step ≠ .read t) (hhand : ∀ step ∈ steps, step.byHand = false)
    (h : Leads s steps answers last) : last.schema = s.schema ∧ last.complaint = s.complaint := by
  induction h with
  | nil s => exact ⟨rfl, rfl⟩
  | cons hstep _ ih =>
    rw [List.forall_mem_cons] at hread hhand
    obtain ⟨hschema, hcomplaint⟩ := schema_of_step hread.1 hhand.1 hstep
    obtain ⟨hlast, hlastComplaint⟩ := ih hread.2 hhand.2
    exact ⟨hlast.trans hschema, hlastComplaint.trans hcomplaint⟩

/-! ## Schemas that were read -/

/-- The schema of a session with the complaint about it: nothing yet, or what a reader has read from a text. -/
inductive IsRead (s : Session) : Prop
  | nothing (hschema : s.schema = {}) (hcomplaint : s.complaint = none)
  | text {reader : Reader} {t : Text} {reading : Reading} (hreading : reader.reading t = .ok reading)
      (hschema : s.schema = reading.schema) (hcomplaint : s.complaint = reading.error.map SchemaError.message)

theorem isRead_of_eq (h : IsRead s) (hschema : next.schema = s.schema) (hcomplaint : next.complaint = s.complaint) :
    IsRead next := by
  cases h with
  | nothing hs hc => exact .nothing (hschema.trans hs) (hcomplaint.trans hc)
  | text hreading hs hc => exact .text hreading (hschema.trans hs) (hcomplaint.trans hc)

theorem isRead_of_step (h : IsRead s) {step : Step} (hhand : step.byHand = false)
    (hstep : s.step step = .ok (next, answer)) : IsRead next := by
  by_cases hread : ∃ t, step = .read t
  · obtain ⟨t, rfl⟩ := hread
    cases hreading : s.reader.reading t with
    | error e => cases (step_read_of_tooDeep hreading).symm.trans hstep
    | ok reading =>
      cases (step_read hreading).symm.trans hstep
      exact .text hreading rfl rfl
  · obtain ⟨hschema, hcomplaint⟩ := schema_of_step (fun t ht => hread ⟨t, ht⟩) hhand hstep
    exact isRead_of_eq h hschema hcomplaint

/-- Without changes by hand, the schema of a session is always one that was read. -/
theorem isRead_of_leads (h : IsRead s) (hhand : ∀ step ∈ steps, step.byHand = false)
    (hleads : Leads s steps answers last) : IsRead last := by
  induction hleads with
  | nil s => exact h
  | cons hstep _ ih =>
    rw [List.forall_mem_cons] at hhand
    exact ih (isRead_of_step h hhand.1 hstep) hhand.2

/-! ## Breakdowns -/

theorem exists_ofSource : ∀ reader : Reader, ∃ structName source, reader = .ofSource structName source
  | .sql dialect => ⟨[], .sql dialect, rfl⟩
  | .json structName => ⟨structName, .json, rfl⟩

/-- There is code for a schema that was read, also for one that could not be. -/
theorem IsRead.exists_code (h : IsRead s) (o : Go.Options) : ∃ code, Go.code s.schema o = .ok code := by
  have hempty : ∀ schema : Schema, schema.fields = [] → schema.nestedTypes = [] → ∃ code, Go.code schema o = .ok code := by
    intro schema hfields htypes
    have hlines := Go.fieldLines_of_unnested htypes (by simp [hfields]) o
    exact ⟨_, by rw [Go.code, hlines]; rfl⟩
  cases h with
  | nothing hschema => exact hschema ▸ hempty {} rfl rfl
  | @text reader t reading hreading hschema =>
    rw [hschema]
    cases hread : reader.read t with
    | error e =>
      rcases Reader.reading_of_read_error hread with hdeep | hrest
      · cases hdeep.symm.trans hreading
      · cases hrest.symm.trans hreading
        cases reader <;> exact hempty _ rfl rfl
    | ok schema =>
      cases (Reader.reading_of_read hread).symm.trans hreading
      obtain ⟨structName, source, rfl⟩ := exists_ofSource reader
      exact Conversion.exists_code_of_read hread o

/-- A step breaks down only where it reads a column type that is too deep. -/
theorem IsRead.step_eq_error_iff (h : IsRead s) {step : Step} (hhand : step.byHand = false) :
    (∃ e, s.step step = .error e) ↔ ∃ t, step = .read t ∧ s.reader.reading t = .error .tooDeep := by
  obtain ⟨code, hcode⟩ := h.exists_code s.options
  have hgenerated : s.generated = .ok code := mapError_eq_ok_iff.mpr hcode
  cases step with
  | read t =>
    cases hreading : s.reader.reading t with
    | error e => exact iff_of_true ⟨_, step_read_of_tooDeep hreading⟩ ⟨t, rfl, hreading⟩
    | ok reading =>
      rw [step_read hreading]
      refine iff_of_false nofun ?_
      rintro ⟨t', ⟨⟩, hdeep⟩
      cases hreading.symm.trans hdeep
  | changeField | changeSchema => cases hhand
  | useReader name structName =>
    rw [Session.step]
    split <;> exact iff_of_false nofun nofun
  | changeOption | structName | imports => exact iff_of_false nofun nofun
  | code | file =>
    rw [Session.step, hgenerated]
    exact iff_of_false nofun nofun

/-- **A session that is not changed by hand breaks down exactly where it reads a column type that is too deep.** -/
theorem run_eq_error_iff (h : IsRead s) (hhand : ∀ step ∈ steps, step.byHand = false) :
    (∃ e, s.run steps = .error e) ↔
      ∃ front t back answers last, steps = front ++ .read t :: back ∧ Leads s front answers last ∧
        last.reader.reading t = .error .tooDeep := by
  induction steps generalizing s with
  | nil =>
    refine iff_of_false nofun ?_
    rintro ⟨front, t, back, _, _, hsteps, _⟩
    simp at hsteps
  | cons first rest ih =>
    rw [List.forall_mem_cons] at hhand
    have hfirst := h.step_eq_error_iff hhand.1
    cases hstep : s.step first with
    | error e =>
      obtain ⟨t, rfl, hdeep⟩ := hfirst.mp ⟨e, hstep⟩
      exact iff_of_true ⟨e, run_cons_of_error hstep rest⟩ ⟨[], t, rest, [], s, rfl, .nil s, hdeep⟩
    | ok stepped =>
      obtain ⟨next, answer⟩ := stepped
      have hrun : (∃ e, s.run (first :: rest) = .error e) ↔ ∃ e, next.run rest = .error e := by
        rw [run_cons_of_ok hstep]
        cases next.run rest with
        | error e => exact iff_of_true ⟨e, rfl⟩ ⟨e, rfl⟩
        | ok answers => exact iff_of_false nofun nofun
      rw [hrun, ih (isRead_of_step h hhand.1 hstep) hhand.2]
      constructor
      · rintro ⟨front, t, back, answers, last, rfl, hleads, hdeep⟩
        exact ⟨first :: front, t, back, answer :: answers, last, rfl, .cons hstep hleads, hdeep⟩
      · rintro ⟨front, t, back, answers, last, hsteps, hleads, hdeep⟩
        cases hleads with
        | nil =>
          -- the first step has led on, and so it is not the one that reads what is too deep
          obtain ⟨rfl, -⟩ := List.cons.inj hsteps
          obtain ⟨e, he⟩ := hfirst.mpr ⟨t, rfl, hdeep⟩
          cases hstep.symm.trans he
        | @cons _ _ _ _ front _ answers hnext hrest =>
          obtain ⟨rfl, rfl⟩ := List.cons.inj hsteps
          cases hstep.symm.trans hnext
          exact ⟨front, t, back, answers, last, rfl, hrest, hdeep⟩

/-! ## Sessions and conversions -/

/-- **A session has what the conversion of its text gives.** Whatever was done before a text was read, and whatever reader
or options were chosen since, a session that still has the schema of the text answers with the parts of the conversion
under the options that it has now. -/
theorem step_of_convert {source : Source} {given : Option Text} {r : Conversion.Result}
    (hleads : Leads s (.read t :: steps) answers last) (hread : ∀ step ∈ steps, ∀ t, step ≠ .read t)
    (hhand : ∀ step ∈ steps, step.byHand = false)
    (hreader : s.reader = .ofSource (Conversion.documentName given last.options) source)
    (hconvert : Conversion.convert t (.given (some source)) last.options given = .ok r) :
    last.step .code = .ok (last, .text r.code) ∧ last.step .structName = .ok (last, .text r.structName) ∧
      last.step .imports = .ok (last, .texts r.imports) ∧ last.step .file = .ok (last, .text r.file) := by
  obtain ⟨hsource, hschema, hcode, hname⟩ := Conversion.exists_read_of_convert hconvert
  obtain rfl : r.source = source := by simpa [Conversion.resolve] using hsource.symm
  have hresult := Conversion.eq_resultOf_of_convert hconvert
  have himports : r.imports = Go.imports r.schema.allFields := congrArg (·.imports) hresult
  have hpackage : r.packageName = last.options.packageName := congrArg (·.packageName) hresult
  rw [← hreader] at hschema
  cases hleads with
  | cons hfirst hrest =>
    cases (step_read (Reader.reading_of_read hschema)).symm.trans hfirst
    obtain ⟨hlast, -⟩ : last.schema = r.schema ∧ _ := schema_of_leads hread hhand hrest
    rw [← hlast] at hcode hname himports
    have hgenerated : last.generated = .ok r.code := mapError_eq_ok_iff.mpr hcode
    refine ⟨?_, ?_, ?_, ?_⟩
    · rw [Session.step, hgenerated]
      rfl
    · rw [hname]
      rfl
    · rw [himports]
      rfl
    · rw [Session.step, hgenerated, Conversion.Result.file, hpackage, himports]
      rfl

end StructForge.Session
