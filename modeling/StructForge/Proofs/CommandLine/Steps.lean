import StructForge.CommandLine.Run

/-!
# Steps of commands

What a step comes to from a journal (`Step.start`): one lemma for each of the ways in which steps are made.
-/

namespace StructForge.CommandLine

open Text

/-- What a step comes to, with the journal behind it. -/
def Step.start {α : Type} (step : Step α) (journal : List Journal.Entry) : Except Failure α × List Journal.Entry :=
  step.run.run journal

section

variable {α β : Type} (journal : List Journal.Entry)

@[simp] theorem start_tell (entries : List Journal.Entry) :
    (tell entries).start journal = (.ok (), journal ++ entries) := rfl

@[simp] theorem start_require_ok {ε : Type} (failure : ε → Failure) (a : α) :
    (require failure (.ok a)).start journal = (.ok a, journal) := rfl

@[simp] theorem start_require_error {ε : Type} (failure : ε → Failure) (e : ε) :
    (require failure (.error e : Except ε α)).start journal = (.error (failure e), journal) := rfl

theorem start_bind (first : Step α) (next : α → Step β) :
    (first >>= next).start journal =
      match first.start journal with
      | (.ok a, journal') => (next a).start journal'
      | (.error e, journal') => (.error e, journal') := by
  have hfirst : StateT.run (ExceptT.run first) journal = first.start journal := rfl
  rw [Step.start, ExceptT.run_bind, StateT.run_bind, hfirst]
  rcases first.start journal with ⟨e | a, journal'⟩ <;> rfl

/-- Behind a failure nothing more is done. -/
theorem start_bind_of_error {first : Step α} {e : Failure} (h : (first.start journal).1 = .error e)
    (next : α → Step β) : ((first >>= next).start journal).1 = .error e := by
  rw [start_bind]
  revert h
  rcases first.start journal with ⟨e' | a, journal'⟩
  · exact fun h => congrArg Except.error (Except.error.inj h)
  · nofun

end

end StructForge.CommandLine
