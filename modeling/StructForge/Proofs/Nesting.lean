import Mathlib.Data.List.Forall2
import StructForge.Nesting

/-!
# Work on the elements of a list

Work on all elements of a list succeeds exactly if it succeeds on every one of them, and then gives their results in
order (`mapM_eq_ok_iff`); it fails exactly if it fails on one of them (`mapM_eq_tooDeep_iff`).
-/

namespace StructForge

variable {α β : Type} {f : α → Except TooDeep β}

/-- Every element has its result. -/
theorem mapM_eq_ok_iff {as : List α} {bs : List β} :
    as.mapM f = .ok bs ↔ List.Forall₂ (fun a b => f a = .ok b) as bs := by
  induction as generalizing bs with
  | nil =>
    rw [List.mapM_nil, List.forall₂_nil_left_iff]
    exact ⟨fun h => by cases h; rfl, fun h => by rw [h]; rfl⟩
  | cons a as ih =>
    rw [List.mapM_cons]
    constructor
    · intro h
      rcases ha : f a with ⟨⟨⟩⟩ | b
      · rw [ha] at h
        cases h
      · rcases hr : as.mapM f with ⟨⟨⟩⟩ | cs
        · rw [ha, hr] at h
          cases h
        · rw [ha, hr] at h
          cases h
          exact .cons ha (ih.mp hr)
    · rintro (_ | ⟨ha, hr⟩)
      rw [ha, ih.mpr hr]
      rfl

/-- Work that does the same on every element does the same on all of them. -/
theorem mapM_congr {g : α → Except TooDeep β} {as : List α} (h : ∀ a ∈ as, f a = g a) : as.mapM f = as.mapM g := by
  induction as with
  | nil => rfl
  | cons a as ih =>
    rw [List.forall_mem_cons] at h
    rw [List.mapM_cons, List.mapM_cons, h.1, ih h.2]

/-- There are as few results as there were elements. -/
theorem mapM_eq_ok_nil_iff {as : List α} {bs : List β} (h : as.mapM f = .ok bs) : bs = [] ↔ as = [] := by
  cases mapM_eq_ok_iff.mp h <;> simp

/-- What is related to a list element by element has something for every element. -/
theorem exists_mem_of_forall₂ {r : α → β → Prop} {as : List α} {bs : List β} (h : List.Forall₂ r as bs) {a : α}
    (ha : a ∈ as) : ∃ b ∈ bs, r a b := by
  induction h with
  | nil => cases ha
  | @cons a' b as bs hab _ ih =>
    rcases List.mem_cons.mp ha with rfl | ha
    · exact ⟨b, List.mem_cons_self, hab⟩
    · obtain ⟨b', hb', h⟩ := ih ha
      exact ⟨b', List.mem_cons_of_mem b hb', h⟩

/-- Every result is that of an element. -/
theorem exists_mem_of_mapM {as : List α} {bs : List β} (h : as.mapM f = .ok bs) {b : β} (hb : b ∈ bs) :
    ∃ a ∈ as, f a = .ok b :=
  exists_mem_of_forall₂ (mapM_eq_ok_iff.mp h).flip hb

/-- Work that succeeds on every element succeeds on all of them. -/
theorem exists_mapM {as : List α} (h : ∀ a ∈ as, ∃ b, f a = .ok b) : ∃ bs, as.mapM f = .ok bs := by
  induction as with
  | nil => exact ⟨[], rfl⟩
  | cons a as ih =>
    rw [List.forall_mem_cons] at h
    obtain ⟨b, hb⟩ := h.1
    obtain ⟨bs, hbs⟩ := ih h.2
    exact ⟨b :: bs, mapM_eq_ok_iff.mpr (.cons hb (mapM_eq_ok_iff.mp hbs))⟩

/-- Work fails exactly if it fails on some element. -/
theorem mapM_eq_tooDeep_iff {as : List α} : as.mapM f = .error .tooDeep ↔ ∃ a ∈ as, f a = .error .tooDeep := by
  constructor
  · intro hfail
    by_contra hno
    have hall : ∀ a ∈ as, ∃ b, f a = .ok b := by
      intro a ha
      rcases hfa : f a with ⟨⟨⟩⟩ | b
      · exact absurd ⟨a, ha, hfa⟩ hno
      · exact ⟨b, rfl⟩
    obtain ⟨bs, hbs⟩ := exists_mapM hall
    rw [hfail] at hbs
    cases hbs
  · rintro ⟨a, ha, hfa⟩
    rcases hbs : as.mapM f with ⟨⟨⟩⟩ | bs
    · rfl
    · obtain ⟨b, -, hb⟩ := exists_mem_of_forall₂ (mapM_eq_ok_iff.mp hbs) ha
      rw [hfa] at hb
      cases hb

end StructForge
