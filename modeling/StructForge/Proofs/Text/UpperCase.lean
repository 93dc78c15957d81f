import StructForge.Proofs.Naming

/-!
# Upper case is final

What a character becomes in upper case is not changed by upper case again (`upperChar_of_mem_upperChar`), and neither
are blanks and decimal digits; upper case makes no blanks (`isBlank_of_mem_upperChar`).

All this is read off the tables of cases. A run of a table goes from one *stretch* of code points to another, and two
stretches have nothing in common if one ends in front of the other, or if one of them has even code points and the
other one odd ones, as where small letters and capitals alternate (`Stretch.not_has_of_apart`).
-/

namespace StructForge.Text

/-! ## Stretches of code points -/

/-- Code points `first`, `first + step`, … up to `last`. -/
structure Stretch where
  first : Nat
  last : Nat
  step : Nat

namespace Stretch

/-- The code point is one of the stretch. -/
def Has (s : Stretch) (n : Nat) : Prop := s.first ≤ n ∧ n ≤ s.last ∧ s.step ∣ n - s.first

/-- Whether it is plain that the code points of a stretch are all even or all odd. -/
def hasParity (s : Stretch) : Bool := Nat.beq s.step 2 || Nat.beq s.first s.last

/-- Whether one of two stretches ends in front of the other, or only one of them has even code points. -/
def apart (s t : Stretch) : Bool :=
  Nat.blt s.last t.first || Nat.blt t.last s.first ||
    (s.hasParity && t.hasParity && Nat.beq ((s.first + t.first) % 2) 1)

theorem Has.two_dvd {s : Stretch} {n : Nat} (h : s.Has n) (hparity : s.hasParity = true) : 2 ∣ n - s.first := by
  obtain ⟨hfirst, hlast, hstep⟩ := h
  rw [hasParity, Bool.or_eq_true, Nat.beq_eq, Nat.beq_eq] at hparity
  rcases hparity with htwo | hone
  · rwa [htwo] at hstep
  · rw [show n - s.first = 0 by omega]
    exact Nat.dvd_zero 2

theorem not_has_of_apart {s t : Stretch} (h : s.apart t = true) {n : Nat} (hs : s.Has n) : ¬t.Has n := by
  intro ht
  simp only [apart, Bool.or_eq_true, Bool.and_eq_true, Nat.blt_eq, Nat.beq_eq] at h
  rcases h with (hless | hless) | ⟨⟨hs', ht'⟩, hodd⟩
  · have := hs.2.1
    have := ht.1
    omega
  · have := ht.2.1
    have := hs.1
    omega
  · have := hs.two_dvd hs'
    have := ht.two_dvd ht'
    have := hs.1
    have := ht.1
    omega

end Stretch

/-! ## The stretches of the case tables -/

/-- The code points that upper case changes. -/
def changedStretches : List Stretch :=
  upperRuns.map (fun r => ⟨r.first, r.last, r.step⟩) ++ upperExpansions.map fun e => ⟨e.1, e.1, 1⟩

/-- The code points that they become. -/
def imageStretches : List Stretch :=
  upperRuns.map (fun r => ⟨r.image, r.image + (r.last - r.first), r.step⟩) ++
    upperExpansions.flatMap fun e => e.2.map fun n => ⟨n, n, 1⟩

theorem upperChar_eq_self {c : Char} (h : ∀ s ∈ changedStretches, ¬s.Has c.toNat) : upperChar c = [c] := by
  rcases upperChar_cases c with ⟨image, himage, -⟩ | ⟨-, r, hr, hfirst, hlast, hstep, -, -⟩ | ⟨-, -, hupper⟩
  · refine absurd ?_ (h _ (List.mem_append_right _ (List.mem_map_of_mem himage)))
    exact ⟨Nat.le_refl _, Nat.le_refl _, Nat.one_dvd _⟩
  · refine absurd ?_ (h _ (List.mem_append_left _ (List.mem_map_of_mem hr)))
    exact ⟨hfirst, hlast, hstep⟩
  · exact hupper

/-- In upper case, a character stays as it is, or becomes one of the images. -/
theorem upperChar_images (c : Char) :
    upperChar c = [c] ∨ ∀ x ∈ upperChar c, ∃ s ∈ imageStretches, s.Has x.toNat := by
  have hvalid : ∀ e ∈ upperExpansions, ∀ n ∈ e.2, n.isValidChar := by decide
  rcases upperChar_cases c with ⟨image, himage, hupper⟩ | ⟨-, r, hr, hfirst, hlast, hstep, hvalid', hupper⟩ |
    ⟨-, -, hupper⟩
  · right
    intro x hx
    rw [hupper] at hx
    obtain ⟨n, hn, rfl⟩ := List.mem_map.mp hx
    refine ⟨⟨n, n, 1⟩, List.mem_append_right _ (List.mem_flatMap.mpr ⟨_, himage, List.mem_map_of_mem hn⟩), ?_⟩
    rw [toNat_ofNat (hvalid _ himage n hn)]
    exact ⟨Nat.le_refl _, Nat.le_refl _, Nat.one_dvd _⟩
  · right
    intro x hx
    rw [hupper, List.mem_singleton] at hx
    refine ⟨_, List.mem_append_left _ (List.mem_map_of_mem hr), ?_⟩
    rw [hx, toNat_ofNat hvalid']
    refine ⟨Nat.le_add_right _ _, by simp only; omega, ?_⟩
    simpa only [Nat.add_sub_cancel_left] using hstep
  · exact .inl hupper

/-- Upper case leads to nothing that it changes. -/
theorem not_has_changed_of_image {s : Stretch} (hs : s ∈ imageStretches) {n : Nat} (hn : s.Has n) :
    ∀ t ∈ changedStretches, ¬t.Has n := by
  have hapart : (imageStretches.all fun s => changedStretches.all s.apart) = true := by decide +kernel
  exact fun t ht => Stretch.not_has_of_apart (List.all_eq_true.mp (List.all_eq_true.mp hapart s hs) t ht) hn

/-- What a character becomes in upper case stays as it is. -/
theorem upperChar_of_mem_upperChar {c x : Char} (h : x ∈ upperChar c) : upperChar x = [x] := by
  rcases upperChar_images c with hself | himages
  · rw [hself, List.mem_singleton] at h
    rwa [h]
  · obtain ⟨s, hs, hx⟩ := himages x h
    exact upperChar_eq_self (not_has_changed_of_image hs hx)

/-! ## Blanks and digits -/

theorem Ranges.exists_of_contains {n : Nat} : ∀ {r : Ranges}, r.contains n = true → ∃ p ∈ r, p.1 ≤ n ∧ n ≤ p.2
  | [], h => by cases h
  | (lo, hi) :: rest, h => by
    rw [Ranges.contains] at h
    split at h
    · cases h
    · rename_i hlo
      split at h
      · rename_i hhi
        exact ⟨(lo, hi), List.mem_cons_self, Nat.le_of_not_lt hlo, hhi⟩
      · obtain ⟨p, hp, hn⟩ := Ranges.exists_of_contains h
        exact ⟨p, List.mem_cons_of_mem _ hp, hn⟩

/-- What lies in ranges lies in no stretch apart from them. -/
theorem Ranges.not_has_of_apart {r : Ranges} {stretches : List Stretch}
    (h : (r.all fun p => stretches.all (Stretch.apart ⟨p.1, p.2, 1⟩)) = true) {n : Nat} (hn : r.contains n = true) :
    ∀ s ∈ stretches, ¬s.Has n := by
  intro s hs
  obtain ⟨p, hp, hlo, hhi⟩ := Ranges.exists_of_contains hn
  exact Stretch.not_has_of_apart (List.all_eq_true.mp (List.all_eq_true.mp h p hp) s hs) ⟨hlo, hhi, Nat.one_dvd _⟩

theorem upperChar_of_isBlank {c : Char} (h : isBlank c = true) : upperChar c = [c] :=
  upperChar_eq_self (Ranges.not_has_of_apart (r := blankRanges) (by decide +kernel) h)

theorem upperChar_of_isDecimal {c : Char} (h : isDecimal c = true) : upperChar c = [c] :=
  upperChar_eq_self (Ranges.not_has_of_apart (r := decimalRanges) (by decide +kernel) h)

/-- Upper case neither makes blanks nor takes them away. -/
theorem isBlank_of_mem_upperChar {c x : Char} (h : x ∈ upperChar c) : isBlank x = isBlank c := by
  rcases upperChar_images c with hself | himages
  · rw [hself, List.mem_singleton] at h
    rw [h]
  · obtain ⟨s, hs, hx⟩ := himages x h
    have hblank : isBlank x = false := Bool.eq_false_iff.mpr fun hblank =>
      Ranges.not_has_of_apart (r := blankRanges) (by decide +kernel) hblank s hs hx
    rw [hblank, eq_comm]
    refine Bool.eq_false_iff.mpr fun hc => ?_
    rw [upperChar_of_isBlank hc, List.mem_singleton] at h
    rw [h, hc] at hblank
    cases hblank

/-- Upper case of a text is final, too. -/
theorem upperChar_of_mem_upper {t : Text} {x : Char} (h : x ∈ upper t) : upperChar x = [x] := by
  obtain ⟨c, -, hx⟩ := List.mem_flatMap.mp h
  exact upperChar_of_mem_upperChar hx

end StructForge.Text
