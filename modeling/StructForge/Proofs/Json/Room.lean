import StructForge.Proofs.Json.Continuation

/-!
# Room for a value

The reader of documents allows an array or an object as many parts as the document has characters. Every reader that
succeeds passes over at least one character (`shortens_readValue`), so that is more than it can need: two readers with
room for all that is left of a text read the same value (`readValue_room`).
-/

namespace StructForge.Json

open Text

/-- A reading that leaves less than `n` characters if it succeeds. -/
inductive Shortens {α : Type} (n : Nat) : Except Refusal (α × Cursor) → Prop
  | error (e : Refusal) : Shortens n (.error e)
  | ok (a : α) {c : Cursor} (h : c.rest.length < n) : Shortens n (.ok (a, c))

namespace Shortens

variable {α β : Type} {m n : Nat} {r : Except Refusal (α × Cursor)}

theorem mono (h : Shortens m r) (hmn : m ≤ n) : Shortens n r := by
  cases h with
  | error e => exact .error e
  | ok a h => exact .ok a (Nat.lt_of_lt_of_le h hmn)

theorem bind {k : α × Cursor → Except Refusal (β × Cursor)} (h : Shortens n r)
    (hk : ∀ a c, c.rest.length < n → Shortens n (k (a, c))) : Shortens n (r >>= k) := by
  cases h with
  | error e => exact .error e
  | ok a h => exact hk a _ h

theorem map (f : α → β) (h : Shortens n r) : Shortens n (r.map fun p => (f p.1, p.2)) := by
  cases h with
  | error e => exact .error e
  | ok a h => exact .ok (f a) h

/-- What follows a reading only matters where less is left. -/
theorem bind_congr {k k' : α × Cursor → Except Refusal (β × Cursor)} (h : Shortens n r)
    (hk : ∀ a c, c.rest.length < n → k (a, c) = k' (a, c)) : r >>= k = r >>= k' := by
  cases h with
  | error e => rfl
  | ok a h => exact hk a _ h

end Shortens

/-! ## Cursors -/

theorem length_advance (c : Cursor) (n : Nat) : (c.advance n).rest.length = c.rest.length - n := List.length_drop

theorem length_advance_le (c : Cursor) (n : Nat) : (c.advance n).rest.length ≤ c.rest.length := by
  rw [length_advance]
  exact Nat.sub_le _ _

theorem length_skipSpace_le (c : Cursor) : c.skipSpace.rest.length ≤ c.rest.length := length_advance_le c _

/-- Behind an opening bracket and the white space after it there is less than in front of it. -/
theorem length_inside_lt {c : Cursor} {char : Char} (h : c.sees char = true) :
    (c.advance 1).skipSpace.rest.length < c.rest.length := by
  have hpos := one_le_length (rest_ne_nil_of_sees h)
  have hle := length_skipSpace_le (c.advance 1)
  rw [length_advance] at hle
  omega

/-! ## Strings, numbers and words -/

/-- A string ends behind its closing quote. -/
theorem shortens_readCodePoints (start offset : Nat) (t : Text) :
    Shortens t.length (readCodePoints start offset t) := by
  fun_induction readCodePoints start offset t with
  | case1 | case3 | case5 | case6 | case8 | case9 => exact .error _
  | case2 => exact .ok [] (Nat.lt_succ_self _)
  | case4 offset a₁ a₂ a₃ a₄ e t n hn ih =>
    exact (ih.mono (Nat.le_add_right _ 6)).bind fun _ _ hc => .ok _ hc
  | case7 offset c t _ hu char hchar ih =>
    exact (ih.mono (Nat.le_add_right _ 2)).bind fun _ _ hc => .ok _ hc
  | case10 offset c t _ _ _ _ _ _ ih =>
    exact (ih.mono (Nat.le_add_right _ 1)).bind fun _ _ hc => .ok _ hc

theorem shortens_readString (c : Cursor) : Shortens c.rest.length (readString c) :=
  (shortens_readCodePoints _ _ c.rest).bind fun _ _ hc => .ok _ hc

/-- A number has a digit in front of its point. -/
theorem shortens_readNumber (c : Cursor) : Shortens c.rest.length (readNumber c) := by
  unfold readNumber
  dsimp only
  generalize (if c.sees '-' = true then 1 else 0) = sign
  split
  · exact .error _
  · rename_i hdigits
    have hpos : 0 < (wholeDigits (c.rest.drop sign)).length :=
      List.length_pos_iff.mpr fun hnil => hdigits (List.isEmpty_iff.mpr hnil)
    have hle := length_wholeDigits_le (c.rest.drop sign)
    rw [List.length_drop] at hle
    have hwhole : (c.advance (sign + (wholeDigits (c.rest.drop sign)).length)).rest.length < c.rest.length := by
      rw [length_advance]
      omega
    generalize c.advance (sign + (wholeDigits (c.rest.drop sign)).length) = d at *
    generalize (if (fractionDigits d.rest).isEmpty = true then 0 else 1 + (fractionDigits d.rest).length) = fraction
    split
    · split
      · exact .error _
      · exact .ok _ hwhole
    · refine .ok _ (Nat.lt_of_le_of_lt ?_ hwhole)
      exact (length_advance_le _ _).trans (length_advance_le _ _)

theorem shortens_readScalar (c : Cursor) : Shortens c.rest.length (readScalar c) := by
  unfold readScalar
  split
  · exact ((shortens_readString _).mono (length_advance_le c 1)).map Json.string
  · split
    · rename_i word value hword
      have hne : ∀ e ∈ constants, e.1 ≠ [] := by decide
      have hstarts : startsWith c.rest word = true :=
        List.find?_some (p := fun e : Text × Except Refusal Json => startsWith c.rest e.1) hword
      obtain ⟨r, hr⟩ := Option.isSome_iff_exists.mp hstarts
      have hlength := congrArg List.length (eq_append_of_afterPrefix? hr)
      have hpos : 0 < word.length := List.length_pos_iff.mpr (hne _ (List.mem_of_find?_eq_some hword))
      rw [List.length_append] at hlength
      cases value with
      | error e => exact .error e
      | ok v =>
        refine .ok v ?_
        rw [length_advance]
        omega
    · exact shortens_readNumber c

/-! ## Elements and members -/

section Containers

variable {read : Cursor → Except Refusal (Json × Cursor)} (hshort : ∀ c, Shortens c.rest.length (read c))
include hshort

theorem shortens_readElements : ∀ (n : Nat) (c : Cursor), Shortens c.rest.length (readElements read n c)
  | 0, _ => .error _
  | n + 1, c => by
    refine (hshort c).bind fun element d hd => ?_
    have hspace := Nat.lt_of_le_of_lt (length_skipSpace_le d) hd
    dsimp only
    split
    · exact .ok _ (Nat.lt_of_le_of_lt (length_advance_le _ 1) hspace)
    · split
      · refine ((shortens_readElements n _).mono ?_).bind fun _ _ hc => .ok _ hc
        exact ((length_skipSpace_le _).trans (length_advance_le _ 1)).trans hspace.le
      · exact .error _

theorem shortens_readMembers : ∀ (n : Nat) (members : List (Text × Json)) (c : Cursor),
    Shortens c.rest.length (readMembers read n members c)
  | 0, _, _ => .error _
  | n + 1, members, c => by
    rw [readMembers]
    cases c.sees '"' with
    | false => exact .error _
    | true =>
      -- the key
      refine ((shortens_readString _).mono (length_advance_le c 1)).bind fun key d hd => ?_
      have hspace := Nat.lt_of_le_of_lt (length_skipSpace_le d) hd
      dsimp only
      cases d.skipSpace.sees ':' with
      | false => exact .error _
      | true =>
        -- the value
        have hnext := ((length_skipSpace_le _).trans (length_advance_le d.skipSpace 1)).trans hspace.le
        refine ((hshort _).mono hnext).bind fun value d hd => ?_
        have hspace := Nat.lt_of_le_of_lt (length_skipSpace_le d) hd
        dsimp only
        split
        · exact .ok _ (Nat.lt_of_le_of_lt (length_advance_le _ 1) hspace)
        · split
          · refine (shortens_readMembers n _ _).mono ?_
            exact ((length_skipSpace_le _).trans (length_advance_le _ 1)).trans hspace.le
          · exact .error _

variable {read' : Cursor → Except Refusal (Json × Cursor)} {room : Nat}
  (hread : ∀ c, c.rest.length < room → read c = read' c)
include hread

/-- With room for all that is left, the number of elements is no limit. -/
theorem readElements_room : ∀ {m n : Nat} {c : Cursor}, c.rest.length < room → c.rest.length < m → c.rest.length < n →
    readElements read m c = readElements read' n c
  | m + 1, n + 1, c, hroom, hm, hn => by
    rw [readElements, readElements, ← hread c hroom]
    refine (hshort c).bind_congr fun element d hd => ?_
    have hspace := Nat.lt_of_le_of_lt (length_skipSpace_le d) hd
    have hnext := Nat.lt_of_le_of_lt ((length_skipSpace_le _).trans (length_advance_le d.skipSpace 1)) hspace
    dsimp only
    rw [readElements_room (m := m) (n := n) (by omega) (by omega) (by omega)]

/-- With room for all that is left, the number of members is no limit. -/
theorem readMembers_room : ∀ {m n : Nat} {members : List (Text × Json)} {c : Cursor}, c.rest.length < room →
    c.rest.length < m → c.rest.length < n → readMembers read m members c = readMembers read' n members c
  | m + 1, n + 1, members, c, hroom, hm, hn => by
    rw [readMembers, readMembers]
    cases c.sees '"' with
    | false => rfl
    | true =>
      refine ((shortens_readString _).mono (length_advance_le c 1)).bind_congr fun key d hd => ?_
      have hspace := Nat.lt_of_le_of_lt (length_skipSpace_le d) hd
      dsimp only
      cases d.skipSpace.sees ':' with
      | false => rfl
      | true =>
        have hnext := ((length_skipSpace_le _).trans (length_advance_le d.skipSpace 1)).trans hspace.le
        rw [← hread (d.skipSpace.advance 1).skipSpace (by omega)]
        refine ((hshort _).mono hnext).bind_congr fun value d hd => ?_
        have hspace := Nat.lt_of_le_of_lt (length_skipSpace_le d) hd
        have hnext := Nat.lt_of_le_of_lt ((length_skipSpace_le _).trans (length_advance_le d.skipSpace 1)) hspace
        dsimp only
        rw [readMembers_room (m := m) (n := n) (by omega) (by omega) (by omega)]

end Containers

/-! ## Values -/

theorem shortens_readValue (size : Nat) : ∀ (depth : Nat) (c : Cursor), Shortens c.rest.length (readValue size depth c)
  | 0, c => by
    rw [readValue]
    split
    · exact .error _
    · exact shortens_readScalar c
  | depth + 1, c => by
    have hshort := shortens_readValue size depth
    rw [readValue]
    split
    · rename_i hs
      have hinside := length_inside_lt hs
      dsimp only
      split
      · exact .ok _ (Nat.lt_of_le_of_lt (length_advance_le _ 1) hinside)
      · exact ((shortens_readElements hshort size _).mono hinside.le).map Json.array
    · split
      · rename_i hs
        have hinside := length_inside_lt hs
        dsimp only
        split
        · exact .ok _ (Nat.lt_of_le_of_lt (length_advance_le _ 1) hinside)
        · exact ((shortens_readMembers hshort size [] _).mono hinside.le).map Json.object
      · exact shortens_readScalar c

/-- Readers with room for all that is left of a text read the same value. -/
theorem readValue_room {m n : Nat} : ∀ (depth : Nat) {c : Cursor}, c.rest.length ≤ m → c.rest.length ≤ n →
    readValue m depth c = readValue n depth c
  | 0, _, _, _ => rfl
  | depth + 1, c, hm, hn => by
    have hshort := shortens_readValue m depth
    have hread : ∀ d : Cursor, d.rest.length < c.rest.length → readValue m depth d = readValue n depth d :=
      fun d hd => readValue_room depth (hd.le.trans hm) (hd.le.trans hn)
    rw [readValue, readValue]
    split
    · rename_i hs
      have hlt := length_inside_lt hs
      dsimp only
      rw [readElements_room hshort hread hlt (Nat.lt_of_lt_of_le hlt hm) (Nat.lt_of_lt_of_le hlt hn)]
    · split
      · rename_i hs
        have hlt := length_inside_lt hs
        dsimp only
        rw [readMembers_room hshort hread hlt (Nat.lt_of_lt_of_le hlt hm) (Nat.lt_of_lt_of_le hlt hn)]
      · rfl

end StructForge.Json
