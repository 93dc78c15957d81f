import StructForge.Proofs.Sql.Statements

/-!
# What stands in front of a statement

A text in front of a statement is passed over if `create` does not occur in it, whatever else it has of quotes,
parentheses and comments. A head could start in it only with a keyword that ends in it, or one that goes on into the
statement. But the statement starts with the first letter of the keyword, and this letter is not met again within
`create` (`afterKeyword?_append_eq_none`). So the search comes to the start of the statement (`findHead?_append`), and
what is read from there on does not know of the text in front (`readSchema_append`).
-/

namespace StructForge

namespace Text

/-! ## Keywords in any letter case -/

/-- Only `i`, `s` and `k` are met by more than their two cases. -/
theorem foldChar_eq_iff {a : Char} (ha : a.toNat < 0x80) (hplain : a ∉ ['i', 's', 'k']) (c : Char) :
    foldChar c = a ↔ c.toLower = a := by
  by_cases hc : c.toNat < 0x80
  · rw [of_ascii (P := fun c => foldChar c = c.toLower) (by decide +kernel) hc]
  · have hcapital : ¬('A' ≤ c ∧ c ≤ 'Z') := by
      rintro ⟨-, hle⟩
      have : c.toNat ≤ 0x5A := hle
      omega
    have hlower : c.toLower = c := dif_neg hcapital
    have hne : c ≠ a := by
      rintro rfl
      exact hc ha
    simp only [List.mem_cons, List.not_mem_nil, or_false, not_or] at hplain
    obtain ⟨hi, hs, hk⟩ := hplain
    rw [hlower, foldChar, if_neg hcapital]
    split
    · simp [Ne.symm hi, hne]
    · split
      · simp [Ne.symm hs, hne]
      · split
        · simp [Ne.symm hk, hne]
        · rfl

/-- What spells a keyword without these letters does so in any letter case. -/
theorem map_toLower_of_map_foldChar {k w : Text} (hw : ∀ a ∈ w, a.toNat < 0x80 ∧ a ∉ ['i', 's', 'k'])
    (h : k.map foldChar = w) : k.map Char.toLower = w := by
  subst h
  refine List.map_congr_left fun c hc => ?_
  obtain ⟨hascii, hplain⟩ := hw (foldChar c) (List.mem_map_of_mem hc)
  exact (foldChar_eq_iff hascii hplain c).mp rfl

/-- A keyword whose first letter is not met again in it is not read across the start of a text with this letter. -/
theorem afterKeyword?_append_eq_none {a : Char} {w : Text} (ha : a ∉ w) {u t : Text} (hu : u ≠ [])
    (hfront : ∀ k, k <:+: u → k.map foldChar ≠ a :: w) (ht : ∀ c ∈ t.head?, foldChar c = a) :
    afterKeyword? (a :: w) (u ++ t) = none := by
  cases hread : afterKeyword? (a :: w) (u ++ t) with
  | none => rfl
  | some r =>
    obtain ⟨k, hk, hsplit⟩ := eq_append_of_afterKeyword? hread
    rcases List.append_eq_append_iff.mp hsplit with ⟨x, rfl, rfl⟩ | ⟨x, rfl, -⟩
    · -- the keyword ends at the start of the text, or behind it
      cases x with
      | nil => exact absurd hk (hfront _ (by simp))
      | cons c x =>
        obtain ⟨e, u, rfl⟩ := List.exists_cons_of_ne_nil hu
        have hc : foldChar c = a := ht c rfl
        simp only [List.cons_append, List.map_cons, List.map_append, List.cons.injEq] at hk
        exact absurd (show a ∈ w by simp [← hk.2, hc]) ha
    · exact absurd hk (hfront k ⟨[], x, by simp⟩)

end Text

namespace Sql

open Text

/-! ## Preambles -/

theorem readHead?_of_afterKeyword? {dialect : Sql} {t : Text} (h : afterKeyword? "create" t = none) :
    dialect.readHead? t = none := by
  apply readHead?_of_afterPhrase?
  simp only [afterPhrase?, h, Option.bind_eq_bind, Option.bind_none]

/-- No head starts in front of the statement. -/
theorem findHead?_append {p t : Text} (hp : ¬"create".toList <:+: p.map Char.toLower)
    (ht : "create".toList <+: t.map Char.toLower) (dialect : Sql) :
    dialect.findHead? (p ++ t) = dialect.findHead? t := by
  have hletters : ∀ a ∈ "create".toList, a.toNat < 0x80 ∧ a ∉ ['i', 's', 'k'] := by decide
  refine search_of_front (fun q u hu hne => readHead?_of_afterKeyword? ?_) false
  apply afterKeyword?_append_eq_none (by decide) hne
  · intro k hk hfold
    have hinfix : k <:+: p := hu ▸ hk.trans (List.suffix_append q u).isInfix
    exact hp (map_toLower_of_map_foldChar hletters hfold ▸ hinfix.map Char.toLower)
  · intro c hc
    obtain ⟨v, rfl⟩ := List.head?_eq_some_iff.mp hc
    obtain ⟨r, hr⟩ := ht
    have hlower : 'c' = c.toLower := (List.cons.inj hr).1
    exact (foldChar_eq_iff (by decide) (by decide) c).mpr hlower.symm

/-- **A preamble does not matter.** In front of a text that starts with `create`, in any letter case, may stand whatever
does not have this word in it: the schema, or the complaint, is the same. -/
theorem readSchema_append (dialect : Sql) {p t : Text} (hp : ¬"create".toList <:+: p.map Char.toLower)
    (ht : "create".toList <+: t.map Char.toLower) : readSchema dialect (p ++ t) = readSchema dialect t := by
  rw [readSchema, Statement.read, findHead?_append hp ht, readSchema, Statement.read]

/-- A dropped table, a comment with a quote and parentheses that are not closed, and a setting. -/
def dumpStart : Text := "DROP TABLE IF EXISTS \x60a\x60; -- don't re-crea( it\nSET NAMES utf8;crea"

/-- A statement whose keyword is spelled in both cases. -/
def dumpedTable : Text := "cREATE TABLE days (day DATE NOT NULL)"

/-- It is read as if it stood alone, though the start of its keyword stands in front of it. -/
theorem readSchema_append_dumpStart :
    readSchema .mysql (dumpStart ++ dumpedTable) = readSchema .mysql dumpedTable ∧
      ((readSchema .mysql dumpedTable).toOption.map fun s => (s.tableName, s.fields.map (·.sourceName))) =
        some (some "days".toList, ["day".toList]) := by
  refine ⟨readSchema_append .mysql (by decide +kernel) (by decide +kernel), ?_⟩
  decide +kernel

end Sql

end StructForge
