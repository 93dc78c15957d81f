import StructForge.Proofs.Sql.Fields
import StructForge.Proofs.Sql.QuotedNames

/-!
# Names of tables that are no words

The reader of a table name takes word characters only, and the quotes around them need not be a pair. So of a name in
quotes it takes the word at its start; where there is none, it takes a qualifier in front of the name, or goes on to
look for a statement inside the name (`isSome_readHead?_head`, `isSome_findHead?_head`). What it takes is a word
(`isWord_of_findHead?`), so that a name is kept, or refused, exactly if it is a word itself or nothing is taken
(`isKept_iff_isWord`).
-/

namespace StructForge.Sql

open Text

variable {dialect : Sql}

/-! ## Heads -/

/-- What stands in front of the name of a table. -/
def creating : Text := "CREATE TABLE "

theorem afterPhrase?_creating : (afterPhrase? ["create", "table"] creating).bind afterBlanks? = some [] := by
  decide +kernel

/-- What is read behind `CREATE TABLE`, if that is no guard. -/
theorem readHead?_create {t : Text} (hstart : t.dropWhile isBlank = t)
    (hguard : afterPhrase? ["if", "not", "exists"] t = none) :
    dialect.readHead? (creating ++ t) = dialect.readTableName? t := by
  have hcreate := afterPhrase?_blanks_append (by decide) afterPhrase?_creating hstart
  rw [readHead?, Option.bind_eq_bind, hcreate, Option.bind_some, hguard]
  rfl

/-- A name starts with a word character, perhaps behind an opening quote. -/
theorem isSome_readName? (t : Text) :
    (dialect.readName? t).isSome = !atWordEnd (skipOneOf dialect.nameOpeners t) := by
  rw [readName?]
  cases skipOneOf dialect.nameOpeners t with
  | nil => rfl
  | cons c t =>
    cases hc : isWordChar c with
    | true => simp [takeWord, atWordEnd, hc]
    | false => simp [takeWord, atWordEnd, hc]

theorem isSome_readTableName? (t : Text) : (dialect.readTableName? t).isSome = (dialect.readName? t).isSome := by
  rw [readTableName?]
  rcases dialect.readName? t with _ | ⟨name, _ | ⟨c, rest⟩⟩
  · rfl
  · rfl
  · by_cases hc : c = '.'
    · subst hc
      simp
    · simp [hc]

theorem suffix_of_findHead? {t : Text} {x : Text × Text} (h : dialect.findHead? t = some x) : x.2 <:+ t := by
  suffices hsearch : ∀ b, search (fun _ => dialect.readHead?) b t = some x → x.2 <:+ t from hsearch false h
  clear h
  intro b h
  induction t generalizing b with
  | nil => exact suffix_of_readHead? h
  | cons c t ih =>
    rw [search] at h
    split at h
    · rename_i hread
      exact suffix_of_readHead? (hread.trans h)
    · exact (ih _ h).trans (List.suffix_cons c t)

/-- A statement only starts with its first letter. -/
theorem readHead?_eq_none {c : Char} {t : Text} (h : foldChar c ≠ 'c') : dialect.readHead? (c :: t) = none := by
  have hletters : ("create" : Text) = ['c', 'r', 'e', 'a', 't', 'e'] := by decide +kernel
  refine readHead?_of_afterPhrase? ?_
  rw [afterPhrase?, hletters, afterKeyword?, if_neg h]
  · rfl
  · exact fun hnil => absurd hnil (List.cons_ne_nil _ _)

/-! ## A quote behind a text -/

section

variable {c : Char} {t u : Text}

/-- A name does not start at a character that is no part of it and has none behind it. -/
theorem isSome_readName?_stop (hc : isWordChar c = false) (hu : atWordEnd u = true)
    (ht : ∀ d ∈ t, dialect.nameOpeners.contains d = false) :
    (dialect.readName? (t ++ c :: u)).isSome = (dialect.readName? t).isSome := by
  rw [isSome_readName?, isSome_readName?]
  cases t with
  | nil =>
    have hend : atWordEnd (skipOneOf dialect.nameOpeners (c :: u)) = true := by
      rw [skipOneOf]
      split
      · exact hu
      · simp [atWordEnd, hc]
    rw [List.nil_append, hend]
    rfl
  | cons d t =>
    have hd := ht d List.mem_cons_self
    simp only [List.cons_append, skipOneOf, hd, Bool.false_eq_true, if_false, atWordEnd]

/-- Neither does a head end there that has not had its name. -/
theorem isSome_readHead?_stop (hblank : isBlank c = false) (hc : isWordChar c = false) (hu : atWordEnd u = true)
    (ht : ∀ d ∈ t, dialect.nameOpeners.contains d = false) :
    (dialect.readHead? (t ++ c :: u)).isSome = (dialect.readHead? t).isSome := by
  have hphrase {ws : List Text} (hws : IsPhrase ws) : ∀ w ∈ ws, foldChar c ∉ w := fun w hw =>
    foldChar_not_mem hc (hws w hw).2
  have hname {r : Text} (hr : r <:+ t) :
      (dialect.readTableName? (r ++ c :: u)).isSome = (dialect.readTableName? r).isSome := by
    rw [isSome_readTableName?, isSome_readTableName?]
    exact isSome_readName?_stop hc hu fun d hd => ht d (hr.mem hd)
  rw [readHead?, readHead?, afterPhrase?_stop hblank (hphrase (by decide))]
  cases hcreate : afterPhrase? ["create", "table"] t with
  | none => rfl
  | some r =>
    simp only [Option.map_some, Option.bind_some, afterBlanks?_stop hblank, Option.bind_eq_bind]
    cases hblanks : afterBlanks? r with
    | none => rfl
    | some r' =>
      have hr : r' <:+ t := (suffix_of_afterBlanks? hblanks).trans (suffix_of_afterPhrase? hcreate)
      simp only [Option.map_some, Option.bind_some, Option.isSome_or, hname hr]
      congr 1
      rw [afterPhrase?_stop hblank (hphrase (by decide))]
      cases hguard : afterPhrase? ["if", "not", "exists"] r' with
      | none => rfl
      | some g =>
        simp only [Option.map_some, Option.bind_some, afterBlanks?_stop hblank]
        cases hbehind : afterBlanks? g with
        | none => rfl
        | some g' =>
          exact hname ((suffix_of_afterBlanks? hbehind).trans ((suffix_of_afterPhrase? hguard).trans hr))

theorem isSome_search_cons {α : Type} {read : Bool → Text → Option α} (b : Bool) (c : Char) (t : Text) :
    (search read b (c :: t)).isSome = ((read b (c :: t)).isSome || (search read (isWordChar c) t).isSome) := by
  rw [search]
  cases read b (c :: t) <;> rfl

/-- So a head is found in such a text only if one is found in front. -/
theorem isSome_search_stop (hblank : isBlank c = false) (hc : isWordChar c = false) (hu : atWordEnd u = true)
    (hnone : ∀ b, search (fun _ => dialect.readHead?) b u = none) (b : Bool)
    (ht : ∀ d ∈ t, dialect.nameOpeners.contains d = false) :
    (search (fun _ => dialect.readHead?) b (t ++ c :: u)).isSome =
      (search (fun _ => dialect.readHead?) b t).isSome := by
  induction t generalizing b with
  | nil =>
    have hnil := isSome_readHead?_stop hblank hc hu ht
    rw [List.nil_append] at hnil ⊢
    rw [isSome_search_cons, hnil, hnone, Option.isSome_none, Bool.or_false, search]
  | cons d t ih =>
    have hcons := isSome_readHead?_stop hblank hc hu ht
    rw [List.cons_append] at hcons ⊢
    rw [isSome_search_cons, isSome_search_cons, hcons,
      ih (isWordChar d) fun e he => ht e (List.mem_cons_of_mem d he)]

end

/-! ## Names of any characters -/

/-- A character that is neither a newline nor a quote, a bracket or a parenthesis. -/
def isFree (c : Char) : Bool := ['\n', '\'', '"', '\x60', '[', ']', '(', ')'].all (c ≠ ·)

/-- The name of a table in quotes of a dialect, perhaps behind a qualifier, where the name may have any free
characters. -/
structure FreeName (dialect : Sql) where
  qualifier : Option Name
  name : Text
  nonempty : name ≠ []
  free : ∀ c ∈ name, isFree c = true
  quotes : Char × Char
  quotes_mem : quotes ∈ dialect.quotePairs

theorem isFree_of_opener {c : Char} (h : isFree c = true) : dialect.nameOpeners.contains c = false := by
  refine Bool.eq_false_iff.mpr fun hmem => ?_
  have hall : ∀ d ∈ dialect.nameOpeners, isFree d = false := by cases dialect <;> decide
  rw [hall c (by simpa using hmem)] at h
  cases h

namespace FreeName

variable (n : FreeName dialect)

/-- The name in its quotes. -/
def quoted : Text := n.quotes.1 :: (n.name ++ [n.quotes.2])

/-- The name in its quotes behind its qualifier. -/
def qualified : Text :=
  match n.qualifier with
  | none => n.quoted
  | some q => q.text ++ '.' :: n.quoted

/-- The head of a statement that makes the table. -/
def head : Text := creating ++ (n.qualified ++ [' '])

/-- A statement that makes the table with one column. -/
def statement : Text := n.head ++ '(' :: ("id INT" ++ [')'])

/-- The schema has the whole name, if there is one. -/
def IsKept : Prop := ∀ schema, readSchema dialect n.statement = .ok schema → schema.tableName = some n.name

theorem paren_not_mem_name : '(' ∉ n.name := fun h => absurd (n.free _ h) (by decide)

theorem paren_not_mem_head : '(' ∉ n.head := by
  have hquotes : ∀ q ∈ dialect.quotePairs, '(' ≠ q.1 ∧ '(' ≠ q.2 := by cases dialect <;> decide
  have hquoted : '(' ∉ n.quoted := by
    obtain ⟨hopen, hclose⟩ := hquotes n.quotes n.quotes_mem
    simp [quoted, hopen, hclose, n.paren_not_mem_name]
  have hqualified : '(' ∉ n.qualified := by
    unfold qualified
    split
    · exact hquoted
    · rename_i q _
      have hq : '(' ∉ q.text := not_mem_of_isWordChar q.word (by decide)
      simp [hq, hquoted]
  have hcreate : '(' ∉ creating := by decide +kernel
  simp [head, hcreate, hqualified]

/-- The table of the statement is the one that is found in its head. -/
theorem isKept_iff : n.IsKept ↔ ∀ found, dialect.findHead? n.head = some found → found.1 = n.name := by
  have hbody : ∃ fields, (columnsOf dialect (bodyLines "id INT")).mapM (ColumnText.toField dialect) = .ok fields := by
    have hcolumns : columnsOf dialect (bodyLines "id INT") = [⟨"id", "INT", ""⟩] := by cases dialect <;> decide +kernel
    have htype : dialect.goType "INT" = .ok ((dialect.lookup? (normalType "INT")).getD Go.TypeName.string) :=
      goType_of_no_bracket (by decide)
    rw [hcolumns, List.mapM_cons, ColumnText.toField, htype]
    exact ⟨_, rfl⟩
  cases hfind : dialect.findHead? n.head with
  | none =>
    have hbehind : search (fun _ => dialect.readHead?) (isWordChar '(') ("id INT" ++ [')']) = none := by
      cases dialect <;> decide +kernel
    have hread : readSchema dialect n.statement = .error .noTableName := by
      have hstatement : dialect.findHead? n.statement = none := by
        rw [findHead?] at hfind ⊢
        rw [statement, search_stop (fun _ t => readHead?_stop dialect t _) (fun _ => rfl), hfind, hbehind]
        rfl
      rw [readSchema, Statement.read, hstatement]
      rfl
    simp [IsKept, hread]
  | some found =>
    obtain ⟨fields, hfields⟩ := hbody
    have hrest : '(' ∉ found.2 := fun h => n.paren_not_mem_head ((suffix_of_findHead? hfind).mem h)
    have hread : readSchema dialect n.statement = .ok { tableName := some found.1, fields } := by
      rw [statement, readSchema_of_parts hfind hrest (by decide) (by decide), hfields, schemaOf_ok]
    simp [IsKept, hread]

/-! ### Where the head is found -/

theorem quotes_spec : dialect.nameOpeners.contains n.quotes.1 = true ∧ isBlank n.quotes.1 = false ∧
    isWordChar n.quotes.1 = false ∧ isBlank n.quotes.2 = false ∧ isWordChar n.quotes.2 = false := by
  have hspec : ∀ q ∈ dialect.quotePairs, dialect.nameOpeners.contains q.1 = true ∧ isBlank q.1 = false ∧
      isWordChar q.1 = false ∧ isBlank q.2 = false ∧ isWordChar q.2 = false := by cases dialect <;> decide
  exact hspec n.quotes n.quotes_mem

variable {n}

theorem qualified_of_none (h : n.qualifier = none) (u : Text) :
    n.qualified ++ u = n.quotes.1 :: (n.name ++ n.quotes.2 :: u) := by
  simp [qualified, h, quoted]

theorem qualified_of_some {q : Name} (h : n.qualifier = some q) (u : Text) :
    n.qualified ++ u = q.text ++ '.' :: (n.quoted ++ u) := by
  simp [qualified, h]

variable (n)

/-- The head is that of the statement, if there is a name in it. -/
theorem readHead?_head : dialect.readHead? n.head = dialect.readTableName? (n.qualified ++ [' ']) := by
  obtain ⟨-, hblank, hword, -, -⟩ := n.quotes_spec
  unfold head
  cases hq : n.qualifier with
  | none =>
    rw [qualified_of_none hq]
    refine readHead?_create ?_ (afterPhrase?_of_not_word (by decide) (by decide) hword _)
    rw [List.dropWhile_cons_of_neg (by simp [hblank])]
  | some q =>
    obtain ⟨c, w, hw⟩ := List.exists_cons_of_ne_nil q.nonempty
    rw [qualified_of_some hq]
    refine readHead?_create ?_ ?_
    · rw [hw, List.cons_append, dropWhile_isBlank_of_isWordChar (q.word c (hw ▸ List.mem_cons_self))]
    · rw [afterPhrase?_more (by decide) q.word (by rfl)]
      exact ite_self _

/-- There is no name where the name in the quotes does not start with a word, unless there is a qualifier. -/
theorem isSome_readHead?_head :
    (dialect.readHead? n.head).isSome = (n.qualifier.isSome || !atWordEnd n.name) := by
  rw [readHead?_head, isSome_readTableName?]
  cases hq : n.qualifier with
  | none =>
    obtain ⟨c, name, hname⟩ := List.exists_cons_of_ne_nil n.nonempty
    rw [isSome_readName?, qualified_of_none hq, skipOneOf, if_pos n.quotes_spec.1, hname]
    rfl
  | some q =>
    rw [qualified_of_some hq, readName?_bare dialect q.nonempty q.word (by rfl)]
    rfl

/-- A word in its quotes is read as it is. -/
theorem readHead?_head_of_isWord (h : IsWord n.name) : dialect.readHead? n.head = some (n.name, [' ']) := by
  let quoted : QuotedName dialect := ⟨⟨n.name, h.ne_nil, h.chars⟩, n.quotes, n.quotes_mem⟩
  have hname : dialect.readName? (n.quoted ++ [' ']) = some (n.name, [' ']) := by
    have hread := readName?_quoted dialect quoted [' ']
    rwa [if_pos quoted.isQuotedFor_self] at hread
  rw [readHead?_head, readTableName?]
  cases hq : n.qualifier with
  | none =>
    have hqualified : n.qualified = n.quoted := by rw [qualified, hq]
    simp [hqualified, hname]
  | some q =>
    have hdot : skipOneOf dialect.nameClosers ('.' :: (n.quoted ++ [' '])) = '.' :: (n.quoted ++ [' ']) := by
      cases dialect <;> rfl
    rw [qualified_of_some hq, readName?_bare dialect q.nonempty q.word (by rfl), hdot]
    simp [hname]

/-- Without a name at its place, the head is looked for inside the name. -/
theorem isSome_findHead?_head (h : dialect.readHead? n.head = none) :
    (dialect.findHead? n.head).isSome = (dialect.findHead? n.name).isSome := by
  obtain ⟨-, -, hopen, hblank, hclose⟩ := n.quotes_spec
  have hqualifier : n.qualifier = none := by
    have hsome := n.isSome_readHead?_head
    rw [h] at hsome
    cases hq : n.qualifier <;> simp [hq] at hsome ⊢
  have hhead : n.head = (creating ++ [n.quotes.1]) ++ (n.name ++ n.quotes.2 :: [' ']) := by
    simp [head, qualified_of_none hqualifier]
  -- behind its first letter, nothing in front of the name starts a statement
  have hother : ∀ c ∈ creating.tail ++ [n.quotes.1], foldChar c ≠ 'c' := by
    intro c hc
    rcases List.mem_append.mp hc with hc | hc
    · have hall : ∀ c ∈ creating.tail, foldChar c ≠ 'c' := by decide +kernel
      exact hall c hc
    · rw [List.mem_singleton.mp hc]
      have hnot : foldChar n.quotes.1 ∉ ['c'] := foldChar_not_mem hopen (by decide)
      simpa using hnot
  have hfront : ∀ p u, creating ++ [n.quotes.1] = p ++ u → u ≠ [] →
      dialect.readHead? (u ++ (n.name ++ n.quotes.2 :: [' '])) = none := by
    intro p u hpu hu
    cases p with
    | nil =>
      rw [List.nil_append] at hpu
      rwa [← hpu, ← hhead]
    | cons c p =>
      obtain ⟨d, u, rfl⟩ := List.exists_cons_of_ne_nil hu
      have htail : creating.tail ++ [n.quotes.1] = p ++ d :: u := congrArg List.tail hpu
      exact readHead?_eq_none (hother d (by simp [htail]))
  have hspace : ∀ b, search (fun _ => dialect.readHead?) b [' '] = none := by cases dialect <;> decide +kernel
  rw [findHead?, hhead, search_of_front hfront]
  exact isSome_search_stop hblank hclose (by decide) hspace false fun d hd => isFree_of_opener (n.free d hd)

/-! ### What is kept -/

/-- A name is kept, or the statement refused, exactly if it is a word, or if it starts with none, has no qualifier, and
there is no head of a statement in it. -/
theorem isKept_iff_isWord : n.IsKept ↔ IsWord n.name ∨
    n.qualifier = none ∧ atWordEnd n.name = true ∧ dialect.findHead? n.name = none := by
  rw [isKept_iff]
  constructor
  · intro hkept
    by_cases hword : IsWord n.name
    · exact .inl hword
    · have hnone : dialect.findHead? n.head = none :=
        Option.eq_none_iff_forall_ne_some.mpr fun found hfound =>
          hword (hkept found hfound ▸ isWord_of_findHead? hfound)
      have hread : dialect.readHead? n.head = none := by
        cases hread : dialect.readHead? n.head with
        | none => rfl
        | some found =>
          rw [findHead?, search_of_read hread] at hnone
          cases hnone
      have hstart := n.isSome_readHead?_head
      have hinside := n.isSome_findHead?_head hread
      rw [hread, Option.isSome_none, eq_comm, Bool.or_eq_false_iff] at hstart
      rw [hnone, Option.isSome_none, eq_comm] at hinside
      exact .inr ⟨by simpa using hstart.1, by simpa using hstart.2, by simpa using hinside⟩
  · rintro (hword | ⟨hqualifier, hstart, hinside⟩) found hfound
    · have hread : dialect.findHead? n.head = some (n.name, [' ']) :=
        search_of_read (n.readHead?_head_of_isWord hword)
      rw [hread] at hfound
      cases hfound
      rfl
    · have hread : dialect.readHead? n.head = none := by
        have hsome := n.isSome_readHead?_head
        simpa [hqualifier, hstart] using hsome
      have hnone := n.isSome_findHead?_head hread
      rw [hfound, hinside] at hnone
      cases hnone

end FreeName

/-- A name of two words. -/
def userData : FreeName .mysql where
  qualifier := none
  name := "user data"
  nonempty := by decide
  free := by decide
  quotes := ('\x60', '\x60')
  quotes_mem := backticks_mem

/-- Of two words the first is taken for the table. -/
theorem not_isKept_userData :
    userData.statement = "CREATE TABLE \x60user data\x60 (id INT)".toList ∧ ¬userData.IsKept := by
  refine ⟨by decide +kernel, fun hkept => ?_⟩
  have hname : (readSchema .mysql userData.statement).toOption.bind (·.tableName) = some "user".toList := by
    decide +kernel
  cases hread : readSchema .mysql userData.statement with
  | error e =>
    rw [hread] at hname
    cases hname
  | ok schema =>
    have hwhole : schema.tableName = some "user data".toList := hkept schema hread
    rw [hread] at hname
    have htwo : (some "user".toList : Option Text) = some "user data".toList := hname.symm.trans hwhole
    exact absurd htwo (by decide +kernel)

end StructForge.Sql
