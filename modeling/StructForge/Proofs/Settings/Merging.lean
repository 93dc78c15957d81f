import StructForge.Proofs.Toml.Keys
import StructForge.Settings

/-!
# Settings from lists of values

The entries of a file and of the environment are merged into one list in which a name occurs once, and its value is that
of the environment if there is one (`lookup_merged`). Setting its entries one after another ends at the first value that
does not fit (`Key.misfit?`); if all fit, every setting has the value it is given, or its default
(`result_apply_merge`). So the order of the entries decides at most which value is complained about.
-/

namespace StructForge.Settings

open Text

/-! ## Single settings -/

theorem Key.mem_all (key : Key) : key ∈ Key.all := by cases key <;> decide

/-- The setting of that name. -/
def Key.ofName? (name : Text) : Option Key := Key.all.find? (·.name == name)

theorem Key.ofName?_eq_some_iff {name : Text} {key : Key} : Key.ofName? name = some key ↔ name = key.name := by
  constructor
  · intro h
    rw [Key.ofName?] at h
    have hfound := List.find?_some h
    exact (eq_of_beq hfound).symm
  · rintro rfl
    cases key <;> rfl

theorem Key.name_inj {key key' : Key} (h : key.name = key'.name) : key = key' := by
  have hsome := Key.ofName?_eq_some_iff.mpr h
  rw [Key.ofName?_eq_some_iff.mpr rfl] at hsome
  exact Option.some.inj hsome

/-- Whether a setting is switched on or off. -/
def Key.isSwitch : Key → Bool
  | .emitStorageAccessor | .inlineNestedTypes => true
  | .structName | .packageName | .documentName => false

/-- The text that a value sets: trimmed, and none if nothing is left. -/
def text? : Value → Option Text
  | .string t => some (trim t) |>.filter (!·.isEmpty)
  | _ => none

/-- What is wrong with a value for a setting: a switch needs a truth value, and the others a text. -/
def Key.misfit? (key : Key) (value : Value) : Option ValueError :=
  if key.isSwitch then
    if (boolean? value).isSome then none else some (.notBoolean key.name value)
  else
    match value with
    | .string _ => none
    | _ => some (.notText key.name)

/-- The settings with the values that they are given; a setting without one has its default. -/
def ofValues (given : Key → Option Value) : Settings where
  structName := (given .structName).bind text?
  packageName := ((given .packageName).bind text?).getD "model"
  emitStorageAccessor := ((given .emitStorageAccessor).bind boolean?).getD true
  inlineNestedTypes := ((given .inlineNestedTypes).bind boolean?).getD true
  documentName := ((given .documentName).bind text?).getD "Response"

/-- The values that are given, with one more. -/
def give (given : Key → Option Value) (key : Key) (value : Value) : Key → Option Value :=
  fun key' => if key' = key then some value else given key'

theorem parseBoolean_eq (name : Text) (value : Value) :
    parseBoolean name value = match boolean? value with
      | some b => .ok b
      | none => .error (.notBoolean name value) := rfl

theorem parseText_eq (name : Text) (value : Value) :
    parseText name value = match value with
      | .string _ => .ok (text? value)
      | _ => .error (.notText name) := by
  cases value <;> rfl

/-- Setting a value of a setting gives it that value, unless it does not fit. -/
theorem set_ofValues (given : Key → Option Value) (key : Key) (value : Value) :
    (ofValues given).set key value =
      match key.misfit? value with
      | some e => .error e
      | none => .ok (ofValues (give given key value)) := by
  cases key with
  | structName | packageName | documentName =>
    rw [set, parseText_eq]
    cases value <;> rfl
  | emitStorageAccessor | inlineNestedTypes =>
    rw [set, parseBoolean_eq]
    cases hvalue : boolean? value with
    | none => simp [Key.misfit?, Key.isSwitch, hvalue, Except.map]
    | some b => simp [Key.misfit?, Key.isSwitch, hvalue, Except.map, ofValues, give]

/-! ## Values one after another -/

/-- The values among some that are for settings, in order. -/
def known (values : List (Text × Value)) : List (Key × Value) :=
  values.filterMap fun (name, value) => (Key.ofName? name).map (·, value)

/-- The entries that values are under their names. -/
def entriesOfNamed (values : List (Text × Value)) : List Entry := values.map fun (name, value) => (.string name, value)

theorem known_cons (name : Text) (value : Value) (rest : List (Text × Value)) :
    known ((name, value) :: rest) =
      match Key.ofName? name with
      | some key => (key, value) :: known rest
      | none => known rest := by
  rw [known, List.filterMap_cons]
  dsimp only
  cases Key.ofName? name <;> rfl

theorem keys_known (values : List (Text × Value)) :
    (known values).map (·.1) = (values.map (·.1)).filterMap Key.ofName? := by
  induction values with
  | nil => rfl
  | cons entry rest ih =>
    obtain ⟨name, value⟩ := entry
    rw [known_cons, List.map_cons, List.filterMap_cons]
    cases Key.ofName? name with
    | none => exact ih
    | some key => simp [ih]

theorem lookup_known (key : Key) (values : List (Text × Value)) :
    (known values).lookup key = values.lookup key.name := by
  induction values with
  | nil => rfl
  | cons entry rest ih =>
    obtain ⟨name, value⟩ := entry
    rw [known_cons, List.lookup_cons]
    by_cases hname : key.name = name
    · rw [← hname, Key.ofName?_eq_some_iff.mpr rfl]
      simp
    · rw [beq_eq_false_iff_ne.mpr hname, ← ih]
      cases hkey : Key.ofName? name with
      | none => rfl
      | some key' =>
        have hne : key ≠ key' := fun h => hname (by rw [h, Key.ofName?_eq_some_iff.mp hkey])
        simp [List.lookup_cons, beq_eq_false_iff_ne.mpr hne]

/-- Distinct names name distinct settings. -/
theorem nodup_keys_known {values : List (Text × Value)} (h : (values.map (·.1)).Nodup) :
    ((known values).map (·.1)).Nodup := by
  rw [keys_known]
  refine h.filterMap fun name name' key hname hname' => ?_
  rw [Key.ofName?_eq_some_iff.mp hname, Key.ofName?_eq_some_iff.mp hname']

/-- The values that are given, with those of a list before them. -/
def giveAll (given : Key → Option Value) (values : List (Key × Value)) : Key → Option Value :=
  fun key => (values.lookup key).or (given key)

theorem giveAll_cons {given : Key → Option Value} {key : Key} {value : Value} {rest : List (Key × Value)}
    (h : rest.lookup key = none) : giveAll given ((key, value) :: rest) = giveAll (give given key value) rest := by
  funext key'
  rw [giveAll, giveAll, give, List.lookup_cons]
  by_cases hkey : key' = key
  · subst hkey
    simp [h]
  · simp [hkey, beq_eq_false_iff_ne.mpr hkey]

/-- Entries set one after another: the first value that does not fit ends it, by induction on the entries. -/
theorem result_apply (given : Key → Option Value) {values : List (Text × Value)} (h : (values.map (·.1)).Nodup) :
    ((ofValues given).apply (entriesOfNamed values)).2 =
      match (known values).findSome? fun (key, value) => key.misfit? value with
      | some e => .error e
      | none => .ok (ofValues (giveAll given (known values))) := by
  induction values generalizing given with
  | nil => rfl
  | cons entry rest ih =>
    obtain ⟨name, value⟩ := entry
    rw [List.map_cons, List.nodup_cons] at h
    have hentries : entriesOfNamed ((name, value) :: rest) = (.string name, value) :: entriesOfNamed rest := rfl
    have hofValue : Key.ofValue? (.string name) = Key.ofName? name := rfl
    rw [hentries, apply, hofValue, known_cons]
    cases hkey : Key.ofName? name with
    | none => exact ih given h.2
    | some key =>
      have hlookup : (known rest).lookup key = none := by
        rw [lookup_known, ← Key.ofName?_eq_some_iff.mp hkey]
        exact Json.lookup_eq_none_iff_not_mem.mpr h.1
      simp only [set_ofValues, List.findSome?_cons]
      cases key.misfit? value with
      | some e => rfl
      | none =>
        simp only [giveAll_cons hlookup]
        exact ih (give given key value) h.2

/-- The names that mean nothing are names of the entries. -/
theorem unknown_apply (s : Settings) (values : List (Text × Value)) :
    ∀ name ∈ (s.apply (entriesOfNamed values)).1, ∃ t, name = .string t := by
  induction values generalizing s with
  | nil => nofun
  | cons entry rest ih =>
    obtain ⟨name, value⟩ := entry
    have hentries : entriesOfNamed ((name, value) :: rest) = (.string name, value) :: entriesOfNamed rest := rfl
    rw [hentries, apply]
    split
    · exact List.forall_mem_cons.mpr ⟨⟨name, rfl⟩, ih s⟩
    · split
      · nofun
      · exact ih _

/-! ## Merging -/

/-- The values that the environment gives, under the names of their settings. -/
def environmentValues (environment : List (Text × Text)) : List (Text × Value) :=
  Key.all.filterMap fun key => (environment.lookup key.variable).map fun t => (key.name, .string t)

theorem ofEnvironment_eq (environment : List (Text × Text)) :
    ofEnvironment environment = entriesOfNamed (environmentValues environment) := by
  rw [ofEnvironment, entriesOfNamed, environmentValues, List.map_filterMap]
  congr 1
  funext key
  cases environment.lookup key.variable <;> rfl

/-- Values with more put over them. -/
def mergeNamed (values more : List (Text × Value)) : List (Text × Value) :=
  more.foldl (fun merged (name, value) => Json.insertMember name value merged) values

theorem putEntry_entriesOfNamed (name : Text) (value : Value) (values : List (Text × Value)) :
    putEntry (.string name) value (entriesOfNamed values) = entriesOfNamed (Json.insertMember name value values) := by
  induction values with
  | nil => rfl
  | cons entry rest ih =>
    obtain ⟨n, v⟩ := entry
    have hentries : entriesOfNamed ((n, v) :: rest) = (.string n, v) :: entriesOfNamed rest := rfl
    have hsame : (Value.string n).sameName (.string name) = decide (n = name) := rfl
    rw [hentries, putEntry, hsame, Json.insertMember, ih]
    by_cases hname : n = name
    · simp [hname, entriesOfNamed]
    · simp [hname, entriesOfNamed]

theorem merge_entriesOfNamed (values more : List (Text × Value)) :
    merge (entriesOfNamed values) (entriesOfNamed more) = entriesOfNamed (mergeNamed values more) := by
  induction more generalizing values with
  | nil => rfl
  | cons entry rest ih =>
    obtain ⟨name, value⟩ := entry
    have hstep : merge (entriesOfNamed values) (entriesOfNamed ((name, value) :: rest)) =
        merge (putEntry (.string name) value (entriesOfNamed values)) (entriesOfNamed rest) := rfl
    rw [hstep, putEntry_entriesOfNamed, ih]
    rfl

/-- The later value goes before the earlier one. -/
theorem lookup_mergeNamed {values more : List (Text × Value)} (h : (more.map (·.1)).Nodup) (name : Text) :
    (mergeNamed values more).lookup name = (more.lookup name).or (values.lookup name) := by
  induction more generalizing values with
  | nil => rfl
  | cons entry rest ih =>
    obtain ⟨n, v⟩ := entry
    rw [List.map_cons, List.nodup_cons] at h
    have hstep : mergeNamed values ((n, v) :: rest) = mergeNamed (Json.insertMember n v values) rest := rfl
    rw [hstep, ih h.2, Json.lookup_insertMember, List.lookup_cons]
    by_cases hname : name = n
    · subst hname
      have hnone : rest.lookup name = none := Json.lookup_eq_none_iff_not_mem.mpr h.1
      simp [hnone]
    · simp [hname, beq_eq_false_iff_ne.mpr hname]

/-- The old names keep their places, and new ones stand behind them. -/
theorem keys_mergeNamed {values more : List (Text × Value)} (h : (more.map (·.1)).Nodup) :
    (mergeNamed values more).map (·.1) =
      values.map (·.1) ++ (more.map (·.1)).filter (· ∉ values.map (·.1)) := by
  induction more generalizing values with
  | nil => simp [mergeNamed]
  | cons entry rest ih =>
    obtain ⟨n, v⟩ := entry
    rw [List.map_cons, List.nodup_cons] at h
    have hstep : mergeNamed values ((n, v) :: rest) = mergeNamed (Json.insertMember n v values) rest := rfl
    rw [hstep, ih h.2, Json.keys_insertMember, List.map_cons, List.filter_cons]
    by_cases hn : n ∈ values.map (·.1)
    · rw [if_pos hn, if_neg (by simpa using hn)]
    · have hrest : (rest.map (·.1)).filter (· ∉ values.map (·.1) ++ [n]) =
          (rest.map (·.1)).filter (· ∉ values.map (·.1)) := by
        refine List.filter_congr fun name hname => ?_
        have hne : name ≠ n := fun hsame => h.1 (hsame ▸ hname)
        simp [hne]
      rw [if_neg hn, hrest, if_pos (by simpa using hn), List.append_assoc, List.singleton_append]

theorem nodup_mergeNamed {values more : List (Text × Value)} (hvalues : (values.map (·.1)).Nodup)
    (h : (more.map (·.1)).Nodup) : ((mergeNamed values more).map (·.1)).Nodup := by
  rw [keys_mergeNamed h]
  refine List.nodup_append.mpr ⟨hvalues, h.filter _, fun a ha b hb hab => ?_⟩
  obtain ⟨-, hnot⟩ := List.mem_filter.mp hb
  exact absurd (hab ▸ ha) (by simpa using hnot)

/-! ## The environment -/

/-- Whether the environment gives a setting. -/
def isSet (environment : List (Text × Text)) (key : Key) : Bool := (environment.lookup key.variable).isSome

theorem keys_environmentValues (environment : List (Text × Text)) :
    (environmentValues environment).map (·.1) = (Key.all.filter (isSet environment)).map Key.name := by
  rw [environmentValues]
  induction Key.all with
  | nil => rfl
  | cons key rest ih =>
    rw [List.filterMap_cons, List.filter_cons, isSet]
    cases environment.lookup key.variable with
    | none => exact ih
    | some t => simpa using ih

theorem nodup_environmentValues (environment : List (Text × Text)) :
    ((environmentValues environment).map (·.1)).Nodup := by
  rw [keys_environmentValues]
  exact ((by decide : Key.all.Nodup).filter _).map fun _ _ => Key.name_inj

theorem lookup_environmentValues (environment : List (Text × Text)) (key : Key) :
    (environmentValues environment).lookup key.name = (environment.lookup key.variable).map .string := by
  have hlookup : ∀ keys : List Key,
      (keys.filterMap fun k => (environment.lookup k.variable).map fun t => (k.name, Value.string t)).lookup key.name =
        if key ∈ keys then (environment.lookup key.variable).map .string else none := by
    intro keys
    induction keys with
    | nil => rfl
    | cons k rest ih =>
      rw [List.filterMap_cons]
      by_cases hk : key = k
      · subst hk
        cases hvariable : environment.lookup key.variable with
        | none =>
          rw [hvariable] at ih
          simpa using ih
        | some t => simp
      · have hname : key.name ≠ k.name := fun h => hk (Key.name_inj h)
        cases environment.lookup k.variable with
        | none => simpa [hk] using ih
        | some t => simpa [List.lookup_cons, beq_eq_false_iff_ne.mpr hname, hk] using ih
  rw [environmentValues, hlookup, if_pos (Key.mem_all key)]

/-! ## Values that count -/

/-- The value that counts for a setting: that of the environment, and without one that of the source. -/
def effective? (source : List (Text × Value)) (environment : List (Text × Text)) (key : Key) : Option Value :=
  ((environment.lookup key.variable).map .string).or (source.lookup key.name)

/-- The settings in the order in which they are set: those of the source in its order, and behind them those that only
the environment gives. -/
def settingOrder (source : List (Text × Value)) (environment : List (Text × Text)) : List Key :=
  source.filterMap (Key.ofName? ·.1) ++
    Key.all.filter fun key => isSet environment key && (source.lookup key.name).isNone

/-- What is wrong with the first value that counts and does not fit. -/
def firstMisfit? (source : List (Text × Value)) (environment : List (Text × Text)) : Option ValueError :=
  (settingOrder source environment).findSome? fun key => (effective? source environment key).bind key.misfit?

/-- A search only looks at the elements of its list. -/
theorem findSome?_congr {α β : Type} {f g : α → Option β} {l : List α} (h : ∀ a ∈ l, f a = g a) :
    l.findSome? f = l.findSome? g := by
  induction l with
  | nil => rfl
  | cons a rest ih =>
    rw [List.forall_mem_cons] at h
    rw [List.findSome?_cons, List.findSome?_cons, h.1, ih h.2]

section Source

variable (source : List (Text × Value)) (environment : List (Text × Text))

/-- The values of the source with those of the environment put over them. -/
def merged : List (Text × Value) := mergeNamed source (environmentValues environment)

theorem lookup_merged (key : Key) :
    (merged source environment).lookup key.name = effective? source environment key := by
  rw [merged, lookup_mergeNamed (nodup_environmentValues environment), lookup_environmentValues, effective?]

theorem keys_known_merged : (known (merged source environment)).map (·.1) = settingOrder source environment := by
  have hnames : ∀ keys : List Key, (keys.map Key.name).filterMap Key.ofName? = keys := by
    intro keys
    rw [List.filterMap_map]
    exact (List.filterMap_congr fun key _ => Key.ofName?_eq_some_iff.mpr rfl).trans List.filterMap_some
  rw [keys_known, merged, keys_mergeNamed (nodup_environmentValues environment), keys_environmentValues,
    List.filterMap_append, List.filterMap_map, List.filter_map, hnames, List.filter_filter, settingOrder]
  congr 1
  refine List.filter_congr fun key _ => ?_
  have hnew : decide (key.name ∉ source.map (·.1)) = (source.lookup key.name).isNone := by
    rw [Bool.eq_iff_iff, decide_eq_true_iff, Option.isNone_iff_eq_none, Json.lookup_eq_none_iff_not_mem]
  rw [Bool.and_comm, ← hnew]
  rfl

/-- With distinct names, the entries of a list are found under their names. -/
theorem findSome?_eq_keys {β : Type} {values : List (Key × Value)} (h : (values.map (·.1)).Nodup)
    (f : Key → Value → Option β) : (values.findSome? fun (key, value) => f key value) =
      (values.map (·.1)).findSome? fun key => (values.lookup key).bind (f key) := by
  induction values with
  | nil => rfl
  | cons entry rest ih =>
    obtain ⟨key, value⟩ := entry
    rw [List.map_cons, List.nodup_cons] at h
    have hrest : ((rest.map (·.1)).findSome? fun k => (((key, value) :: rest).lookup k).bind (f k)) =
        (rest.map (·.1)).findSome? fun k => (rest.lookup k).bind (f k) := by
      refine findSome?_congr fun k hk => ?_
      have hne : k ≠ key := fun hsame => h.1 (hsame ▸ hk)
      rw [List.lookup_cons, beq_eq_false_iff_ne.mpr hne]
    rw [List.findSome?_cons, List.map_cons, List.findSome?_cons, hrest, ih h.2]
    simp

/-- What comes of the entries of a source and the environment. -/
theorem result_apply_merge (h : (source.map (·.1)).Nodup) :
    (Settings.apply {} (merge (entriesOfNamed source) (ofEnvironment environment))).2 =
      match firstMisfit? source environment with
      | some e => .error e
      | none => .ok (ofValues (effective? source environment)) := by
  have hnodup : ((merged source environment).map (·.1)).Nodup :=
    nodup_mergeNamed h (nodup_environmentValues environment)
  have hdefault : ({} : Settings) = ofValues fun _ => none := rfl
  have hgiven : giveAll (fun _ => none) (known (merged source environment)) = effective? source environment := by
    funext key
    rw [giveAll, Option.or_none, lookup_known, lookup_merged]
  have hmisfit : ((known (merged source environment)).findSome? fun (key, value) => key.misfit? value) =
      firstMisfit? source environment := by
    rw [findSome?_eq_keys (nodup_keys_known hnodup), keys_known_merged, firstMisfit?]
    simp only [lookup_known, lookup_merged]
  rw [ofEnvironment_eq, merge_entriesOfNamed, ← merged, hdefault, result_apply _ hnodup, hmisfit, hgiven]

end Source

end StructForge.Settings
