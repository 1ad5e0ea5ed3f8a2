import LexTree.Settings.Loader
import Mathlib.Data.List.Basic

/-!
# What layers set

A layer is merged into the table of settings entry by entry, and an entry may be a text under a
dotted key, a table of fields, or something that has nothing to do with any setting. As long as it
puts no value of another kind where a setting belongs, all that matters of it is a list of texts,
each for one setting.

- `Key` are the settings, and `Value.at?` is what a table has for one.
- `layerTexts?` are the texts of a layer, in order. `isSome_layerTexts?`: tables of texts, and texts
  under dotted keys, are such a layer.
- `Value.at?_setAt` and `Value.at?_layer`: an entry, and a layer, replace what they have a text
  for, and leave what is there for the other settings.
- `ofValue_of_at?`: with a text for every setting, these texts decide about the settings.
-/

namespace LexTree.Settings

/-! ## Settings by name -/

/-- Something that can be set. -/
inductive Key where
  | level
  | file
  | logFormat
  | tokens
  | tree
deriving DecidableEq, Repr

namespace Key

def all : List Key := [level, file, logFormat, tokens, tree]

/-- The table in which the setting is. -/
def sectionName : Key → String
  | level | file | logFormat => "logging"
  | tokens | tree => "output"

/-- The name under which it is there. -/
def field : Key → String
  | level => "level"
  | file => "file"
  | logFormat => "format"
  | tokens => "tokens"
  | tree => "tree"

/-- The text that holds where nothing is set. -/
def default : Key → String
  | level => "warn"
  | file => "-"
  | logFormat => "compact"
  | tokens => "plain"
  | tree => "dump"

/-- The key as it is written. -/
def name (k : Key) : String := k.sectionName ++ "." ++ k.field

def path (k : Key) : KeyPath := ⟨[.name k.sectionName], .name k.field⟩

/-- The setting with the place `field` in the table `tableName`. -/
def find? (tableName field : String) : Option Key :=
  all.find? fun k => k.sectionName = tableName ∧ k.field = field

/-- Whether the table `name` has settings in it. -/
def isSection (name : String) : Bool := all.any (·.sectionName = name)

theorem mem_all (k : Key) : k ∈ all := by cases k <;> decide

theorem parse?_name (k : Key) : KeyPath.parse? k.name = some k.path := by
  cases k <;> decide +kernel

theorem place_eq_of_find? {k : Key} {tableName field : String}
    (h : find? tableName field = some k) : k.sectionName = tableName ∧ k.field = field := by
  simpa using List.find?_some h

/-- A setting is the only one at its place. -/
theorem find?_place (k : Key) : find? k.sectionName k.field = some k := by
  cases k <;> decide +kernel

theorem isSection_sectionName (k : Key) : isSection k.sectionName = true :=
  List.any_eq_true.mpr ⟨k, k.mem_all, decide_eq_true rfl⟩

end Key

/-! ## Texts for settings -/

theorem lookup_cons_eq_ite {α β : Type} [DecidableEq α] (key first : α) (x : β)
    (rest : List (α × β)) :
    ((first, x) :: rest).lookup key = if key = first then some x else rest.lookup key := by
  rw [List.lookup_cons]
  by_cases h : key = first
  · rw [if_pos h, beq_iff_eq.mpr h]
  · rw [if_neg h, beq_eq_false_iff_ne.mpr h]

/-- The last text for `k` among some. -/
def latest (k : Key) (texts : List (Key × String)) : Option String := texts.reverse.lookup k

@[simp] theorem latest_nil (k : Key) : latest k [] = none := rfl

theorem latest_append (k : Key) (texts more : List (Key × String)) :
    latest k (texts ++ more) = (latest k more).or (latest k texts) := by
  rw [latest, List.reverse_append, List.lookup_append, latest, latest]

theorem latest_singleton (k k' : Key) (s : String) :
    latest k [(k', s)] = if k = k' then some s else none :=
  lookup_cons_eq_ite k k' s []

/-- What `texts?` gives for a list of things, unless one of them spoils a setting. -/
def gather? {α : Type} (texts? : α → Option (List (Key × String))) :
    List α → Option (List (Key × String))
  | [] => some []
  | x :: xs => do
    let texts ← texts? x
    let more ← gather? texts? xs
    return texts ++ more

theorem gather?_cons_eq_some {α : Type} {texts? : α → Option (List (Key × String))} {x : α}
    {xs : List α} {texts : List (Key × String)} (h : gather? texts? (x :: xs) = some texts) :
    ∃ first more, texts? x = some first ∧ gather? texts? xs = some more ∧
      texts = first ++ more := by
  obtain ⟨first, hfirst, h⟩ := Option.bind_eq_some_iff.mp h
  obtain ⟨more, hmore, h⟩ := Option.bind_eq_some_iff.mp h
  exact ⟨first, more, hfirst, hmore, (Option.some.inj h).symm⟩

theorem latest_gather?_eq_none {α : Type} {texts? : α → Option (List (Key × String))} {k : Key}
    (hnone : ∀ x texts, texts? x = some texts → latest k texts = none) {xs : List α}
    {texts : List (Key × String)} (h : gather? texts? xs = some texts) : latest k texts = none := by
  induction xs generalizing texts with
  | nil =>
    cases h
    rfl
  | cons x xs ih =>
    obtain ⟨first, more, hfirst, hmore, rfl⟩ := gather?_cons_eq_some h
    rw [latest_append, ih hmore, hnone x first hfirst]
    rfl

/-- What `v` sets as a `field` of a table, unless it spoils a setting. -/
def fieldTexts? (tableName field : String) (v : Value) : Option (List (Key × String)) :=
  match Key.find? tableName field with
  | none => some []
  | some k =>
    match v with
    | .text s => some [(k, s)]
    | _ => none

/-- A field of one table sets nothing in another. -/
theorem latest_fieldTexts?_eq_none {tableName field : String} {v : Value}
    {texts : List (Key × String)} (h : fieldTexts? tableName field v = some texts) {k : Key}
    (hk : k.sectionName ≠ tableName) : latest k texts = none := by
  rw [fieldTexts?] at h
  cases hfind : Key.find? tableName field with
  | none =>
    rw [hfind] at h
    cases h
    rfl
  | some k' =>
    rw [hfind] at h
    cases v with
    | text s =>
      cases h
      rw [latest_singleton, if_neg]
      rintro rfl
      exact hk (Key.place_eq_of_find? hfind).1
    | _ => cases h

/-- What `v` sets in place of a table, or merged into one. -/
def tableTexts? (tableName : String) (v : Value) : Option (List (Key × String)) :=
  if Key.isSection tableName then
    match v with
    | .table _ entries => gather? (fun x => fieldTexts? tableName (foldKey x.1) x.2) entries
    | _ => none
  else some []

/-- What a value sets at the end of a path. -/
def pathTexts? : KeyPath → Value → Option (List (Key × String))
  | ⟨[], .name tableName⟩, v => tableTexts? (foldKey tableName) v
  | ⟨[.name tableName], .name field⟩, v => fieldTexts? (foldKey tableName) (foldKey field) v
  | ⟨.name tableName :: _, _⟩, _ => if Key.isSection (foldKey tableName) then none else some []
  | _, _ => none

theorem Key.foldKey_place (k : Key) :
    foldKey k.sectionName = k.sectionName ∧ foldKey k.field = k.field := by
  cases k <;> decide +kernel

/-- A text at the path of `k` is a text for `k`. -/
theorem pathTexts?_path (k : Key) (s : String) : pathTexts? k.path (.text s) = some [(k, s)] := by
  change fieldTexts? (foldKey k.sectionName) (foldKey k.field) (.text s) = some [(k, s)]
  rw [fieldTexts?, k.foldKey_place.1, k.foldKey_place.2, k.find?_place]

/-- What a layer sets, in order, unless it spoils a setting with a value of another kind. -/
def layerTexts? (entries : List (String × Value)) : Option (List (Key × String)) :=
  gather? (fun x => pathTexts? ((KeyPath.parse? x.1).getD (.ofName x.1)) x.2) entries

theorem isSome_gather? {α : Type} {texts? : α → Option (List (Key × String))} {xs : List α}
    (h : ∀ x ∈ xs, (texts? x).isSome = true) : (gather? texts? xs).isSome = true := by
  induction xs with
  | nil => rfl
  | cons x xs ih =>
    obtain ⟨hx, hxs⟩ := List.forall_mem_cons.mp h
    obtain ⟨first, hfirst⟩ := Option.isSome_iff_exists.mp hx
    obtain ⟨more, hmore⟩ := Option.isSome_iff_exists.mp (ih hxs)
    rw [gather?, hfirst, hmore]
    rfl

theorem isSome_fieldTexts?_text (tableName field s : String) :
    (fieldTexts? tableName field (.text s)).isSome = true := by
  rw [fieldTexts?]
  cases Key.find? tableName field <;> rfl

theorem parse?_sectionName (k : Key) :
    KeyPath.parse? k.sectionName = some (.ofName k.sectionName) := by
  cases k <;> decide +kernel

/-- An entry that sets texts: one under the name of a setting, or a table of them. -/
def SetsTexts : String × Value → Prop
  | (name, .text _) => ∃ k ∈ Key.all, name = k.name
  | (name, .table _ fields) =>
    (∃ k ∈ Key.all, name = k.sectionName) ∧ ∀ y ∈ fields, (y.2 matches .text _)
  | _ => False

instance : DecidablePred SetsTexts
  | (name, .text _) => inferInstanceAs (Decidable (∃ k ∈ Key.all, name = k.name))
  | (_, .table _ _) => inferInstanceAs (Decidable (_ ∧ _))
  | (_, .nothing) | (_, .boolean _) | (_, .integer _) | (_, .float _) | (_, .list _ _) =>
    isFalse id

/-- Layers of entries with `SetsTexts` spoil no setting. -/
theorem isSome_layerTexts? {entries : List (String × Value)} (h : ∀ x ∈ entries, SetsTexts x) :
    (layerTexts? entries).isSome = true := by
  refine isSome_gather? fun x hx => ?_
  specialize h x hx
  rw [SetsTexts.eq_def] at h
  split at h
  · next name s =>
    obtain ⟨k, -, rfl⟩ := h
    dsimp only
    rw [k.parse?_name, Option.getD_some, pathTexts?_path]
    rfl
  · next name origin fields =>
    obtain ⟨⟨k, -, rfl⟩, hfields⟩ := h
    dsimp only
    rw [parse?_sectionName, Option.getD_some]
    change (tableTexts? (foldKey k.sectionName) (.table origin fields)).isSome = true
    unfold tableTexts?
    rw [k.foldKey_place.1, if_pos k.isSection_sectionName]
    refine isSome_gather? fun y hy => ?_
    have hy := hfields y hy
    split at hy
    · next s hs =>
      rw [hs]
      exact isSome_fieldTexts?_text _ _ s
    · cases hy
  · cases h

/-! ## Tables -/

namespace Value

variable {v : Value} {key : String}

theorem lookup_replaceEntry (key : String) (new : Value) (entries : List (String × Value))
    (other : String) :
    (replaceEntry key new entries).lookup other =
      if other = key then some new else entries.lookup other := by
  induction entries with
  | nil => exact lookup_cons_eq_ite other key new []
  | cons entry entries ih =>
    obtain ⟨k, old⟩ := entry
    rw [replaceEntry, lookup_cons_eq_ite]
    by_cases hk : k = key
    · rw [if_pos hk, lookup_cons_eq_ite, hk]
      by_cases h : other = key
      · rw [if_pos h, if_pos h]
      · rw [if_neg h, if_neg h, if_neg h]
    · rw [if_neg hk, lookup_cons_eq_ite, ih]
      by_cases h : other = k
      · rw [if_pos h, if_pos h, if_neg (h ▸ hk)]
      · rw [if_neg h, if_neg h]

theorem find?_set (v : Value) (key : String) (new : Value) (other : String) :
    (v.set key new).find? other = if other = key then some new else v.find? other :=
  lookup_replaceEntry key new v.entries other

theorem exists_assign_eq_set (v : Value) (key : String) (new : Value) :
    ∃ new', v.assign key new = v.set (foldKey key) new' := by
  cases new <;> simp only [assign] <;> exact ⟨_, rfl⟩

/-- `assign` under `key` leaves the other keys. -/
theorem find?_assign_of_ne {key other : String} (h : other ≠ foldKey key) (v new : Value) :
    (v.assign key new).find? other = v.find? other := by
  obtain ⟨new', hnew⟩ := exists_assign_eq_set v key new
  rw [hnew, find?_set, if_neg h]

/-- What the table `root` has for `k`. -/
def at? (root : Value) (k : Key) : Option Value :=
  (root.find? k.sectionName).bind (·.find? k.field)

theorem at?_set (root : Value) (tableName : String) (new : Value) (k : Key) :
    (root.set tableName new).at? k =
      if k.sectionName = tableName then new.find? k.field else root.at? k := by
  rw [at?, find?_set]
  by_cases h : k.sectionName = tableName
  · rw [if_pos h, if_pos h, Option.bind_some]
  · rw [if_neg h, if_neg h, at?]

theorem assign_text (v : Value) (key s : String) :
    v.assign key (.text s) = v.set (foldKey key) (.text s) := by
  simp only [assign]

theorem assign_table (v : Value) (key : String) (origin : Option String)
    (entries : List (String × Value)) :
    v.assign key (.table origin entries) =
      v.set (foldKey key) (((v.find? (foldKey key)).getD (.table none [])).assignAll entries) := by
  simp only [assign]

/-- A field that sets a text by `fieldTexts?` sets it for no other setting, and any other field sets
none. -/
theorem find?_assign {tableName field : String} {new : Value} {texts : List (Key × String)}
    (h : fieldTexts? tableName (foldKey field) new = some texts) {k : Key}
    (hk : k.sectionName = tableName) (v : Value) :
    (v.assign field new).find? k.field = ((latest k texts).map .text).or (v.find? k.field) := by
  have hplace : k.field = foldKey field → Key.find? tableName (foldKey field) = some k :=
    fun hfield => by rw [← hk, ← hfield, k.find?_place]
  rw [fieldTexts?] at h
  cases hfind : Key.find? tableName (foldKey field) with
  | none =>
    rw [hfind] at h hplace
    cases h
    exact find?_assign_of_ne (fun hfield => nomatch hplace hfield) v new
  | some k' =>
    rw [hfind] at h hplace
    cases new with
    | text s =>
      cases h
      rw [latest_singleton, assign_text, find?_set, ← (Key.place_eq_of_find? hfind).2]
      by_cases heq : k = k'
      · rw [if_pos heq, if_pos (congrArg Key.field heq)]
        rfl
      · rw [if_neg heq, if_neg fun hfield =>
          heq (Option.some.inj (hplace (hfield.trans (Key.place_eq_of_find? hfind).2))).symm]
        rfl
    | _ => cases h

/-- `assignAll` sets the texts of the fields one after the other. -/
theorem find?_assignAll {tableName : String} {entries : List (String × Value)}
    {texts : List (Key × String)}
    (h : gather? (fun x => fieldTexts? tableName (foldKey x.1) x.2) entries = some texts) {k : Key}
    (hk : k.sectionName = tableName) (v : Value) :
    (v.assignAll entries).find? k.field =
      ((latest k texts).map .text).or (v.find? k.field) := by
  induction entries generalizing v texts with
  | nil =>
    cases h
    rfl
  | cons entry entries ih =>
    obtain ⟨key, new⟩ := entry
    obtain ⟨first, more, hfirst, hmore, rfl⟩ := gather?_cons_eq_some h
    rw [assignAll, ih hmore, find?_assign hfirst hk, latest_append, Option.map_or, Option.or_assoc]

/-- What `at?` finds in a table is there also if the table is `missing` otherwise. -/
theorem find?_getD {root missing : Value} (hmissing : missing.entries = []) (k : Key) :
    ((root.find? k.sectionName).getD missing).find? k.field = root.at? k := by
  rw [at?]
  cases root.find? k.sectionName with
  | none => rw [Option.getD_none, find?, hmissing]; rfl
  | some v => rfl

/-- A table in which the texts for its settings are set is a table of which nothing else changes for
any setting. -/
theorem at?_set_of_texts {tableName : String} {new : Value} {texts : List (Key × String)}
    {root : Value} {k : Key}
    (hin : k.sectionName = tableName →
      new.find? k.field = ((latest k texts).map .text).or (root.at? k))
    (hout : k.sectionName ≠ tableName → latest k texts = none) :
    (root.set tableName new).at? k = ((latest k texts).map .text).or (root.at? k) := by
  rw [at?_set]
  by_cases hk : k.sectionName = tableName
  · rw [if_pos hk, hin hk]
  · rw [if_neg hk, hout hk]
    rfl

/-- A table without settings may be anything. -/
theorem at?_set_of_not_isSection {tableName : String} (h : ¬ Key.isSection tableName = true)
    (root new : Value) (k : Key) : (root.set tableName new).at? k = root.at? k := by
  have hk : k.sectionName ≠ tableName := fun hk => h (hk ▸ k.isSection_sectionName)
  rw [at?_set, if_neg hk]

/-- `assign` in place of a table sets the texts of `tableTexts?`. -/
theorem at?_assign {tableName : String} {new : Value} {texts : List (Key × String)}
    (h : tableTexts? (foldKey tableName) new = some texts) (root : Value) (k : Key) :
    (root.assign tableName new).at? k = ((latest k texts).map .text).or (root.at? k) := by
  unfold tableTexts? at h
  by_cases hsection : Key.isSection (foldKey tableName) = true
  · rw [if_pos hsection] at h
    cases new with
    | table origin entries =>
      rw [assign_table]
      refine at?_set_of_texts (fun hk => ?_) fun hk =>
        latest_gather?_eq_none (fun x _ hx => latest_fieldTexts?_eq_none hx hk) h
      rw [find?_assignAll h hk, ← hk, find?_getD rfl]
    | _ => cases h
  · rw [if_neg hsection] at h
    cases h
    obtain ⟨new', hnew⟩ := exists_assign_eq_set root tableName new
    rw [hnew, at?_set_of_not_isSection hsection]
    rfl

/-- A field that is assigned in a table sets the texts of `fieldTexts?`. -/
theorem at?_set_assign {tableName field : String} {new : Value} {texts : List (Key × String)}
    (h : fieldTexts? (foldKey tableName) (foldKey field) new = some texts) (root : Value)
    (k : Key) :
    (root.set (foldKey tableName)
        (((root.find? (foldKey tableName)).getD nothing).assign field new)).at? k =
      ((latest k texts).map .text).or (root.at? k) := by
  refine at?_set_of_texts (fun hk => ?_) (latest_fieldTexts?_eq_none h)
  rw [find?_assign h hk, ← hk, find?_getD rfl]

/-- `setAt` replaces the texts of `pathTexts?`, and nothing else of what `at?` finds for any
setting. -/
theorem at?_setAt {p : KeyPath} {new : Value} {texts : List (Key × String)}
    (h : pathTexts? p new = some texts) (root : Value) (k : Key) :
    (root.setAt p new).at? k = ((latest k texts).map .text).or (root.at? k) := by
  -- What is changed inside a table without settings sets nothing.
  have hinside : ∀ (tableName : String) (v : Value),
      (if Key.isSection (foldKey tableName) then none else some []) = some texts →
      (root.set (foldKey tableName) v).at? k = ((latest k texts).map .text).or (root.at? k) := by
    intro tableName v hv
    split at hv
    · cases hv
    · next hsection =>
      cases hv
      exact at?_set_of_not_isSection hsection root v k
  match p, h with
  | ⟨[], .name tableName⟩, h => exact at?_assign h root k
  | ⟨[.name tableName], .name field⟩, h => exact at?_set_assign h root k
  | ⟨[.name tableName], .item place⟩, h => exact hinside tableName _ h
  | ⟨.name tableName :: _ :: _, last⟩, h => exact hinside tableName _ h

/-- `Loader.layer` sets the texts of `layerTexts?`, and nothing else of what `at?` finds. -/
theorem at?_layer {entries : List (String × Value)} {texts : List (Key × String)}
    (h : layerTexts? entries = some texts) (root : Value) (k : Key) :
    (Loader.layer root entries).at? k = ((latest k texts).map .text).or (root.at? k) := by
  induction entries generalizing root texts with
  | nil =>
    cases h
    rfl
  | cons entry entries ih =>
    obtain ⟨first, more, hfirst, hmore, rfl⟩ := gather?_cons_eq_some h
    have hlayer : Loader.layer root (entry :: entries) =
        Loader.layer (root.setKey entry.1 entry.2) entries := rfl
    rw [hlayer, ih hmore, setKey, at?_setAt hfirst, latest_append, Option.map_or, Option.or_assoc]

/-- A table in which there is something for `k` has a table for its section. -/
theorem exists_table {root v : Value} {k : Key} (h : root.at? k = some v) :
    ∃ origin entries, root.find? k.sectionName = some (.table origin entries) := by
  obtain ⟨inner, hinner, hfield⟩ := Option.bind_eq_some_iff.mp h
  cases inner with
  | table origin entries => exact ⟨origin, entries, hinner⟩
  | _ => cases hfield

theorem lookup_of_at? {root v : Value} {k : Key} (h : root.at? k = some v)
    {origin : Option String} {entries : List (String × Value)}
    (htable : root.find? k.sectionName = some (.table origin entries)) :
    entries.lookup k.field = some v := by
  rw [at?, htable] at h
  exact h

end Value

/-! ## Settings from texts -/

theorem at?_defaults (k : Key) : defaults.at? k = some (.text k.default) := by
  cases k <;> rfl

/-- The settings with `texts`, of which three have to name a format. -/
def ofTexts (texts : Key → String) : Except SettingsError Settings := do
  let logFormat ← chooseByName "LogFormat" logFormats (texts .logFormat)
  let tokens ← chooseByName "TokenFormat" tokenFormats (texts .tokens)
  let tree ← chooseByName "TreeFormat" treeFormats (texts .tree)
  return ⟨⟨texts .level, texts .file, logFormat⟩, ⟨tokens, tree⟩⟩

theorem read?_of_lookup {α : Type} {field : String} {entries : List (String × Value)} {v : Value}
    (h : entries.lookup field = some v) (key name : String) (fieldCount place : Nat)
    (decode : String → Value → Except SettingsError α) :
    (Section.mk key name fieldCount (.inl entries)).read? field place decode =
      (decode (key ++ "." ++ field) v).map some := by
  simp only [Section.read?, h]

section

variable {root : Value} {texts : Key → String} (h : ∀ k, root.at? k = some (.text (texts k)))

include h

theorem readLogging_of_at? :
    readLogging root = (chooseByName "LogFormat" logFormats (texts .logFormat)).map
      (⟨texts .level, texts .file, ·⟩) := by
  obtain ⟨origin, entries, hentries⟩ := Value.exists_table (h .level)
  have hlevel : entries.lookup "level" = _ := Value.lookup_of_at? (h .level) hentries
  have hfile : entries.lookup "file" = _ := Value.lookup_of_at? (h .file) hentries
  have hformat : entries.lookup "format" = _ := Value.lookup_of_at? (h .logFormat) hentries
  have hsection : Section.find root "logging" "LoggingConfig" 3 =
      .ok ⟨"logging", "LoggingConfig", 3, .inl entries⟩ := by
    have hentries : root.find? "logging" = _ := hentries
    rw [Section.find, hentries]
  simp only [readLogging, hsection, bind, Except.bind, read?_of_lookup hlevel,
    read?_of_lookup hfile, read?_of_lookup hformat, Value.toText, Value.toChoice, Except.map]
  cases chooseByName "LogFormat" logFormats (texts .logFormat) <;> rfl

theorem readOutput_of_at? :
    readOutput root = do
      let tokens ← chooseByName "TokenFormat" tokenFormats (texts .tokens)
      let tree ← chooseByName "TreeFormat" treeFormats (texts .tree)
      return ⟨tokens, tree⟩ := by
  obtain ⟨origin, entries, hentries⟩ := Value.exists_table (h .tokens)
  have htokens : entries.lookup "tokens" = _ := Value.lookup_of_at? (h .tokens) hentries
  have htree : entries.lookup "tree" = _ := Value.lookup_of_at? (h .tree) hentries
  have hsection : Section.find root "output" "OutputConfig" 2 =
      .ok ⟨"output", "OutputConfig", 2, .inl entries⟩ := by
    have hentries : root.find? "output" = _ := hentries
    rw [Section.find, hentries]
  simp only [readOutput, hsection, bind, Except.bind, read?_of_lookup htokens,
    read?_of_lookup htree, Value.toChoice, Except.map]
  cases chooseByName "TokenFormat" tokenFormats (texts .tokens) <;>
    cases chooseByName "TreeFormat" treeFormats (texts .tree) <;> rfl

/-- If `root` has a text for every setting, these decide about the settings. -/
theorem ofValue_of_at? : ofValue root = ofTexts texts := by
  rw [ofValue, readLogging_of_at? h, readOutput_of_at? h, ofTexts]
  cases chooseByName "LogFormat" logFormats (texts .logFormat) with
  | error e => rfl
  | ok logFormat =>
    cases chooseByName "TokenFormat" tokenFormats (texts .tokens) with
    | error e => rfl
    | ok tokens => cases chooseByName "TreeFormat" treeFormats (texts .tree) <;> rfl

end

/-- The settings of `ofTexts` have two texts as they are, and the formats that the other three
name. -/
theorem ofTexts_eq_ok {texts : Key → String} {s : Settings} (h : ofTexts texts = .ok s) :
    s.logging.level = texts .level ∧ s.logging.file = texts .file ∧
      logFormats.lookup (foldKey (texts .logFormat)) = some s.logging.format ∧
      tokenFormats.lookup (foldKey (texts .tokens)) = some s.output.tokens ∧
      treeFormats.lookup (foldKey (texts .tree)) = some s.output.tree := by
  simp only [ofTexts, chooseByName] at h
  cases hlog : logFormats.lookup (foldKey (texts .logFormat)) with
  | none => rw [hlog] at h; cases h
  | some logFormat =>
    cases htokens : tokenFormats.lookup (foldKey (texts .tokens)) with
    | none => rw [hlog, htokens] at h; cases h
    | some tokens =>
      cases htree : treeFormats.lookup (foldKey (texts .tree)) with
      | none => rw [hlog, htokens, htree] at h; cases h
      | some tree =>
        rw [hlog, htokens, htree] at h
        cases h
        exact ⟨rfl, rfl, rfl, rfl, rfl⟩

/-- `ofTexts` fails if and only if one of three texts names no format. -/
theorem ofTexts_eq_error_iff {texts : Key → String} :
    (∃ e, ofTexts texts = .error e) ↔
      logFormats.lookup (foldKey (texts .logFormat)) = none ∨
        tokenFormats.lookup (foldKey (texts .tokens)) = none ∨
        treeFormats.lookup (foldKey (texts .tree)) = none := by
  simp only [ofTexts, chooseByName]
  cases logFormats.lookup (foldKey (texts .logFormat)) with
  | none => exact iff_of_true ⟨_, rfl⟩ (.inl rfl)
  | some logFormat =>
    cases tokenFormats.lookup (foldKey (texts .tokens)) with
    | none => exact iff_of_true ⟨_, rfl⟩ (.inr (.inl rfl))
    | some tokens =>
      cases treeFormats.lookup (foldKey (texts .tree)) with
      | none => exact iff_of_true ⟨_, rfl⟩ (.inr (.inr rfl))
      | some tree => exact iff_of_false nofun (by simp)

end LexTree.Settings
