import LexTree.Command.Run
import LexTree.Proofs.Files.Directory
import LexTree.Proofs.Settings.Layers

/-!
# Which text wins

A loader takes calls in any order: sources are added to a stack, and overrides are kept apart. Its
calls may be read as a rule for each setting instead.

- `Loader.Call` are the calls, and `loaded` is what comes of some of them.
- `resolved` is the rule: the last override, or else the last source that sets it, or else the
  default.
- `loaded_eq`: the first source that cannot be loaded, or else the settings with these texts.
- `loaded_congr`: the places of overrides among other calls do not matter, nor do optional files
  that are missing.
- `Program.loadSettings_eq`: the calls that the program makes.
- `Program.findConfig_eq` and `Program.loadSettings_of_config`: the file that a run asks for is
  one of the directory, with its text.
-/

namespace LexTree.Settings

/-! ## Sources -/

/-- The text of a file, unless it is missing or cannot be read. -/
def SourceFile.text? (f : SourceFile) : Option String :=
  match f.content? with
  | some (.ok text) => some text
  | _ => none

namespace Source

/-- What is wrong with a source. -/
def error? (s : Source) : Option SettingsError :=
  match s.load with
  | .ok _ => none
  | .error e => some e

/-- What a source sets, if it can be loaded. -/
def texts (s : Source) : List (Key × String) :=
  match s.load with
  | .ok entries => (layerTexts? entries).getD []
  | .error _ => []

/-- A source that, if it can be loaded, puts nothing but texts where settings belong. -/
def Plain (s : Source) : Prop :=
  ∀ entries, s.load = .ok entries → (layerTexts? entries).isSome = true

/-- A source is `Plain` if all its entries have `SetsTexts`. -/
theorem plain_of_setsTexts {s : Source} (h : ∀ x ∈ s.load.toOption.getD [], SetsTexts x) :
    s.Plain := fun entries hload => by
  rw [hload] at h
  exact isSome_layerTexts? h

/-- Whether a source is there: all are but for optional files without a text. -/
def present : Source → Bool
  | .file f false => f.text?.isSome
  | _ => true

theorem load_file_of_text {f : SourceFile} {text : String} (h : f.text? = some text)
    (required : Bool) : (file f required).load = ofDocument f.origin text := by
  rw [SourceFile.text?] at h
  split at h
  · next content hcontent =>
    cases h
    rw [load, hcontent]
  · cases h

/-- A file without a `text?` is as good as an empty one if it need not be there. -/
theorem load_file_of_no_text {f : SourceFile} (h : f.text? = none) :
    (∃ e, (file f true).load = .error e) ∧ (file f false).load = .ok [] := by
  rw [SourceFile.text?] at h
  split at h
  · cases h
  · next hno =>
    rw [load, load]
    rcases hcontent : f.content? with _ | e | text
    · exact ⟨⟨_, rfl⟩, rfl⟩
    · exact ⟨⟨_, rfl⟩, rfl⟩
    · exact absurd hcontent (hno text)

theorem load_of_not_present {s : Source} (h : ¬ s.present = true) : s.load = .ok [] := by
  match s with
  | .environment values => exact absurd rfl h
  | .file f true => exact absurd rfl h
  | .file f false =>
    rw [present, Option.not_isSome_iff_eq_none] at h
    exact (load_file_of_no_text h).2

/-- A file has an `error?` if it has to be there and has no text, or if its text is no document. -/
theorem isSome_error?_file (f : SourceFile) (required : Bool) :
    (file f required).error?.isSome = true ↔
      (f.text? = none ∧ required = true) ∨
        ∃ text, f.text? = some text ∧ Toml.parse text = none := by
  rw [error?]
  cases htext : f.text? with
  | none =>
    obtain ⟨⟨e, he⟩, hoptional⟩ := load_file_of_no_text htext
    cases required with
    | true => simp [he]
    | false => simp [hoptional]
  | some text =>
    rw [load_file_of_text htext, ofDocument]
    cases hparse : Toml.parse text <;> simp [hparse]

end Source

/-- The table `root` with what `sources` set, one after the other. -/
def stacked (sources : List Source) (root : Value) : Except SettingsError Value :=
  sources.foldlM (fun root s => return Loader.layer root (← s.load)) root

/-- The first source with an `error?` is why there is no table. -/
theorem stacked_eq_error {sources : List Source} {e : SettingsError}
    (h : sources.findSome? Source.error? = some e) (root : Value) :
    stacked sources root = .error e := by
  induction sources generalizing root with
  | nil => cases h
  | cons s sources ih =>
    rw [List.findSome?_cons, Source.error?] at h
    rw [stacked, List.foldlM_cons]
    cases hload : s.load with
    | error e' =>
      rw [hload] at h
      cases h
      rfl
    | ok entries =>
      rw [hload] at h
      exact ih h (Loader.layer root entries)

/-- `Plain` sources without an `error?` put their `texts` in the table, one after the other. -/
theorem exists_stacked {sources : List Source} (hplain : ∀ s ∈ sources, s.Plain)
    (h : sources.findSome? Source.error? = none) (root : Value) :
    ∃ root', stacked sources root = .ok root' ∧
      ∀ k, root'.at? k =
        ((latest k (sources.flatMap Source.texts)).map .text).or (root.at? k) := by
  induction sources generalizing root with
  | nil => exact ⟨root, rfl, fun k => rfl⟩
  | cons s sources ih =>
    obtain ⟨hs, hplain⟩ := List.forall_mem_cons.mp hplain
    rw [List.findSome?_cons, Source.error?] at h
    cases hload : s.load with
    | error e =>
      rw [hload] at h
      cases h
    | ok entries =>
      rw [hload] at h
      obtain ⟨texts, htexts⟩ := Option.isSome_iff_exists.mp (hs entries hload)
      have hown : s.texts = texts := by
        rw [Source.texts, hload]
        simp only [htexts, Option.getD_some]
      obtain ⟨root', hroot, hat⟩ := ih hplain h (Loader.layer root entries)
      refine ⟨root', ?_, fun k => ?_⟩
      · rw [stacked, List.foldlM_cons, hload]
        exact hroot
      · rw [hat, Value.at?_layer htexts, List.flatMap_cons, hown, latest_append, Option.map_or,
          Option.or_assoc]

/-- Overrides put their texts in the table, one after the other. -/
theorem at?_overrides (overrides : List (Key × String)) (root : Value) (k : Key) :
    ((overrides.map fun x => (x.1.path, Value.text x.2)).foldl
        (fun root (p, value) => root.setAt p value) root).at? k =
      ((latest k overrides).map .text).or (root.at? k) := by
  induction overrides generalizing root with
  | nil => rfl
  | cons x overrides ih =>
    rw [List.map_cons, List.foldl_cons, ih, Value.at?_setAt (pathTexts?_path x.1 x.2),
      ← List.singleton_append (l := overrides), latest_append, Option.map_or, Option.or_assoc]

/-! ## Calls -/

/-- A call on a loader. Overrides are of settings, by texts. -/
inductive Loader.Call where
  | file (f : SourceFile)
  | optionalFile (f : SourceFile)
  | environment (values : List (String × String))
  | override (k : Key) (s : String)

namespace Loader

def perform (l : Loader) : Call → Except SettingsError Loader
  | .file f => .ok (l.addFile f)
  | .optionalFile f => .ok (l.addOptionalFile f)
  | .environment values => .ok (l.addEnvironment values)
  | .override k s => l.override k.name (.text s)

/-- The source that a call adds. -/
def Call.source? : Call → Option Source
  | .file f => some (.file f true)
  | .optionalFile f => some (.file f false)
  | .environment values => some (.environment values)
  | .override .. => none

/-- The text that a call sets over all sources. -/
def Call.override? : Call → Option (Key × String)
  | .override k s => some (k, s)
  | _ => none

theorem perform_of_source? {call : Call} {s : Source} (h : call.source? = some s) (l : Loader) :
    l.perform call = .ok (l.addSource s) := by
  cases call <;> cases h <;> rfl

theorem perform_override (l : Loader) (k : Key) (s : String) :
    l.perform (.override k s) = .ok ⟨l.sources, l.overrides ++ [(k.path, .text s)]⟩ := by
  rw [perform, override, k.parse?_name]

/-- `calls` have added the sources and overrides among them, in order. -/
theorem foldlM_perform (calls : List Call) (l : Loader) :
    calls.foldlM perform l = .ok ⟨l.sources ++ calls.filterMap Call.source?,
      l.overrides ++ (calls.filterMap Call.override?).map fun x => (x.1.path, .text x.2)⟩ := by
  induction calls generalizing l with
  | nil => simp [pure, Except.pure]
  | cons call calls ih =>
    rw [List.foldlM_cons]
    cases call with
    | override k s =>
      rw [perform_override]
      exact (ih _).trans (by simp [Call.source?, Call.override?, List.filterMap_cons])
    | _ =>
      rw [perform_of_source? rfl]
      exact (ih _).trans (by simp [Call.source?, Call.override?, List.filterMap_cons, addSource])

end Loader

/-- What comes of `calls` on a new loader, and of `Loader.build` at the end. -/
def loaded (calls : List Loader.Call) : Except SettingsError Settings := do
  (← calls.foldlM Loader.perform .new).build

/-- The text that wins for `k`: that of the last override of it, or else of the last source that
sets it, or else the default. -/
def resolved (calls : List Loader.Call) (k : Key) : String :=
  ((latest k (calls.filterMap Loader.Call.override?)).or
    ((calls.filterMap Loader.Call.source?).reverse.findSome? fun s => latest k s.texts)).getD
      k.default

theorem latest_flatMap_texts (k : Key) (sources : List Source) :
    latest k (sources.flatMap Source.texts) =
      sources.reverse.findSome? fun s => latest k s.texts := by
  induction sources with
  | nil => rfl
  | cons s sources ih =>
    rw [List.flatMap_cons, latest_append, ih, List.reverse_cons, List.findSome?_append,
      List.findSome?_singleton]

/-- `loaded` reads the settings from the table of the sources, with the overrides put in it. -/
theorem loaded_eq_stacked (calls : List Loader.Call) :
    loaded calls = (do
      let root ← stacked (calls.filterMap Loader.Call.source?) defaults
      ofValue (((calls.filterMap Loader.Call.override?).map fun x =>
        (x.1.path, Value.text x.2)).foldl (fun root (p, value) => root.setAt p value) root)) := by
  rw [loaded, Loader.foldlM_perform]
  change Loader.build _ = _
  rw [Loader.build, Loader.merged, stacked, bind_assoc]
  rfl

theorem loaded_eq_error {calls : List Loader.Call} {e : SettingsError}
    (h : (calls.filterMap Loader.Call.source?).findSome? Source.error? = some e) :
    loaded calls = .error e := by
  rw [loaded_eq_stacked, stacked_eq_error h]
  rfl

/-- What comes of `calls` is the first `error?` of a source, or else the settings with the texts
that are `resolved`. -/
theorem loaded_eq {calls : List Loader.Call}
    (hplain : ∀ s ∈ calls.filterMap Loader.Call.source?, s.Plain) :
    loaded calls =
      match (calls.filterMap Loader.Call.source?).findSome? Source.error? with
      | some e => .error e
      | none => ofTexts (resolved calls) := by
  cases herror : (calls.filterMap Loader.Call.source?).findSome? Source.error? with
  | some e => exact loaded_eq_error herror
  | none =>
    obtain ⟨root, hroot, hat⟩ := exists_stacked hplain herror defaults
    rw [loaded_eq_stacked, hroot]
    refine ofValue_of_at? fun k => ?_
    rw [at?_overrides, hat, at?_defaults, latest_flatMap_texts, resolved, ← Option.or_assoc,
      ← Option.map_or]
    cases (latest k _).or _ <;> rfl

/-- `calls` have a source with an `error?` if and only if a file has to be there and has no text, or
the text of one is no document. -/
theorem exists_error?_iff (calls : List Loader.Call) :
    ((calls.filterMap Loader.Call.source?).findSome? Source.error?).isSome = true ↔
      (∃ f, .file f ∈ calls ∧ f.text? = none) ∨
        ∃ f text, (.file f ∈ calls ∨ .optionalFile f ∈ calls) ∧ f.text? = some text ∧
          Toml.parse text = none := by
  rw [List.findSome?_isSome_iff]
  constructor
  · rintro ⟨s, hs, herror⟩
    obtain ⟨call, hcall, hsource⟩ := List.mem_filterMap.mp hs
    cases call with
    | file f =>
      cases hsource
      rcases (Source.isSome_error?_file f true).mp herror with ⟨htext, -⟩ | ⟨text, htext, hparse⟩
      · exact .inl ⟨f, hcall, htext⟩
      · exact .inr ⟨f, text, .inl hcall, htext, hparse⟩
    | optionalFile f =>
      cases hsource
      rcases (Source.isSome_error?_file f false).mp herror with ⟨-, hno⟩ | ⟨text, htext, hparse⟩
      · cases hno
      · exact .inr ⟨f, text, .inr hcall, htext, hparse⟩
    | environment values =>
      cases hsource
      cases herror
    | override k s => cases hsource
  · rintro (⟨f, hcall, htext⟩ | ⟨f, text, hcall | hcall, htext, hparse⟩)
    · exact ⟨.file f true, List.mem_filterMap.mpr ⟨_, hcall, rfl⟩,
        (Source.isSome_error?_file f true).mpr (.inl ⟨htext, rfl⟩)⟩
    · exact ⟨.file f true, List.mem_filterMap.mpr ⟨_, hcall, rfl⟩,
        (Source.isSome_error?_file f true).mpr (.inr ⟨text, htext, hparse⟩)⟩
    · exact ⟨.file f false, List.mem_filterMap.mpr ⟨_, hcall, rfl⟩,
        (Source.isSome_error?_file f false).mpr (.inr ⟨text, htext, hparse⟩)⟩

/-! ## Calls that come to the same -/

/-- The overrides of `k` among `calls`, in order. -/
def overridesOf (k : Key) (calls : List Loader.Call) : List (Key × String) :=
  (calls.filterMap Loader.Call.override?).filter (·.1 = k)

/-- The sources among `calls` that are `present`, in order. -/
def presentSources (calls : List Loader.Call) : List Source :=
  (calls.filterMap Loader.Call.source?).filter Source.present

theorem latest_filter (k : Key) (texts : List (Key × String)) :
    latest k (texts.filter (·.1 = k)) = latest k texts := by
  induction texts with
  | nil => rfl
  | cons x texts ih =>
    obtain ⟨k', s⟩ := x
    rw [← List.singleton_append, List.filter_append, latest_append, latest_append, ih]
    by_cases h : k' = k
    · simp [h]
    · simp [h, latest_singleton, Ne.symm h]

/-- `findSome?` finds nothing in what is not `kept` if `f` finds nothing there. -/
theorem findSome?_filter_of_none {α β : Type} {f : α → Option β} {kept : α → Bool}
    (h : ∀ x, ¬ kept x = true → f x = none) (xs : List α) :
    (xs.filter kept).findSome? f = xs.findSome? f := by
  induction xs with
  | nil => rfl
  | cons x xs ih =>
    by_cases hx : kept x = true
    · rw [List.filter_cons_of_pos hx, List.findSome?_cons, List.findSome?_cons, ih]
    · rw [List.filter_cons_of_neg hx, List.findSome?_cons, h x hx, ih]

theorem Source.plain_of_not_present {s : Source} (h : ¬ s.present = true) : s.Plain :=
  fun entries hload => by
    rw [load_of_not_present h] at hload
    cases hload
    rfl

theorem Source.texts_of_not_present {s : Source} (h : ¬ s.present = true) : s.texts = [] := by
  rw [texts, load_of_not_present h]
  rfl

theorem Source.error?_of_not_present {s : Source} (h : ¬ s.present = true) : s.error? = none := by
  rw [error?, load_of_not_present h]

/-- `resolved` depends on the sources that are `present` and on the overrides of each setting. -/
theorem resolved_eq (calls : List Loader.Call) (k : Key) :
    resolved calls k = ((latest k (overridesOf k calls)).or
      ((presentSources calls).reverse.findSome? fun s => latest k s.texts)).getD k.default := by
  have htexts : ∀ s : Source, ¬ s.present = true → latest k s.texts = none := fun s hs => by
    rw [s.texts_of_not_present hs]
    rfl
  rw [resolved, overridesOf, latest_filter, presentSources, ← List.filter_reverse,
    findSome?_filter_of_none htexts]

/-- Calls with the same `presentSources`, and with the same `overridesOf` each setting, come to the
same. -/
theorem loaded_congr {calls calls' : List Loader.Call}
    (hplain : ∀ s ∈ calls.filterMap Loader.Call.source?, s.Plain)
    (hsources : presentSources calls' = presentSources calls)
    (hoverrides : ∀ k, overridesOf k calls' = overridesOf k calls) :
    loaded calls' = loaded calls := by
  have hplain' : ∀ s ∈ calls'.filterMap Loader.Call.source?, s.Plain := fun s hs => by
    by_cases hpresent : s.present = true
    · have hmem : s ∈ presentSources calls := hsources ▸ List.mem_filter.mpr ⟨hs, hpresent⟩
      exact hplain s (List.mem_filter.mp hmem).1
    · exact Source.plain_of_not_present hpresent
  have hresolved : resolved calls' = resolved calls := funext fun k => by
    rw [resolved_eq, resolved_eq, hsources, hoverrides]
  have hnone : ∀ s : Source, ¬ s.present = true → s.error? = none :=
    fun _ => Source.error?_of_not_present
  have herror : (calls'.filterMap Loader.Call.source?).findSome? Source.error? =
      (calls.filterMap Loader.Call.source?).findSome? Source.error? := by
    rw [← findSome?_filter_of_none hnone, ← findSome?_filter_of_none hnone (calls.filterMap _)]
    exact congrArg (List.findSome? Source.error?) hsources
  rw [loaded_eq hplain, loaded_eq hplain', herror, hresolved]

end LexTree.Settings

/-! ## The file of the program -/

namespace LexTree.Program

open Settings

/-- The name under which `findConfig` finds a file of `d`, if it finds one: `name` itself, or else
`name` with `.toml` behind it. -/
def configName? (d : Directory) (name : String) : Option String :=
  (name :: (extendedName? name).toList).find? d.isFile

/-- The name that errors give the file: `configName?` if it is another than `name`, or else `name`
without the parts that lead nowhere. -/
def configOrigin (d : Directory) (name : String) : String :=
  ((configName? d name).filter (· ≠ name)).getD (plainName name)

/-- What `findConfig` gives for `name` has the text of the file that is found in `d`. -/
theorem findConfig_eq (d : Directory) (input : ByteArray) (name : String) :
    (findConfig (Directory.access input) name).run d =
      (⟨name, configOrigin d name,
        (configName? d name).map fun found => textOfFile (d.read found)⟩, d) := by
  have hask : ∀ name, ((Directory.access input).isFile name).run d = (d.isFile name, d) :=
    fun _ => rfl
  rw [findConfig, StateT.run_bind, hask, configOrigin, configName?]
  cases hname : d.isFile name with
  | true =>
    rw [List.find?_cons_of_pos hname, Option.filter_some_neg (by simp)]
    rfl
  | false =>
    rw [List.find?_cons_of_neg (Bool.eq_false_iff.mp hname)]
    cases extendedName? name with
    | none => rfl
    | some extended =>
      show ((Directory.access input).isFile extended >>= _).run d = _
      rw [StateT.run_bind, hask]
      cases hextended : d.isFile extended with
      | true =>
        have hne : extended ≠ name := fun h => by
          rw [h, hname] at hextended
          cases hextended
        rw [Option.toList_some, List.find?_cons_of_pos hextended,
          Option.filter_some_pos (by simpa using hne)]
        rfl
      | false =>
        rw [Option.toList_some, List.find?_cons_of_neg (Bool.eq_false_iff.mp hextended)]
        rfl

/-- The name that is found is that of a file of `d`, and `read` gives the content of it. -/
theorem exists_read_of_configName? {d : Directory} {name found : String}
    (h : configName? d name = some found) : ∃ file ∈ d.files, d.read found = .ok file.content :=
  Directory.exists_read_of_isFile (List.find?_some h)

/-! ## The calls of the program -/

/-- What the program calls: the environment comes first, then the file, and the verbosity is an
override. -/
def settingsCalls (environment : List (String × String)) (file? : Option SourceFile)
    (level? : Option String) : List Loader.Call :=
  .environment environment :: (file?.map Loader.Call.file).toList ++
    (level?.map (Loader.Call.override .level)).toList

/-- `loadSettings` looks for the file, if one is asked for, and makes the calls of
`settingsCalls`. -/
theorem loadSettings_eq {m : Type → Type} [Monad m] [LawfulMonad m] (files : FileAccess m)
    (environment : List (String × String)) (i : Invocation) :
    loadSettings files environment i =
      match i.config with
      | some name => do
        return loaded (settingsCalls environment (some (← findConfig files name)) i.level)
      | none => return loaded (settingsCalls environment none i.level) := by
  rw [loadSettings]
  cases i.config with
  | none =>
    cases i.level with
    | none => simp only [pure_bind]; rfl
    | some level => simp only [pure_bind]; rfl
  | some name =>
    simp only [pure_bind]
    refine bind_congr fun f => ?_
    cases i.level <;> rfl

/-- A run that asks for the file `name` in `d` has the text of one of `d.files` as its file, the
one with this name or else with `.toml` behind it; and if there is neither, it has no settings. -/
theorem loadSettings_of_config (d : Directory) (input : ByteArray)
    (environment : List (String × String)) {i : Invocation} {name : String}
    (hasked : i.config = some name) :
    match configName? d name with
    | some found => ∃ file ∈ d.files, d.read found = .ok file.content ∧
        (loadSettings (Directory.access input) environment i).run d =
          (loaded (settingsCalls environment (some
            ⟨name, configOrigin d name, some (textOfFile (.ok file.content))⟩) i.level), d)
    | none => (loadSettings (Directory.access input) environment i).run d =
        (.error (.missingFile name), d) := by
  have hrun : (loadSettings (Directory.access input) environment i).run d =
      (loaded (settingsCalls environment (some ⟨name, configOrigin d name,
        (configName? d name).map fun found => textOfFile (d.read found)⟩) i.level), d) := by
    rw [loadSettings_eq, hasked]
    show (findConfig (Directory.access input) name >>= _).run d = _
    rw [StateT.run_bind, findConfig_eq]
    rfl
  rw [hrun]
  cases hname : configName? d name with
  | some found =>
    obtain ⟨file, hfile, hread⟩ := exists_read_of_configName? hname
    rw [Option.map_some, hread]
    exact ⟨file, hfile, hread, rfl⟩
  | none =>
    -- The file is the only source that can be missing.
    refine congrArg (·, d) (loaded_eq_error ?_)
    cases i.level <;> rfl

/-- Of `settingsCalls` the override wins over the file, which wins over the environment. -/
theorem resolved_settingsCalls (environment : List (String × String))
    (file? : Option SourceFile) (level? : Option String) (k : Key) :
    resolved (settingsCalls environment file? level?) k =
      (((if k = .level then level? else none).or
        (file?.bind fun f => latest k (Source.file f true).texts)).or
          (latest k (Source.environment environment).texts)).getD k.default := by
  have hlevel : latest k ((settingsCalls environment file? level?).filterMap
      Loader.Call.override?) = if k = .level then level? else none := by
    cases file? <;> cases level? with
    | none => simp [settingsCalls, Loader.Call.override?, List.filterMap_cons]
    | some level =>
      simp [settingsCalls, Loader.Call.override?, List.filterMap_cons, latest_singleton]
  have hsources : (settingsCalls environment file? level?).filterMap Loader.Call.source? =
      .environment environment :: (file?.map (Source.file · true)).toList := by
    cases file? <;> cases level? <;> rfl
  have hfound : ∀ find : Source → Option String,
      (Source.environment environment :: (file?.map (Source.file · true)).toList).reverse.findSome?
        find = (file?.bind fun f => find (.file f true)).or (find (.environment environment)) := by
    intro find
    rw [List.reverse_cons, List.findSome?_append, List.findSome?_singleton]
    cases file? with
    | none => rfl
    | some f => exact congrArg (Option.or · _) List.findSome?_singleton
  rw [resolved, hlevel, hsources, hfound, Option.or_assoc]

/-- What a loader comes to, in any order of its `calls`, if its sources are `Plain`.

The settings have, each by itself, the texts that are `resolved`: that of the last override, or else
of the last source that sets it, or else the default. There are none if and only if a file that has
to be there has no text, or a file's text is no document, or one of the three texts that win for
formats names none. So overrides may stand anywhere among the other calls, as long as those of one
setting keep their order, and optional files that are missing may be added.

For `loadSettings` the verbosity of `i` wins over the file, this over the `environment`, and this
over the defaults. -/
theorem settings_resolve {calls : List Loader.Call}
    (hplain : ∀ s ∈ calls.filterMap Loader.Call.source?, s.Plain) {m : Type → Type} [Monad m]
    [LawfulMonad m] (files : FileAccess m) (environment : List (String × String))
    (i : Invocation) :
    (∀ s, loaded calls = .ok s →
        s.logging.level = resolved calls .level ∧ s.logging.file = resolved calls .file ∧
        logFormats.lookup (foldKey (resolved calls .logFormat)) = some s.logging.format ∧
        tokenFormats.lookup (foldKey (resolved calls .tokens)) = some s.output.tokens ∧
        treeFormats.lookup (foldKey (resolved calls .tree)) = some s.output.tree) ∧
      ((∃ e, loaded calls = .error e) ↔
        (∃ f, .file f ∈ calls ∧ f.text? = none) ∨
        (∃ f text, (.file f ∈ calls ∨ .optionalFile f ∈ calls) ∧ f.text? = some text ∧
          Toml.parse text = none) ∨
        logFormats.lookup (foldKey (resolved calls .logFormat)) = none ∨
        tokenFormats.lookup (foldKey (resolved calls .tokens)) = none ∨
        treeFormats.lookup (foldKey (resolved calls .tree)) = none) ∧
      (∀ calls', presentSources calls' = presentSources calls →
        (∀ k, overridesOf k calls' = overridesOf k calls) → loaded calls' = loaded calls) ∧
      loadSettings files environment i =
        (match i.config with
        | some name => do
          return loaded (settingsCalls environment (some (← findConfig files name)) i.level)
        | none => return loaded (settingsCalls environment none i.level)) ∧
      ∀ file? level? k, resolved (settingsCalls environment file? level?) k =
        (((if k = .level then level? else none).or
          (file?.bind fun f => latest k (Source.file f true).texts)).or
            (latest k (Source.environment environment).texts)).getD k.default := by
  have hloaded := loaded_eq hplain
  refine ⟨fun s hs => ?_, ?_, fun calls' => loaded_congr hplain,
    loadSettings_eq files environment i, resolved_settingsCalls environment⟩
  · cases herror : (calls.filterMap Loader.Call.source?).findSome? Source.error? with
    | some e =>
      rw [hloaded, herror] at hs
      cases hs
    | none =>
      rw [hloaded, herror] at hs
      exact ofTexts_eq_ok hs
  · rw [← or_assoc, ← exists_error?_iff, ← ofTexts_eq_error_iff, hloaded]
    cases (calls.filterMap Loader.Call.source?).findSome? Source.error? with
    | some e => exact iff_of_true ⟨e, rfl⟩ (.inl rfl)
    | none => exact ⟨.inr, fun h => h.resolve_left nofun⟩

/-- The environment and a file, overrides on both sides of them, and an optional file that is
missing. The format of trees in the file is none, but it does not win. -/
def mixedCalls : List Loader.Call :=
  [.override .tree "json",
    .environment [("PARSEKIT__LOGGING__FORMAT", "JSON"), ("PARSEKIT__LOGGING__LEVEL", "info")],
    .optionalFile ⟨"a.toml", "a.toml", none⟩,
    .file ⟨"b.toml", "b.toml", some (.ok "[logging]\nlevel = 'debug'\n[output]\ntree = 'svg'\n")⟩,
    .override .tree "yaml"]

/-- The calls of `mixedCalls`, overrides first, without the file that is missing. -/
def sortedCalls : List Loader.Call :=
  [.override .tree "json", .override .tree "yaml",
    .environment [("PARSEKIT__LOGGING__FORMAT", "JSON"), ("PARSEKIT__LOGGING__LEVEL", "info")],
    .file ⟨"b.toml", "b.toml", some (.ok "[logging]\nlevel = 'debug'\n[output]\ntree = 'svg'\n")⟩]

/-- The sources among `mixedCalls` set texts and nothing else. -/
theorem plain_mixedCalls : ∀ s ∈ mixedCalls.filterMap Loader.Call.source?, s.Plain := by
  have htexts : ∀ s ∈ mixedCalls.filterMap Loader.Call.source?,
      ∀ x ∈ s.load.toOption.getD [], SetsTexts x := by decide +kernel
  exact fun s hs => Source.plain_of_setsTexts (htexts s hs)

/-- A directory with a file of settings, `b`, and nothing else. -/
def settingsDirectory : Directory :=
  ⟨[⟨["b"], "[logging]\nlevel = 'debug'\n[output]\ntree = 'json'\n".toUTF8, true⟩], []⟩

theorem isFile_settingsDirectory : settingsDirectory.isFile "b" = true := by
  have hname : checkName "b" = .ok () := by
    rw [checkName, String.contains_char_eq]
    decide
  have hparts : "b".splitOn "/" = ["b"] := by
    rw [String.splitOn, if_neg (by decide), String.splitOnAux, if_neg (by decide),
      if_neg (by decide), String.splitOnAux, if_pos (by decide)]
    rfl
  have hstart : "b".startsWith "/" = false := by decide +kernel
  have hend : "b".endsWith "/" = false := by decide +kernel
  rw [Directory.isFile, Directory.locate, hname, hparts, hstart, hend]
  rfl

theorem configName?_settingsDirectory : configName? settingsDirectory "b" = some "b" :=
  List.find?_cons_of_pos isFile_settingsDirectory

/-- `mixedCalls` and `sortedCalls` come to the same. A run in `settingsDirectory` that asks for a
verbosity and for the file has that verbosity, the format of trees from the file, and the format of
the log from its environment. -/
theorem settings_resolve_mixedCalls :
    (∀ s ∈ mixedCalls.filterMap Loader.Call.source?, s.Plain) ∧
      loaded mixedCalls = .ok ⟨⟨"debug", "-", .json⟩, ⟨.plain, .yaml⟩⟩ ∧
      resolved mixedCalls .level = "debug" ∧ loaded sortedCalls = loaded mixedCalls ∧
      (loadSettings (Directory.access .empty) [] ⟨.formats, none, some "trace"⟩).run ⟨[], []⟩ =
        (loaded (settingsCalls [] none (some "trace")), ⟨[], []⟩) ∧
      resolved (settingsCalls [] none (some "trace")) .level = "trace" ∧
      (loadSettings (Directory.access .empty)
          [("PARSEKIT__LOGGING__FORMAT", "JSON"), ("PARSEKIT__OUTPUT__TREE", "yaml")]
          ⟨.formats, some "b", some "trace"⟩).run settingsDirectory =
        (.ok ⟨⟨"trace", "-", .json⟩, ⟨.plain, .json⟩⟩, settingsDirectory) := by
  have hloaded : loaded mixedCalls = .ok ⟨⟨"debug", "-", .json⟩, ⟨.plain, .yaml⟩⟩ := by
    decide +kernel
  obtain ⟨hvalues, -, hcongr, hprogram, hresolved⟩ := settings_resolve plain_mixedCalls
    (Directory.access .empty) [] ⟨.formats, none, some "trace"⟩
  refine ⟨plain_mixedCalls, hloaded, (hvalues _ hloaded).1.symm,
    hcongr sortedCalls rfl fun k => by cases k <;> rfl, ?_, ?_, ?_⟩
  · rw [hprogram]
    rfl
  · rw [hresolved]
    rfl
  · have hrun := loadSettings_of_config settingsDirectory .empty
      [("PARSEKIT__LOGGING__FORMAT", "JSON"), ("PARSEKIT__OUTPUT__TREE", "yaml")]
      (i := ⟨.formats, some "b", some "trace"⟩) rfl
    rw [configName?_settingsDirectory] at hrun
    obtain ⟨file, hfile, -, hrun⟩ := hrun
    rw [settingsDirectory, List.mem_singleton] at hfile
    rw [hrun, hfile, textOfFile_toUTF8, configOrigin, configName?_settingsDirectory]
    refine congrArg (·, settingsDirectory) ?_
    decide +kernel

end LexTree.Program
