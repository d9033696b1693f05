import SharedRecords.Proofs.Settings.Merging

/-!
Which source decides on a setting. Whatever the sources say, settings that can be loaded have the value that the
strongest source gives, and the built-in one where none gives any; only the directory of the regions may be taken
from that of the project.
-/

namespace SharedRecords.Settings

open Settings.Tree (Agrees Grouped entriesOf names says?)

inductive Setting where
  | capacity
  | backing
  | directory
  | wait
  | sleepMicroseconds
  | spinLimit
  | pollTimeoutMilliseconds
  | namePrefix
  | location
  | tables
  deriving DecidableEq, Repr

namespace Setting

abbrev Value : Setting → Type
  | capacity | sleepMicroseconds | spinLimit | pollTimeoutMilliseconds => Nat
  | backing => RegionKind
  | wait => WaitMode
  | directory | namePrefix | location => String
  | tables => List Table

def group : Setting → String
  | capacity | backing | directory => "region"
  | wait | sleepMicroseconds | spinLimit | pollTimeoutMilliseconds | namePrefix => "session"
  | location | tables => "schema"

/-- The name of a setting in its group. -/
def name : Setting → String
  | capacity => "capacity"
  | backing => "backing"
  | directory => "directory"
  | wait => "wait"
  | sleepMicroseconds => "sleep_micros"
  | spinLimit => "spin_limit"
  | pollTimeoutMilliseconds => "poll_timeout_ms"
  | namePrefix => "thread_name_prefix"
  | location => "location"
  | tables => "tables"

def read : (setting : Setting) → Tree → Option setting.Value
  | capacity | sleepMicroseconds | pollTimeoutMilliseconds => Dialect.layered.number 64
  | spinLimit => Dialect.layered.number 32
  | backing => Dialect.layered.oneOf RegionKind.name RegionKind.all
  | wait => Dialect.layered.oneOf WaitMode.name WaitMode.all
  | directory | namePrefix | location => Dialect.layered.text
  | tables => Dialect.listOf Dialect.layered.table

def of : (setting : Setting) → Settings → setting.Value
  | capacity, settings => settings.region.capacity
  | backing, settings => settings.region.backing
  | directory, settings => settings.region.directory
  | wait, settings => settings.session.wait
  | sleepMicroseconds, settings => settings.session.sleepMicroseconds
  | spinLimit, settings => settings.session.spinLimit
  | pollTimeoutMilliseconds, settings => settings.session.pollTimeoutMilliseconds
  | namePrefix, settings => settings.session.namePrefix
  | location, settings => settings.schema.location
  | tables, settings => settings.schema.tables

theorem group_mem (setting : Setting) : setting.group ∈ groups := by
  cases setting <;> decide

end Setting

/-! ## Reading what layers come to -/

variable {α : Type} {reader : Tree → Option α} {preset value : α} {given final : Option Tree} {tree : Tree}
  {fields : List (String × Tree)}

/-- A reader makes nothing of a table without entries, and of one that gained names only what it made before. -/
structure Steady (reader : Tree → Option α) : Prop where
  blank : reader (.table []) = none
  fewer : ∀ held new value, held ≠ [] → (names held).Nodup → names held ⊆ names new →
    reader (.table new) = some value → reader (.table held) = some value

theorem steady_of_no_table (none_read : ∀ held, reader (.table held) = none) : Steady reader where
  blank := none_read []
  fewer := by
    intro held new value _ _ _ found
    rw [none_read] at found
    contradiction

theorem steady_oneOf (spelled : α → String) (all : List α) : Steady (Dialect.layered.oneOf spelled all) where
  blank := rfl
  fewer := by
    intro held new value filled distinct within found
    obtain ⟨word, chosen, picked⟩ := Option.bind_eq_some_iff.1 found
    obtain ⟨inside, rfl⟩ : ∃ inside, new = [(word, inside)] := by
      match new with
      | [] | _ :: _ :: _ => contradiction
      | [(other, inside)] => exact ⟨inside, by rw [← Option.some.inj chosen]⟩
    match held with
    | [] => contradiction
    | [(other, inside)] =>
      obtain rfl : other = word := by simpa [names] using within
      exact picked
    | (first, _) :: (second, _) :: rest =>
      simp only [names, List.map_cons, List.map_nil, List.cons_subset, List.mem_singleton] at within
      simp [names, within.1, within.2.1] at distinct

theorem Setting.steady (setting : Setting) : Steady setting.read := by
  cases setting with
  | backing | wait => exact steady_oneOf _ _
  | _ => exact steady_of_no_table fun _ => rfl

theorem field_eq_elim (fields : List (String × Tree)) (name : String) (preset : α) (reader : Tree → Option α) :
    Dialect.field fields name preset reader = (Tree.lookup? fields name).elim (some preset) reader := by
  unfold Dialect.field
  cases Tree.lookup? fields name <;> rfl

theorem Steady.agrees (steady : Steady reader) (agrees : Agrees given final)
    (found : final.elim (some preset) reader = some value) : given.elim (some preset) reader = some value := by
  cases agrees with
  | nothing => exact found
  | plain => exact found
  | table filled distinct within => exact steady.fewer _ _ _ filled distinct within found
  | blank => cases steady.blank.symm.trans found

/-! ## The groups -/

theorem group_eq {dialect : Dialect} {expected : List String} (table : tree.isTable = true)
    (found : dialect.group expected tree = some fields) : fields = tree.entries := by
  rw [← Tree.table_entries table, Dialect.group] at found
  split at found
  · exact (Option.some.inj found).symm
  · contradiction

def Setting.among (setting : Setting) (fields : List (String × Tree)) : Option setting.Value :=
  (Tree.lookup? fields setting.name).elim (some (setting.of builtIn)) setting.read

theorem region_among {region : Regions} (grouped : Grouped final)
    (found : final.elim (some {}) Dialect.layered.regions = some region) :
    Setting.capacity.among (entriesOf final) = some region.capacity ∧
      Setting.backing.among (entriesOf final) = some region.backing ∧
      Setting.directory.among (entriesOf final) = some region.directory := by
  cases final with
  | none =>
    obtain rfl := Option.some.inj found
    exact ⟨rfl, rfl, rfl⟩
  | some tree =>
    simp only [Option.elim_some, Dialect.regions, Option.bind_eq_bind, Option.bind_eq_some_iff,
      field_eq_elim] at found
    obtain ⟨held, group, capacity, first, backing, second, directory, third, whole⟩ := found
    obtain rfl := group_eq (grouped tree rfl) group
    obtain rfl := Option.some.inj whole
    exact ⟨first, second, third⟩

theorem session_among {session : Sessions} (grouped : Grouped final)
    (found : final.elim (some {}) Dialect.layered.sessions = some session) :
    Setting.wait.among (entriesOf final) = some session.wait ∧
      Setting.sleepMicroseconds.among (entriesOf final) = some session.sleepMicroseconds ∧
      Setting.spinLimit.among (entriesOf final) = some session.spinLimit ∧
      Setting.pollTimeoutMilliseconds.among (entriesOf final) = some session.pollTimeoutMilliseconds ∧
      Setting.namePrefix.among (entriesOf final) = some session.namePrefix := by
  cases final with
  | none =>
    obtain rfl := Option.some.inj found
    exact ⟨rfl, rfl, rfl, rfl, rfl⟩
  | some tree =>
    simp only [Option.elim_some, Dialect.sessions, Option.bind_eq_bind, Option.bind_eq_some_iff,
      field_eq_elim] at found
    obtain ⟨held, group, wait, first, sleep, second, spin, third, poll, fourth, start, fifth, whole⟩ := found
    obtain rfl := group_eq (grouped tree rfl) group
    obtain rfl := Option.some.inj whole
    exact ⟨first, second, third, fourth, fifth⟩

theorem schema_among {schema : Tables} (grouped : Grouped final)
    (found : final.elim (some {}) Dialect.layered.tables = some schema) :
    Setting.location.among (entriesOf final) = some schema.location ∧
      Setting.tables.among (entriesOf final) = some schema.tables := by
  cases final with
  | none =>
    obtain rfl := Option.some.inj found
    exact ⟨rfl, rfl⟩
  | some tree =>
    simp only [Option.elim_some, Dialect.tables, Option.bind_eq_bind, Option.bind_eq_some_iff,
      field_eq_elim] at found
    obtain ⟨held, group, location, first, tables, second, whole⟩ := found
    obtain rfl := group_eq (grouped tree rfl) group
    obtain rfl := Option.some.inj whole
    exact ⟨first, second⟩

theorem settings_among {settings : Settings} (table : tree.isTable = true)
    (grouped : ∀ group ∈ groups, Grouped (tree.under? group))
    (found : Dialect.layered.settings tree = some settings) (setting : Setting) :
    setting.among (entriesOf (tree.under? setting.group)) = some (setting.of settings) := by
  simp only [Dialect.settings, Option.bind_eq_bind, Option.bind_eq_some_iff, field_eq_elim] at found
  obtain ⟨held, group, region, first, session, second, schema, third, whole⟩ := found
  obtain rfl := group_eq table group
  obtain rfl := Option.some.inj whole
  obtain ⟨capacity, backing, directory⟩ := region_among (grouped "region" (by decide)) first
  obtain ⟨wait, sleep, spin, poll, start⟩ := session_among (grouped "session" (by decide)) second
  obtain ⟨location, tables⟩ := schema_among (grouped "schema" (by decide)) third
  cases setting with
  | capacity => exact capacity
  | backing => exact backing
  | directory => exact directory
  | wait => exact wait
  | sleepMicroseconds => exact sleep
  | spinLimit => exact spin
  | pollTimeoutMilliseconds => exact poll
  | namePrefix => exact start
  | location => exact location
  | tables => exact tables

/-! ## The sources -/

/-- Whatever a key spells, it starts with a name. -/
theorem Step.path_eq_cons (key : String) : ∃ first rest, path key = .name first :: rest := by
  unfold path
  cases found : further? (key.length + 2) ('.' :: key.toList) with
  | none => exact ⟨key, [], rfl⟩
  | some steps =>
    rw [further?] at found
    split at found
    · contradiction
    · obtain ⟨rest, _, rfl⟩ := Option.map_eq_some_iff.1 found
      exact ⟨_, rest, rfl⟩

theorem Tree.overlayEach_eq_foldl (base held : List (String × Tree)) :
    overlayEach base held = held.foldl (fun entries entry => alter entry.1 (overlay · entry.2) entries) base := by
  induction held generalizing base with
  | nil => rw [overlayEach, List.foldl_nil]
  | cons entry rest ih => rw [overlayEach, ih, List.foldl_cons]

namespace Sources

/-- How files and variables are merged. -/
def merger : Merger where
  path := Step.path
  change := Tree.change
  overlay := Tree.overlay
  path_named := Step.path_eq_cons
  change_here := fun _ _ => rfl
  change_below := fun _ _ _ _ => rfl
  overlay_table := fun base held => by rw [Tree.overlay, Tree.overlayEach_eq_foldl]
  overlay_plain := by
    intro base held plain
    cases held with
    | table entries => contradiction
    | _ => simp only [Tree.overlay]

variable {sources : Sources} {merged settings : Settings} {directory : String}

/-- What a file states; one that does not exist states nothing. -/
def fileEntries : Option String → List (String × Tree)
  | none => []
  | some document => (((Toml.parse .shared document).filter fits).map Tree.entries).getD []

def variableEntries (sources : Sources) : List (String × Tree) :=
  sources.environment.filterMap fun (name, value) =>
    (variableKey? sources.variablePrefix name).map fun key => (key, variableValue value)

/-- What each source states, the strongest first. -/
def layers (sources : Sources) : List (List (String × Tree)) :=
  [sources.variableEntries, fileEntries sources.override, fileEntries sources.project, fileEntries sources.user]

/-- The sources set settings by their names: none reaches into a list, and for a whole group there is a table. -/
def isOrderly (sources : Sources) : Bool :=
  sources.layers.all fun entries => entries.all fun entry => orderly (Step.path entry.1) entry.2

def given? (layers : List (List (String × Tree))) (setting : Setting) : Option Tree :=
  layers.findSome? fun entries => says? ((lay .empty entries).at? setting.group setting.name)

def settled? (sources : Sources) (setting : Setting) : Option setting.Value :=
  (given? sources.layers setting).elim (some (setting.of builtIn)) setting.read

def withoutUser (sources : Sources) : Sources := { sources with user := none }

theorem layFile_eq {base laid : Tree} {document : Option String} (found : layFile base document = some laid) :
    laid = lay base (fileEntries document) := by
  cases document with
  | none => exact (Option.some.inj found).symm
  | some text =>
    obtain ⟨parsed, kept, rfl⟩ := Option.map_eq_some_iff.1 found
    rw [fileEntries, kept]
    rfl

theorem tree?_eq_stack (found : sources.tree? = some tree) : tree = merger.stack sources.layers := by
  simp only [tree?, Option.bind_eq_bind, Option.bind_eq_some_iff] at found
  obtain ⟨user, first, project, second, override, third, whole⟩ := found
  rw [← Option.some.inj whole, layFile_eq third, layFile_eq second, layFile_eq first]
  rfl

theorem settled_of_settings (fine : sources.isOrderly = true) (found : sources.tree? = some tree)
    (read : Dialect.layered.settings tree = some merged) (setting : Setting) :
    sources.settled? setting = some (setting.of merged) := by
  have orderly : ∀ entries ∈ sources.layers, merger.Orderly entries :=
    fun entries member => List.all_eq_true.1 (List.all_eq_true.1 fine entries member)
  obtain rfl := tree?_eq_stack found
  have grouped (group : String) (member : group ∈ groups) := merger.stack_grouped member orderly
  have among := settings_among (merger.isTable_stack _) grouped read setting
  exact setting.steady.agrees (merger.stack_agrees setting.group_mem setting.name orderly) among

theorem isAbsolute_join {base path : String} (absolute : Text.Path.isAbsolute base = true) :
    Text.Path.isAbsolute (Text.Path.join base path) = true := by
  have longer (rest : String) : Text.Path.isAbsolute (base ++ rest) = true := by
    unfold Text.Path.isAbsolute at absolute ⊢
    rw [String.startsWith_string_iff] at absolute ⊢
    rw [String.toList_append]
    exact absolute.trans (List.prefix_append _ _)
  unfold Text.Path.join
  split
  next itself => exact itself
  next =>
    split
    · exact longer path
    · rw [String.append_assoc]
      exact longer _

theorem join_eq_ite (base path : String) :
    Text.Path.join base path = if Text.Path.isAbsolute path then path else Text.Path.join base path := by
  by_cases rooted : Text.Path.isAbsolute path = true
  · rw [if_pos rooted, Text.Path.join, if_pos rooted]
  · rw [if_neg rooted]

structure Loaded (sources : Sources) (directory : String) (settings : Settings) : Prop where
  settled : ∀ setting : Setting, setting ≠ .directory → sources.settled? setting = some (setting.of settings)
  directory : ∃ folder, sources.settled? .directory = some folder ∧
    settings.region.directory = if Text.Path.isAbsolute folder then folder else Text.Path.join directory folder
  absolute : Text.Path.isAbsolute settings.region.directory = true
  valid : settings.validate = .ok ()

theorem loaded_of_load (fine : sources.isOrderly = true) (absolute : Text.Path.isAbsolute directory = true)
    (loaded : sources.load directory = .ok settings) : sources.Loaded directory settings := by
  unfold load at loaded
  split at loaded
  · contradiction
  next tree found =>
    split at loaded
    · contradiction
    next merged read =>
      dsimp only at loaded
      split at loaded
      · contradiction
      next valid =>
        obtain rfl := Except.ok.inj loaded
        have settled := settled_of_settings fine found read
        refine ⟨fun setting other => ?_, ⟨_, settled .directory, ?_⟩, isAbsolute_join absolute, valid⟩
        · rw [settled]
          cases setting with
          | directory => contradiction
          | _ => rfl
        · exact join_eq_ite directory merged.region.directory

theorem load_of_invalid (found : sources.tree? = some tree) (read : Dialect.layered.settings tree = some merged)
    (invalid : (merged.resolve directory).validate ≠ .ok ()) :
    (∃ error, sources.load directory = .error (.validating error)) ∧ sources.loadOrBuiltIn directory = builtIn := by
  obtain ⟨error, failed⟩ : ∃ error, (merged.resolve directory).validate = .error error := by
    cases outcome : (merged.resolve directory).validate with
    | error error => exact ⟨error, rfl⟩
    | ok _ => exact absurd outcome invalid
  have loaded : sources.load directory = .error (.validating error) := by
    simp only [load, found, read, failed]
  exact ⟨⟨error, loaded⟩, by rw [loadOrBuiltIn, loaded]⟩

theorem given?_withoutUser (sources : Sources) (setting : Setting) :
    given? sources.withoutUser.layers setting =
      given? [sources.variableEntries, fileEntries sources.override, fileEntries sources.project] setting := by
  have silent : says? ((lay .empty (fileEntries none)).at? setting.group setting.name) = none := rfl
  simp only [given?, layers, withoutUser, List.findSome?_cons, silent]
  rfl

/-- Settings that are loaded are what the strongest sources say, and settings that are not valid are not loaded. -/
theorem load_by_precedence (fine : sources.isOrderly = true) (absolute : Text.Path.isAbsolute directory = true) :
    (∀ settings, sources.load directory = .ok settings → sources.Loaded directory settings) ∧
      (∀ tree merged, sources.tree? = some tree → Dialect.layered.settings tree = some merged →
        (merged.resolve directory).validate ≠ .ok () →
          (∃ error, sources.load directory = .error (.validating error)) ∧
            sources.loadOrBuiltIn directory = builtIn) ∧
      ∀ setting, given? sources.withoutUser.layers setting =
        given? [sources.variableEntries, fileEntries sources.override, fileEntries sources.project] setting :=
  ⟨fun _ => loaded_of_load fine absolute, fun _ _ => load_of_invalid, given?_withoutUser sources⟩

/-- The capacity is set four times and the folder below the project's own, and the rest is built in. -/
theorem four_capacities_loaded :
    let sources : Sources :=
      { user := some "[region]\ncapacity = 100\nbacking = \"file\""
        project := some "region.directory = \"regions\"\nregion.capacity = 200"
        override := some "[region]\ncapacity = 300\n[session]\nspin_limit = 7"
        environment := [("SHMDB_REGION__CAPACITY", "4096")] }
    sources.isOrderly = true ∧ Text.Path.isAbsolute "/srv" = true ∧
      sources.Loaded "/srv" { region := ⟨4096, .file, "/srv/regions"⟩, session := { spinLimit := 7 } } := by
  intro sources
  have fine : sources.isOrderly = true := by decide +kernel
  have absolute : Text.Path.isAbsolute "/srv" = true := by decide +kernel
  refine ⟨fine, absolute, (load_by_precedence fine absolute).1 _ ?_⟩
  have loaded : (sources.load "/srv").toOption =
      some { region := ⟨4096, .file, "/srv/regions"⟩, session := { spinLimit := 7 } } := by decide +kernel
  cases result : sources.load "/srv" with
  | error failure =>
    rw [result] at loaded
    contradiction
  | ok found =>
    rw [result] at loaded
    exact congrArg Except.ok (Option.some.inj loaded)

end Sources

end SharedRecords.Settings
