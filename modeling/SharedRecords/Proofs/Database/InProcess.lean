import SharedRecords.Database
import SharedRecords.Proofs.Manager.Agreement
import SharedRecords.Proofs.Settings.Validity

/-!
Databases in the memory of one process. One is set up for exactly the schemas that name every table and
every column of a table once. It has the tables of its schema, and sessions can be started if there are any.
-/

namespace SharedRecords

open Schema (WellNamed)

theorem Schema.find?_reverse_of_nodup {tables : List Table} (apart : (tables.map (·.name)).Nodup) {table : Table}
    (member : table ∈ tables) : tables.reverse.find? (·.name == table.name) = some table := by
  have found : (tables.reverse.find? (·.name == table.name)).isSome := by
    rw [List.find?_isSome]
    exact ⟨table, List.mem_reverse.mpr member, beq_self_eq_true _⟩
  obtain ⟨last, here⟩ := Option.isSome_iff_exists.mp found
  have inside : last ∈ tables := List.mem_reverse.mp (List.mem_of_find?_eq_some here)
  have same : last.name = table.name := by simpa using List.find?_some here
  rw [here, List.inj_on_of_nodup_map apart inside member same]

/-- The store has the tables that are listed and no other, each with its columns and without a record. -/
structure Store.HasTables (store : Store) (tables : List Table) : Prop where
  listed : ∀ table ∈ tables, store.tables.find? table.name = some ⟨table.columns, .empty⟩
  only : ∀ name, name ∉ tables.map (·.name) → store.tables.find? name = none

theorem Store.createTables_hasTables {tables : List Table} (apart : (tables.map (·.name)).Nodup) :
    ∃ created, Store.empty.createTables tables = .ok created ∧ created.HasTables tables := by
  have bare : Store.empty.tables = .empty := rfl
  obtain ⟨created, done, _, found⟩ := createTables_bare bare tables
  refine ⟨created, done, fun table member => ?_, fun name absent => ?_⟩
  · rw [found, Schema.find?_reverse_of_nodup apart member]
    rfl
  · rw [found, List.find?_eq_none.mpr]
    · rfl
    · intro table member same
      have named : table.name = name := by simpa using same
      exact absent (named ▸ List.mem_map_of_mem (List.mem_reverse.mp member))

theorem Session.start_ne_schemaMissing (id : SessionId) (holding : Holding) (options : Options)
    (resources : Resources) :
    (start id holding options resources).1 ≠ some .schemaMissing := by
  unfold start open?
  dsimp only
  split
  · simp
  · split
    · simp
    · split <;> simp

theorem Manager.launch_ne_schemaMissing (manager : Manager) (holding : Session.Holding) :
    (manager.launch holding).1 ≠ .error .schemaMissing := by
  have reason :=
    Session.start_ne_schemaMissing ⟨UInt64.ofNat (manager.launched + 1)⟩ holding manager.options manager.resources
  unfold launch
  dsimp only
  rcases started : Session.start _ holding manager.options manager.resources with ⟨_ | error, session, resources⟩
  · simp
  · rw [started] at reason
    simpa using reason

namespace Database

variable {schema : Schema} {store : Store} {database : Database}

def settingsFor (schema : Schema) : Settings := { schema := ⟨schema.location, schema.tables⟩ }

/-- A manager in the memory of this process, with what it has been given. -/
def managerOf (schema : Option Schema) (store : Store) : Manager :=
  { resources := ⟨⟨store, fun _ => none⟩, .anonymous .empty none, .empty⟩
    options := (settingsFor ⟨[], ""⟩).sessionOptions
    schema
    launched := 0
    sessions := [] }

def databaseOf (schema : Option Schema) (store : Store) : Database :=
  ⟨managerOf schema store, (settingsFor ⟨[], ""⟩).clientOptions⟩

theorem settingsFor_valid_iff (schema : Schema) :
    (settingsFor schema).validate = .ok () ↔ WellNamed schema.tables := by
  rw [Settings.validate_eq_ok_iff]
  have capacity : 1 < ({} : Settings.Regions).capacity := by decide
  have named : ({} : Settings.Sessions).namePrefix ≠ "" := by decide
  exact ⟨fun valid => valid.2.2, fun tables => ⟨capacity, named, tables⟩⟩

theorem ofSettings_of_installed {backend : Store.Backend} {volume : Region.Volume} {settings : Settings}
    {pool : Region.Pool} {installed : Manager} (valid : settings.validate = .ok ())
    (made : Database.pool settings volume = .ok pool) (filled : settings.schema.tables.isEmpty = false)
    (installs : (Manager.new backend pool settings.sessionOptions).installSchema settings.schema.schema =
      (.ok (), installed)) :
    ofSettings backend volume settings = .ok ⟨installed, settings.clientOptions⟩ := by
  simp [ofSettings, valid, made, filled, installs]

theorem inProcess_of_invalid (faulty : ¬ WellNamed schema.tables) :
    ∃ error, inProcess schema = .error (.settings error) := by
  cases checked : (settingsFor schema).validate with
  | ok => exact absurd ((settingsFor_valid_iff schema).mp checked) faulty
  | error error =>
    refine ⟨error, ?_⟩
    change ofSettings _ _ (settingsFor schema) = _
    unfold ofSettings
    rw [checked]

theorem inProcess_of_nil (location : String) : inProcess ⟨[], location⟩ = .ok (databaseOf none .empty) := rfl

theorem inProcess_of_wellNamed (named : WellNamed schema.tables) (filled : schema.tables ≠ []) :
    ∃ created : Store, created.HasTables schema.tables ∧ inProcess schema = .ok (databaseOf (some schema) created) := by
  obtain ⟨created, done, furnished⟩ := Store.createTables_hasTables named.apart
  have checked := (settingsFor_valid_iff schema).mpr named
  have listed : (settingsFor schema).schema.tables.isEmpty = false := List.isEmpty_eq_false_iff.mpr filled
  have installed : (managerOf none .empty).installSchema schema = (.ok (), managerOf (some schema) created) := by
    unfold Manager.installSchema Store.Backend.createTables managerOf
    simp only [done]
  exact ⟨created, furnished, ofSettings_of_installed checked rfl listed installed⟩

theorem connect_schemaMissing_iff (database : Database) :
    database.connect.1 = .error (.session .schemaMissing) ↔ database.manager.schema = none := by
  unfold connect Manager.spawn
  cases database.manager.schema with
  | none => simp
  | some schema =>
    dsimp only
    rcases database.manager.allocatePair with ⟨error | holding, between⟩
    · simp
    · have reason := between.launch_ne_schemaMissing holding
      dsimp only
      rcases launched : between.launch holding with ⟨error | address, spawned⟩
      · rw [launched] at reason
        simpa using reason
      · have other (result : Except Client.Error Client) :
            result.mapError Error.client ≠ .error (.session .schemaMissing) := by
          cases result <;> simp [Except.mapError]
        simpa using other _

/-- A database in the memory of this process is set up exactly for a schema that names every table and every column
of a table once. Its store has the tables of the schema then, without a record, and the schema is installed if it
has a table; if it has none, nothing is installed, and clients are turned away. -/
theorem inProcess_installs (schema : Schema) :
    ((∃ database, inProcess schema = .ok database) ↔ WellNamed schema.tables) ∧
    ∀ database, inProcess schema = .ok database →
      database.manager.resources.backend.store.HasTables schema.tables ∧
      database.manager.schema = (if schema.tables = [] then none else some schema) ∧
      (database.connect.1 = .error (.session .schemaMissing) ↔ schema.tables = []) := by
  have set (named : WellNamed schema.tables) : ∃ store : Store, store.HasTables schema.tables ∧
      inProcess schema = .ok (databaseOf (if schema.tables = [] then none else some schema) store) := by
    by_cases bare : schema.tables = []
    · obtain ⟨tables, location⟩ := schema
      obtain rfl : tables = [] := bare
      exact ⟨.empty, ⟨nofun, fun _ _ => rfl⟩, inProcess_of_nil location⟩
    · rw [if_neg bare]
      exact inProcess_of_wellNamed named bare
  refine ⟨⟨fun ⟨database, made⟩ => ?_, fun named => ?_⟩, fun database made => ?_⟩
  · by_contra faulty
    obtain ⟨error, refused⟩ := inProcess_of_invalid faulty
    simp [made] at refused
  · obtain ⟨store, _, made⟩ := set named
    exact ⟨_, made⟩
  · have named : WellNamed schema.tables := by
      by_contra faulty
      obtain ⟨error, refused⟩ := inProcess_of_invalid faulty
      simp [made] at refused
    obtain ⟨store, furnished, same⟩ := set named
    obtain rfl := Except.ok.inj (made.symm.trans same)
    refine ⟨furnished, rfl, ?_⟩
    rw [connect_schemaMissing_iff]
    by_cases bare : schema.tables = [] <;> simp [databaseOf, managerOf, bare]

/-- A schema without tables could be installed, but is not. -/
theorem inProcess_bare_without_schema : WellNamed [] ∧ ∃ database,
    inProcess ⟨[], ":memory:"⟩ = .ok database ∧ database.manager.schema ≠ some ⟨[], ":memory:"⟩ ∧
      database.connect.1 = .error (.session .schemaMissing) ∧
      (database.installSchema ⟨[], ":memory:"⟩).1 = .ok () :=
  ⟨⟨nofun, .nil, nofun⟩, _, rfl, nofun, rfl, rfl⟩

end Database

end SharedRecords
