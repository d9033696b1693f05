import SharedRecords.Manager.Basic
import SharedRecords.Proofs.Store.Columns

/-!
The schema of a manager and its store. A schema is looked up by the first table of a name and the store
keeps the last one, so the two speak of the same columns exactly if the tables of one name do.
-/

namespace SharedRecords

def Schema.lastTable? (schema : Schema) (name : String) : Option Table :=
  schema.tables.reverse.find? (·.name == name)

theorem Schema.lastTable?_isSome (schema : Schema) (name : String) :
    (schema.lastTable? name).isSome = (schema.table? name).isSome := by
  unfold lastTable? table?
  rw [Bool.eq_iff_iff, List.find?_isSome, List.find?_isSome]
  simp only [List.mem_reverse]

namespace Manager

/-- No schema was given yet, and the store has no table and creates what it is asked to. -/
structure Bare (manager : Manager) : Prop where
  schema : manager.schema = none
  tables : manager.resources.backend.store.tables = .empty
  creates : manager.resources.backend.faults .createTables = none

def Agreeing (manager : Manager) : Prop :=
  ∀ schema, manager.schema = some schema → ∀ requests name table, schema.table? name = some table →
    (manager.resources.backend.store.after requests).Offers name table.columns

variable {manager : Manager}

/-- A bare manager takes any schema. It then has no record, and offers the columns listed last under
each name. -/
theorem installSchema_bare (bare : manager.Bare) (schema : Schema) :
    ∃ installed, manager.installSchema schema = (.ok (), installed) ∧ installed.schema = some schema ∧
      (∀ name key, ¬ (installed.resources.backend.store.read name key []).isOk) ∧
      ∀ requests name table, schema.lastTable? name = some table →
        (installed.resources.backend.store.after requests).Offers name table.columns := by
  obtain ⟨created, done, holds, tables⟩ := Store.createTables_bare bare.tables schema.tables
  have installs : manager.resources.backend.createTables schema.tables =
      (.ok (), { manager.resources.backend with store := created }) := by
    unfold Store.Backend.createTables
    rw [bare.creates]
    simp only [done]
  unfold installSchema
  simp only [bare.schema, installs]
  refine ⟨_, rfl, rfl, fun name key => ?_, fun requests name table last => ?_⟩
  · unfold Store.read Store.query
    rw [tables]
    cases schema.tables.reverse.find? (·.name == name) with
    | none => exact Bool.false_ne_true
    | some table => exact Bool.false_ne_true
  · refine holds.offers_after ?_ requests
    unfold Store.columns?
    rw [tables]
    exact congrArg (Option.map _) (congrArg (Option.map _) last)

/-- Every schema is accepted by a bare manager, and then agrees with the store exactly if the first and
the last table of each name have the same columns, but for columns that are listed again. -/
theorem installSchema_agreeing_iff (bare : manager.Bare) (schema : Schema) :
    ∃ installed, manager.installSchema schema = (.ok (), installed) ∧ installed.schema = some schema ∧
      (installed.Agreeing ↔ ∀ name first last, schema.table? name = some first →
        schema.lastTable? name = some last → first.columns.eraseDups = last.columns.eraseDups) := by
  obtain ⟨installed, done, kept, empty, offers⟩ := installSchema_bare bare schema
  refine ⟨installed, done, kept, fun agreeing name first last one other => ?_, fun same => ?_⟩
  · exact Store.offered_unique (fun requests => agreeing schema kept requests name first one)
      (fun requests => offers requests name last other) (empty name "")
  · intro another held requests name table found
    obtain rfl := Option.some.inj (kept.symm.trans held)
    have listed : (schema.lastTable? name).isSome := by
      rw [schema.lastTable?_isSome, found]
      rfl
    obtain ⟨last, final⟩ := Option.isSome_iff_exists.mp listed
    exact (offers requests name last final).of_eraseDups (same name table last found final).symm

/-- A manager that was given nothing yet, with regions of 64 bytes. -/
def noSchema : Manager := new (.ofStore .empty) (.anonymous .empty none) ⟨64, .spin, 0, "session"⟩

theorem noSchema_bare : noSchema.Bare := ⟨rfl, rfl, rfl⟩

theorem noSchema_agreeing : noSchema.Bare ∧ ∃ installed,
    noSchema.installSchema ⟨[⟨"people", ["name", "name"]⟩, ⟨"people", ["name"]⟩], ""⟩ = (.ok (), installed) ∧
      installed.Agreeing := by
  obtain ⟨installed, done, _, agreeing⟩ := installSchema_agreeing_iff noSchema_bare
    ⟨[⟨"people", ["name", "name"]⟩, ⟨"people", ["name"]⟩], ""⟩
  refine ⟨noSchema_bare, installed, done, agreeing.mpr fun name first last one other => ?_⟩
  by_cases same : "people" = name
  · subst same
    cases one
    cases other
    decide
  · simp [Schema.table?, same] at one

/-- Two tables of one name are accepted, and the store refuses the column that the schema is looked up
to have. -/
theorem noSchema_disagreeing : ∃ installed,
    noSchema.installSchema ⟨[⟨"people", ["name"]⟩, ⟨"people", ["age"]⟩], ""⟩ = (.ok (), installed) ∧
      installed.schema.bind (·.table? "people") = some ⟨"people", ["name"]⟩ ∧
      installed.resources.backend.store.insert "people" "ada" [⟨"name", "Ada"⟩] =
        .error (.unknownColumn "people" "name") ∧
      ¬ installed.Agreeing := by
  refine ⟨_, rfl, rfl, rfl, fun agreeing => ?_⟩
  have offers := agreeing _ rfl [] "people" ⟨"people", ["name"]⟩ rfl
  have taken := (offers.insert "ada" [⟨"name", "Ada"⟩]).mpr (by decide)
  exact Bool.false_ne_true taken

end Manager

end SharedRecords
