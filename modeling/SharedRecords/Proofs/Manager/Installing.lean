import SharedRecords.Manager.Exchange
import SharedRecords.Proofs.Client.Announcement

/-!
All that installing a schema can come to, given as it is or in a region. A schema is installed, or one was
installed before, or the store rejects it; and a region without a posted schema, or with bytes that spell
none, leaves the manager and the store as they were.
-/

namespace SharedRecords

theorem Store.Backend.createTables_of_error {backend later : Backend} {tables : List Table} {error : Error}
    (rejected : backend.createTables tables = (.error error, later)) : later = backend := by
  unfold createTables at rejected
  split at rejected
  · exact (congrArg Prod.snd rejected).symm
  · exact (congrArg Prod.snd rejected).symm
  · split at rejected
    · cases congrArg Prod.fst rejected
    · exact (congrArg Prod.snd rejected).symm

namespace Manager

variable {manager : Manager} {schema : Schema} {handle : Region.Handle} {mapping : Region.Mapping}
  {pool : Region.Pool} {control : Channel.Control} {outcome : Except Session.Error Unit × Manager}

inductive Installs (manager : Manager) (schema : Schema) : Except Session.Error Unit × Manager → Prop where
  | taken (taken : manager.schema ≠ none) : Installs manager schema (.error .schemaInstalled, manager)
  | rejected {error : Store.Error} (vacant : manager.schema = none)
      (rejected : (manager.resources.backend.createTables schema.tables).1 = .error error) :
      Installs manager schema (.error (.store error), manager)
  | done {backend : Store.Backend} (vacant : manager.schema = none)
      (created : manager.resources.backend.createTables schema.tables = (.ok (), backend)) :
      Installs manager schema
        (.ok (), { manager with schema := some schema, resources := { manager.resources with backend } })

theorem installSchema_installs (manager : Manager) (schema : Schema) :
    manager.Installs schema (manager.installSchema schema) := by
  unfold installSchema
  split
  next other held => exact .taken (held ▸ Option.some_ne_none other)
  next held =>
    split
    next error backend created =>
      obtain rfl := Store.Backend.createTables_of_error created
      exact .rejected held (congrArg Prod.fst created)
    next backend created => exact .done held created

/-- What processing a mapped region comes to. -/
inductive Processes (manager : Manager) (control : Channel.Control) : Except Session.Error Unit × Manager → Prop where
  | unposted (unposted : control.flag manager.memory ≠ Wire.schemaFlag) :
      Processes manager control (.error (.violation (.unexpectedFlag (control.flag manager.memory))), manager)
  | malformed {error : Wire.Error} (posted : control.flag manager.memory = Wire.schemaFlag)
      (malformed : Wire.Reader.schema.run (control.mapping.payload manager.memory) = .error error) :
      Processes manager control
        (.error (.wire error), manager.setMemory (control.acknowledge manager.memory .failed))
  | answered {schema : Schema} {result : Except Session.Error Unit} {installed : Manager}
      (posted : control.flag manager.memory = Wire.schemaFlag)
      (read : Wire.Reader.schema.run (control.mapping.payload manager.memory) = .ok schema)
      (installs : manager.Installs schema (result, installed)) :
      Processes manager control
        (result, installed.setMemory (control.acknowledge manager.memory (verdict result)))

theorem Installs.same_pool (installs : manager.Installs schema outcome) : outcome.2.pool = manager.pool := by
  cases installs with
  | taken | rejected | done => rfl

theorem Installs.memory {result : Except Session.Error Unit} {installed : Manager}
    (installs : manager.Installs schema (result, installed)) : installed.memory = manager.memory :=
  congrArg Region.Pool.memory installs.same_pool

theorem installPosted_processes (manager : Manager) (control : Channel.Control) :
    manager.Processes control (manager.installPosted control) := by
  unfold installPosted
  dsimp only
  by_cases posted : control.flag manager.memory = Wire.schemaFlag
  · have raised : control.flag manager.memory ≠ Wire.emptyFlag := by
      rw [posted]
      decide
    unfold Channel.Control.read?
    rw [if_pos posted, if_neg raised]
    cases read : Wire.Reader.schema.run (control.mapping.payload manager.memory) with
    | error error => exact .malformed posted read
    | ok schema =>
      have installs := manager.installSchema_installs schema
      dsimp only
      generalize manager.installSchema schema = attempt at installs
      obtain ⟨result, installed⟩ := attempt
      dsimp only
      rw [installs.memory]
      exact .answered posted read installs
  · rw [if_neg posted]
    exact .unposted posted

theorem Installs.keeps {held : Schema} (installs : manager.Installs schema outcome)
    (before : manager.schema = some held) : outcome.2.schema = some held := by
  cases installs with
  | taken => exact before
  | rejected vacant | done vacant =>
    rw [vacant] at before
    contradiction

theorem Processes.keeps {held : Schema} (processes : manager.Processes control outcome)
    (before : manager.schema = some held) : outcome.2.schema = some held := by
  cases processes with
  | unposted => exact before
  | malformed => exact before
  | answered _ _ installs => exact installs.keeps before

theorem Installs.succeeds (installs : manager.Installs schema outcome)
    (done : outcome.1 = .ok ()) : manager.schema = none ∧ outcome.2.schema = some schema := by
  cases installs with
  | taken | rejected => cases done
  | done vacant => exact ⟨vacant, rfl⟩

theorem Installs.fails (installs : manager.Installs schema outcome)
    (failed : outcome.1 ≠ .ok ()) : outcome.2.schema = manager.schema := by
  cases installs with
  | taken | rejected => rfl
  | done => contradiction

theorem Processes.succeeds (processes : manager.Processes control outcome) (done : outcome.1 = .ok ()) :
    ∃ schema, control.flag manager.memory = Wire.schemaFlag ∧
      Wire.Reader.schema.run (control.mapping.payload manager.memory) = .ok schema ∧
      manager.schema = none ∧ outcome.2.schema = some schema := by
  cases processes with
  | unposted | malformed => cases done
  | answered posted read installs =>
    obtain ⟨vacant, installed⟩ := installs.succeeds done
    exact ⟨_, posted, read, vacant, installed⟩

theorem Processes.fails (processes : manager.Processes control outcome) (failed : outcome.1 ≠ .ok ()) :
    outcome.2.schema = manager.schema := by
  cases processes with
  | unposted | malformed => rfl
  | answered _ _ installs => exact installs.fails failed

theorem Processes.raises (processes : manager.Processes control outcome) :
    ∃ memory, outcome.2.pool = manager.pool.setMemory memory ∧
      (memory = manager.memory ∨
        ∃ status : Wire.Status, memory = manager.memory.setFlag control.mapping.index status.byte) := by
  cases processes with
  | unposted => exact ⟨manager.memory, rfl, .inl rfl⟩
  | malformed => exact ⟨_, rfl, .inr ⟨.failed, rfl⟩⟩
  | @answered schema result installed _ _ installs =>
    refine ⟨_, ?_, .inr ⟨verdict result, rfl⟩⟩
    show installed.pool.setMemory _ = _
    rw [show installed.pool = manager.pool from installs.same_pool]
    rfl

theorem installFromRegion_of_mapped (mapped : manager.pool.map handle = (.ok mapping, pool)) :
    ∃ verdicts, pool = { manager.pool with verdicts } ∧
      manager.installFromRegion handle = (manager.setPool pool).installPosted ⟨mapping⟩ := by
  obtain ⟨_, verdicts, same⟩ := Region.Pool.map_eq mapped
  refine ⟨verdicts, same, ?_⟩
  unfold installFromRegion
  rw [mapped]

def posted? (manager : Manager) (handle : Region.Handle) : Option Schema :=
  match manager.pool.locate handle with
  | .error _ => none
  | .ok window =>
    if manager.memory.flag window.index = Wire.schemaFlag then
      (Wire.Reader.schema.run (window.payload manager.memory)).toOption
    else none

end Manager

end SharedRecords
