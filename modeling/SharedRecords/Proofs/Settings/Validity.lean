import SharedRecords.Settings.Basic

/-!
Valid settings. Each pass over the tables answers with the first fault it meets, so it answers nothing
exactly if there is none.
-/

namespace SharedRecords

/-- Every table has a name of its own, and so has every column of a table. -/
structure Schema.WellNamed (tables : List Table) : Prop where
  named : ∀ table ∈ tables, table.name ≠ ""
  apart : (tables.map (·.name)).Nodup
  columns : ∀ table ∈ tables, table.columns.Nodup

namespace Settings

open Schema (WellNamed)

theorem repeated?_eq_none_iff (seen columns : List String) :
    repeated? seen columns = none ↔ columns.Nodup ∧ ∀ column ∈ columns, column ∉ seen := by
  induction columns generalizing seen with
  | nil => simp [repeated?]
  | cons first rest ih =>
    by_cases met : first ∈ seen
    · simp [repeated?, met]
    · have step : repeated? seen (first :: rest) = repeated? (first :: seen) rest := by
        simp [repeated?, met]
      rw [step, ih, List.nodup_cons, List.forall_mem_cons]
      constructor
      · intro ⟨apart, fresh⟩
        have once : first ∉ rest := fun again => fresh first again List.mem_cons_self
        exact ⟨⟨once, apart⟩, met, fun column member inside => fresh column member (List.mem_cons_of_mem _ inside)⟩
      · intro ⟨⟨once, apart⟩, _, fresh⟩
        refine ⟨apart, fun column member inside => ?_⟩
        rcases List.mem_cons.mp inside with rfl | before
        · exact once member
        · exact fresh column member before

theorem wellNamed_cons (table : Table) (rest : List Table) :
    WellNamed (table :: rest) ↔
      table.name ≠ "" ∧ table.columns.Nodup ∧ table.name ∉ rest.map (·.name) ∧ WellNamed rest := by
  constructor
  · intro ⟨named, apart, columns⟩
    obtain ⟨name, names⟩ := List.forall_mem_cons.mp named
    obtain ⟨once, others⟩ := List.forall_mem_cons.mp columns
    obtain ⟨absent, later⟩ := List.nodup_cons.mp apart
    exact ⟨name, once, absent, names, later, others⟩
  · intro ⟨name, once, absent, names, later, others⟩
    exact ⟨List.forall_mem_cons.mpr ⟨name, names⟩, List.nodup_cons.mpr ⟨absent, later⟩,
      List.forall_mem_cons.mpr ⟨once, others⟩⟩

theorem tableFault?_eq_none_iff (seen : List String) (tables : List Table) :
    tableFault? seen tables = none ↔ WellNamed tables ∧ ∀ name ∈ tables.map (·.name), name ∉ seen := by
  induction tables generalizing seen with
  | nil => exact ⟨fun _ => ⟨⟨nofun, .nil, nofun⟩, nofun⟩, fun _ => rfl⟩
  | cons table rest ih =>
    rw [wellNamed_cons, List.map_cons, List.forall_mem_cons]
    have columns := repeated?_eq_none_iff [] table.columns
    simp only [List.not_mem_nil, not_false_eq_true, implies_true, and_true] at columns
    by_cases unnamed : table.name = ""
    · simp [tableFault?, unnamed]
    by_cases met : table.name ∈ seen
    · simp [tableFault?, unnamed, met]
    cases found : repeated? [] table.columns with
    | some column =>
      have doubled : ¬ table.columns.Nodup := fun once => by simp [columns.mpr once] at found
      simp [tableFault?, unnamed, met, found, doubled]
    | none =>
      have step : tableFault? seen (table :: rest) = tableFault? (table.name :: seen) rest := by
        simp [tableFault?, unnamed, met, found]
      rw [step, ih]
      constructor
      · intro ⟨named, fresh⟩
        have absent : table.name ∉ rest.map (·.name) := fun again => fresh _ again List.mem_cons_self
        exact ⟨⟨unnamed, columns.mp found, absent, named⟩, met,
          fun name member inside => fresh name member (List.mem_cons_of_mem _ inside)⟩
      · intro ⟨⟨_, _, absent, named⟩, _, fresh⟩
        refine ⟨named, fun name member inside => ?_⟩
        rcases List.mem_cons.mp inside with rfl | before
        · exact absent member
        · exact fresh name member before

theorem validate_eq_ok_iff (settings : Settings) :
    settings.validate = .ok () ↔
      1 < settings.region.capacity ∧ settings.session.namePrefix ≠ "" ∧ WellNamed settings.schema.tables := by
  have tables := tableFault?_eq_none_iff [] settings.schema.tables
  simp only [List.not_mem_nil, not_false_eq_true, implies_true, and_true] at tables
  have valid : settings.validate = .ok () ↔ settings.fault? = none := by
    unfold validate
    cases settings.fault? <;> simp
  rw [valid, ← tables, fault?]
  by_cases small : settings.region.capacity ≤ 1
  · simp [small, Nat.not_lt.mpr small]
  · by_cases nameless : settings.session.namePrefix = ""
    · simp [small, nameless]
    · simp [small, nameless, Nat.lt_of_not_le small]

end Settings

end SharedRecords
