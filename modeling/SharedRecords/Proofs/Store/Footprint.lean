import SharedRecords.Proofs.Store.Columns

/-!
What a request depends on and what it changes. The answer to a request depends on the columns of the tables
and on the records it touches, and it changes no record but the one it writes. So two stores that agree on
what a request touches answer it alike and agree afterwards, and a request leaves alone whoever sees only
what it does not write.
-/

namespace SharedRecords

namespace Wire.Request

/-- The request may depend on that record or change it. A scan may depend on every record of its table. -/
inductive Touches : Request → String → String → Prop where
  | read (table key : String) (fields : List String) : Touches (.read table key fields) table key
  | scan (table start : String) (count : UInt64) (fields : List String) (key : String) :
      Touches (.scan table start count fields) table key
  | change {request : Request} {table key : String} (changes : request.Changes table key) :
      Touches request table key

end Wire.Request

namespace Store

/-! ## One table -/

namespace StoredTable

structure SameOn (seen : String → Prop) (first second : StoredTable) : Prop where
  columns : first.columns = second.columns
  rows : ∀ key, seen key → first.rows.find? key = second.rows.find? key

namespace SameOn

variable {seen : String → Prop} {first second : StoredTable} {name key : String}

theorem whole (same : SameOn seen first second) (every : ∀ key, seen key) : first = second := by
  have rows : first.rows = second.rows := KeyMap.eq_of_find? fun key => same.rows key (every key)
  have columns := same.columns
  cases first
  cases second
  cases rows
  cases columns
  rfl

theorem contains (same : SameOn seen first second) (sees : seen key) :
    first.rows.contains key = second.rows.contains key := by
  rw [KeyMap.contains, KeyMap.contains, same.rows key sees]

theorem read (same : SameOn seen first second) (sees : seen key) (fields : List String) :
    first.read key fields = second.read key fields := by
  unfold StoredTable.read project
  rw [same.rows key sees, same.columns]

theorem slots (same : SameOn seen first second) (name : String) (values : Record) :
    first.slots name values = second.slots name values := by
  induction values with
  | nil => rfl
  | cons pair rest ih =>
    unfold StoredTable.slots slot
    rw [same.columns, ih]

theorem amend (same : SameOn seen first second) (name : String) (row : Row) (values : Record) :
    first.amend name row values = second.amend name row values := by
  unfold StoredTable.amend
  rw [same.slots]

theorem write (same : SameOn seen first second) (key : String) (row : Row) :
    SameOn seen { first with rows := first.rows.insert key row }
      { second with rows := second.rows.insert key row } where
  columns := same.columns
  rows other sees := by
    rw [KeyMap.find?_insert, KeyMap.find?_insert, same.rows other sees]

theorem insert (same : SameOn seen first second) (sees : seen key) (name : String) (values : Record) :
    Agrees (SameOn seen) (first.insert name key values) (second.insert name key values) := by
  have blank : first.blankRow = second.blankRow := by
    unfold blankRow
    rw [same.columns]
  unfold StoredTable.insert
  rw [same.contains sees, blank, same.amend]
  split
  · exact .refused _
  · split
    · exact .refused _
    · exact .done (same.write key _)

theorem update (same : SameOn seen first second) (sees : seen key) (name : String) (values : Record) :
    Agrees (SameOn seen) (first.update name key values) (second.update name key values) := by
  unfold StoredTable.update
  rw [same.rows key sees]
  split
  · exact .refused _
  next held _ =>
    rw [same.amend]
    split
    · exact .refused _
    · exact .done (same.write key _)

theorem delete (same : SameOn seen first second) (sees : seen key) :
    Agrees (SameOn seen) (first.delete key) (second.delete key) := by
  unfold StoredTable.delete
  rw [same.contains sees]
  split
  · refine .done ⟨same.columns, fun other others => ?_⟩
    rw [KeyMap.find?_erase, KeyMap.find?_erase, same.rows other others]
  · exact .refused _

end SameOn

end StoredTable

/-! ## All tables -/

def row? (store : Store) (name key : String) : Option Row :=
  (store.tables.find? name).bind (·.rows.find? key)

/-- The stores have the same tables with the same columns, and the same records where they are seen. -/
structure SameOn (seen : String → String → Prop) (first second : Store) : Prop where
  columns : ∀ name, first.columns? name = second.columns? name
  rows : ∀ name key, seen name key → first.row? name key = second.row? name key

namespace SameOn

variable {seen fewer : String → String → Prop} {first second third : Store} {name key : String}

theorem refl (seen : String → String → Prop) (store : Store) : SameOn seen store store :=
  ⟨fun _ => rfl, fun _ _ _ => rfl⟩

theorem symm (same : SameOn seen first second) : SameOn seen second first :=
  ⟨fun name => (same.columns name).symm, fun name key sees => (same.rows name key sees).symm⟩

theorem trans (one : SameOn seen first second) (other : SameOn seen second third) : SameOn seen first third where
  columns name := (one.columns name).trans (other.columns name)
  rows name key sees := (one.rows name key sees).trans (other.rows name key sees)

theorem of_tables (same : first.tables = second.tables) : SameOn seen first second := by
  constructor
  · intro name
    rw [columns?, columns?, same]
  · intro name key _
    rw [row?, row?, same]

theorem tables (same : SameOn seen first second) (name : String) :
    (first.tables.find? name = none ∧ second.tables.find? name = none) ∨
      ∃ one other, first.tables.find? name = some one ∧ second.tables.find? name = some other ∧
        one.SameOn (seen name) other := by
  have columns := same.columns name
  have rows := same.rows name
  unfold columns? at columns
  unfold row? at rows
  cases found : first.tables.find? name with
  | none =>
    rw [found] at columns
    exact .inl ⟨rfl, Option.map_eq_none_iff.mp columns.symm⟩
  | some one =>
    rw [found] at columns rows
    obtain ⟨other, located, alike⟩ := Option.map_eq_some_iff.mp columns.symm
    rw [located] at rows
    exact .inr ⟨one, other, rfl, located, alike.symm, rows⟩

theorem tables_eq (same : SameOn (fun _ _ => True) first second) : first.tables = second.tables := by
  apply KeyMap.eq_of_find?
  intro name
  obtain ⟨none, missing⟩ | ⟨one, other, found, located, alike⟩ := same.tables name
  · rw [none, missing]
  · rw [found, located, alike.whole fun _ => trivial]

theorem query {α : Type} (same : SameOn seen first second) (name : String)
    {ask : StoredTable → Except Error α}
    (alike : ∀ one other, one.SameOn (seen name) other → ask one = ask other) :
    first.query name ask = second.query name ask := by
  unfold Store.query
  obtain ⟨absent, missing⟩ | ⟨one, other, found, located, agree⟩ := same.tables name
  · rw [absent, missing]
  · rw [found, located]
    exact alike one other agree

theorem write (same : SameOn seen first second) (name : String) {one other : StoredTable}
    (alike : one.SameOn (seen name) other) :
    SameOn seen { first with tables := first.tables.insert name one }
      { second with tables := second.tables.insert name other } := by
  constructor
  · intro another
    unfold columns?
    rw [KeyMap.find?_insert, KeyMap.find?_insert]
    split
    · exact congrArg some alike.columns
    · exact same.columns another
  · intro another key sees
    unfold row?
    rw [KeyMap.find?_insert, KeyMap.find?_insert]
    split
    next here => exact alike.rows key (here ▸ sees)
    next => exact same.rows another key sees

theorem change (same : SameOn seen first second) (name : String)
    {edit : StoredTable → Except Error StoredTable}
    (alike : ∀ one other, one.SameOn (seen name) other →
      Agrees (StoredTable.SameOn (seen name)) (edit one) (edit other)) :
    (first.settle (first.change name edit)).1 = (second.settle (second.change name edit)).1 ∧
      SameOn seen (first.settle (first.change name edit)).2 (second.settle (second.change name edit)).2 := by
  unfold Store.change Store.query
  obtain ⟨absent, missing⟩ | ⟨one, other, found, located, agree⟩ := same.tables name
  · rw [absent, missing]
    exact ⟨rfl, same⟩
  · rw [found, located]
    have edited := alike one other agree
    dsimp only
    generalize edit one = result at edited ⊢
    generalize edit other = another at edited ⊢
    cases edited with
    | refused error => exact ⟨rfl, same⟩
    | done later => exact ⟨rfl, same.write name later⟩

theorem answer (same : SameOn seen first second) (request : Wire.Request)
    (sees : ∀ name key, request.Touches name key → seen name key) :
    (first.answer request).1 = (second.answer request).1 ∧
      SameOn seen (first.answer request).2 (second.answer request).2 := by
  cases request with
  | read table key fields =>
    have alike := same.query table fun _ _ agree => agree.read (sees table key (.read table key fields)) fields
    exact ⟨congrArg (Except.map Wire.Reply.record) alike, same⟩
  | scan table start count fields =>
    have alike : first.query table (·.scan start count.toNat fields) =
        second.query table (·.scan start count.toNat fields) :=
      same.query table fun one other agree => by
        rw [agree.whole fun key => sees table key (.scan table start count fields key)]
    exact ⟨congrArg (Except.map Wire.Reply.rows) alike, same⟩
  | insert table key values =>
    exact same.change table fun _ _ agree =>
      agree.insert (sees table key (.change (.insert table key values))) table values
  | update table key values =>
    exact same.change table fun _ _ agree =>
      agree.update (sees table key (.change (.update table key values))) table values
  | delete table key =>
    exact same.change table fun _ _ agree => agree.delete (sees table key (.change (.delete table key)))
  | close => exact ⟨rfl, same⟩

end SameOn

/-! ## The frame of a request -/

theorem Follows.row? {store later : Store} {request : Wire.Request} {table key : String}
    (follows : store.Follows request later) (apart : ¬ request.Changes table key) :
    later.row? table key = store.row? table key := by
  cases follows with
  | kept => rfl
  | edited changes found edited =>
    simp only [Store.row?, KeyMap.find?_insert]
    split
    next here =>
      subst here
      rw [found]
      refine edited.find?_of_ne ?_
      rintro rfl
      exact apart changes
    next => rfl

theorem answer_sameOn {seen : String → String → Prop} (store : Store) {request : Wire.Request}
    (apart : ∀ name key, request.Changes name key → ¬ seen name key) :
    SameOn seen store (store.answer request).2 where
  columns name := ((store.answer_follows request).columns name).symm
  rows name key sees := ((store.answer_follows request).row? fun changes => apart name key changes sees).symm

end Store

end SharedRecords
