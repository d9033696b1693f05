import Mathlib.Data.List.Nodup
import SharedRecords.Settings.Layers

/-!
Layers of trees. What comes of laying entries over a tree is told by what comes of them alone: what they say
nothing about stays, where they put a plain value it stands in the end, and where they put a table there is one
with all of its names.
-/

namespace SharedRecords.Settings

namespace Tree

def isTable : Tree → Bool
  | .table _ => true
  | _ => false

def names (entries : List (String × Tree)) : List String := entries.map (·.1)

/-- What stands under a key, if anything does. -/
def under? (tree : Tree) (key : String) : Option Tree := lookup? tree.entries key

/-- The entries of whatever stands somewhere. -/
def entriesOf (slot : Option Tree) : List (String × Tree) := (slot.getD .nothing).entries

def at? (tree : Tree) (group name : String) : Option Tree := lookup? (entriesOf (tree.under? group)) name

variable {entries : List (String × Tree)} {key other name : String} {tree : Tree}

theorem lookup?_cons (key : String) (held : Tree) (entries : List (String × Tree)) (other : String) :
    lookup? ((key, held) :: entries) other = if key = other then some held else lookup? entries other := by
  by_cases same : key = other
  · simp [lookup?, same]
  · simp [lookup?, same]

theorem mem_names_iff : key ∈ names entries ↔ (lookup? entries key).isSome := by
  rw [names, List.mem_map, lookup?, Option.isSome_map, List.find?_isSome]
  simp only [beq_iff_eq]

theorem lookup?_alter (key : String) (edit : Tree → Tree) (entries : List (String × Tree)) (other : String) :
    lookup? (alter key edit entries) other =
      if other = key then some (edit ((lookup? entries key).getD .nothing)) else lookup? entries other := by
  induction entries with
  | nil =>
    rw [alter, lookup?_cons]
    simp [lookup?, eq_comm]
  | cons entry rest ih =>
    obtain ⟨first, held⟩ := entry
    rw [alter]
    by_cases here : first = key
    · subst here
      by_cases same : other = first
      · simp [lookup?_cons, same]
      · simp [lookup?_cons, same, Ne.symm same]
    · rw [if_neg here, lookup?_cons, lookup?_cons, lookup?_cons, ih, if_neg here]
      by_cases found : first = other
      · simp [found, found ▸ here]
      · simp [found]

theorem mem_names_alter (key : String) (edit : Tree → Tree) (entries : List (String × Tree)) :
    other ∈ names (alter key edit entries) ↔ other ∈ names entries ∨ other = key := by
  rw [mem_names_iff, mem_names_iff, lookup?_alter]
  by_cases same : other = key
  · simp [same]
  · simp [same]

theorem names_alter_nodup (key : String) (edit : Tree → Tree) (distinct : (names entries).Nodup) :
    (names (alter key edit entries)).Nodup := by
  induction entries with
  | nil => exact List.nodup_singleton key
  | cons entry rest ih =>
    obtain ⟨first, held⟩ := entry
    obtain ⟨once, later⟩ := List.nodup_cons.1 distinct
    rw [alter]
    by_cases here : first = key
    · rw [if_pos here]
      exact here ▸ distinct
    · rw [if_neg here]
      refine List.nodup_cons.2 ⟨fun member => ?_, ih later⟩
      exact ((mem_names_alter key edit rest).1 member).elim once here

/-! ## Laying over a value -/

/-- An edit puts a plain value whatever stood there, or a table with more names. -/
inductive Lays (edit : Tree → Tree) : Prop where
  | plain (held : Tree) (plain : held.isTable = false) (same : ∀ tree, edit tree = held)
  | table (added : List String) (grow : List (String × Tree) → List (String × Tree))
      (same : ∀ tree, edit tree = .table (grow tree.entries))
      (mem : ∀ entries key, key ∈ names (grow entries) ↔ key ∈ names entries ∨ key ∈ added)
      (distinct : ∀ entries, (names entries).Nodup → (names (grow entries)).Nodup)

theorem table_entries (table : tree.isTable = true) : .table tree.entries = tree := by
  cases tree with
  | table held => rfl
  | _ => contradiction

theorem entries_eq_nil (plain : tree.isTable = false) : tree.entries = [] := by
  cases tree with
  | table held => contradiction
  | _ => rfl

/-- How what stood somewhere before a layer, what the layer puts there by itself, and what stands there in the
end hang together. -/
inductive Covers (old : Option Tree) : Option Tree → Option Tree → Prop where
  | unset : Covers old none old
  | plain {tree : Tree} (plain : tree.isTable = false) : Covers old (some tree) (some tree)
  /-- The names of what was there before are kept, unless a plain value stood there in between. -/
  | table {held new : List (String × Tree)} (kept : List String) (before : kept = names (entriesOf old) ∨ kept = [])
      (distinct : (names held).Nodup) (mem : ∀ key, key ∈ names new ↔ key ∈ kept ∨ key ∈ names held) :
      Covers old (some (.table held)) (some (.table new))

variable {old own new : Option Tree} {edit : Tree → Tree}

theorem Covers.lay (covers : Covers old own new) (lays : Lays edit) :
    Covers old (some (edit (own.getD .nothing))) (some (edit (new.getD .nothing))) := by
  cases lays with
  | plain held plain same =>
    rw [same, same]
    exact .plain plain
  | table added grow same mem distinct =>
    rw [same, same]
    cases covers with
    | unset =>
      refine .table (names (entriesOf old)) (.inl rfl) (distinct _ List.nodup_nil) fun key => ?_
      rw [mem, mem]
      simp [entriesOf, names, Tree.entries]
    | plain plain =>
      -- a table takes the place of a plain value, and what that had replaced does not come back
      have nothing := entries_eq_nil plain
      refine .table [] (.inr rfl) (distinct _ (by simp [nothing, names])) fun key => ?_
      simp
    | table kept before once joined =>
      refine .table kept before (distinct _ once) fun key => ?_
      rw [mem, mem]
      simp only [Option.getD_some, Tree.entries, joined, or_assoc]

/-! ## Laying over a group -/

def CoversEach (old own new : List (String × Tree)) : Prop :=
  ∀ name, Covers (lookup? old name) (lookup? own name) (lookup? new name)

variable {before alone after : List (String × Tree)}

theorem CoversEach.alter (covers : CoversEach before alone after) (lays : Lays edit) (key : String) :
    CoversEach before (alter key edit alone) (alter key edit after) := by
  intro name
  rw [lookup?_alter, lookup?_alter]
  by_cases same : name = key
  · rw [if_pos same, if_pos same, same]
    exact (covers key).lay lays
  · rw [if_neg same, if_neg same]
    exact covers name

/-- A layer says nothing about a group, or joins a table to what stood there. -/
inductive Joins (old : Option Tree) : Option Tree → Option Tree → Prop where
  | unset : Joins old none old
  | table {held new : List (String × Tree)} (each : CoversEach (entriesOf old) held new) :
      Joins old (some (.table held)) (some (.table new))

theorem Joins.each (joins : Joins old own new) : CoversEach (entriesOf old) (entriesOf own) (entriesOf new) := by
  cases joins with
  | unset => exact fun _ => .unset
  | table each => exact each

theorem Joins.covers {base own new : Tree} {group : String}
    (joins : Joins (base.under? group) (own.under? group) (new.under? group)) (name : String) :
    Covers (base.at? group name) (own.at? group name) (new.at? group name) :=
  joins.each name

def Grouped (slot : Option Tree) : Prop := ∀ tree, slot = some tree → tree.isTable = true

theorem Joins.grouped (joins : Joins old own new) (grouped : Grouped old) : Grouped new := by
  cases joins with
  | unset => exact grouped
  | table each =>
    rintro tree ⟨⟩
    rfl

end Tree

/-- A way to merge sources, by the laws that settings rely on. -/
structure Merger where
  path : String → List Step
  change : (Tree → Tree) → List Step → Tree → Tree
  overlay : Tree → Tree → Tree
  path_named : ∀ key, ∃ first rest, path key = .name first :: rest
  change_here : ∀ edit tree, change edit [] tree = edit tree
  change_below : ∀ edit key rest tree,
    change edit (.name key :: rest) tree = .table (Tree.alter key (change edit rest) tree.entries)
  overlay_table : ∀ base held, overlay base (.table held) =
    .table (held.foldl (fun entries entry => Tree.alter entry.1 (overlay · entry.2) entries) base.entries)
  /-- Any other value, a list included, replaces what stood there as a whole. -/
  overlay_plain : ∀ base held, held.isTable = false → overlay base held = held

namespace Merger

open Settings.Tree

variable (merger : Merger)

def join (base held : List (String × Tree)) : List (String × Tree) :=
  held.foldl (fun entries entry => alter entry.1 (merger.overlay · entry.2) entries) base

/-- Puts each value where the path of its key leads. -/
def lay (base : Tree) (entries : List (String × Tree)) : Tree :=
  entries.foldl (fun tree entry => merger.change (merger.overlay · entry.2) (merger.path entry.1) tree) base

theorem mem_names_join (base held : List (String × Tree)) (key : String) :
    key ∈ names (merger.join base held) ↔ key ∈ names base ∨ key ∈ names held := by
  induction held generalizing base with
  | nil => simp [join, names]
  | cons entry rest ih =>
    rw [join, List.foldl_cons, ← join, ih, mem_names_alter, names, names, names, List.map_cons, List.mem_cons,
      or_assoc]

theorem names_join_nodup (held : List (String × Tree)) {base : List (String × Tree)}
    (distinct : (names base).Nodup) : (names (merger.join base held)).Nodup := by
  induction held generalizing base with
  | nil => exact distinct
  | cons entry rest ih => exact ih (names_alter_nodup _ _ distinct)

theorem lays_overlay (held : Tree) : Lays (merger.overlay · held) := by
  cases kind : held.isTable with
  | false => exact .plain held kind fun base => merger.overlay_plain base held kind
  | true =>
    rw [← table_entries kind]
    exact .table (names held.entries) (merger.join · held.entries) (fun base => merger.overlay_table base held.entries)
      (fun base => merger.mem_names_join base held.entries) fun _ => merger.names_join_nodup held.entries

theorem lays_change (edit : Tree → Tree) (key : String) (rest : List Step) :
    Lays (merger.change edit (.name key :: rest)) :=
  .table [key] (alter key (merger.change edit rest)) (merger.change_below edit key rest)
    (fun entries _ => by rw [mem_names_alter, List.mem_singleton]) fun _ => names_alter_nodup _ _

theorem coversEach_join {before alone after : List (String × Tree)} (covers : CoversEach before alone after)
    (held : List (String × Tree)) : CoversEach before (merger.join alone held) (merger.join after held) := by
  induction held generalizing alone after with
  | nil => exact covers
  | cons entry rest ih => exact ih (covers.alter (merger.lays_overlay entry.2) entry.1)

end Merger

/-! ## Laying over a tree -/

def Step.isName : Step → Bool
  | name _ => true
  | place _ => false

def groups : List String := ["region", "session", "schema"]

def orderly (path : List Step) (held : Tree) : Bool :=
  match path with
  | [.name group] => !groups.contains group || held.isTable
  | .name group :: rest => !groups.contains group || rest.all Step.isName
  | _ => true

namespace Merger

open Settings.Tree

def Orderly (merger : Merger) (entries : List (String × Tree)) : Prop :=
  ∀ entry ∈ entries, orderly (merger.path entry.1) entry.2 = true

variable (merger : Merger) {old : Option Tree} {own new held : Tree} {group : String}
  {entries : List (String × Tree)}

theorem under?_change (edit : Tree → Tree) (first : String) (rest : List Step) (tree : Tree) (group : String) :
    (merger.change edit (.name first :: rest) tree).under? group =
      if group = first then some (merger.change edit rest ((tree.under? group).getD .nothing))
      else tree.under? group := by
  rw [under?, merger.change_below, Tree.entries, lookup?_alter]
  by_cases same : group = first
  · rw [if_pos same, if_pos same, same, under?]
  · rw [if_neg same, if_neg same, under?]

theorem joins_change {first : String} {rest : List Step} (member : group ∈ groups)
    (fine : orderly (.name first :: rest) held = true)
    (joins : Joins old (own.under? group) (new.under? group)) :
    Joins old ((merger.change (merger.overlay · held) (.name first :: rest) own).under? group)
      ((merger.change (merger.overlay · held) (.name first :: rest) new).under? group) := by
  rw [under?_change, under?_change]
  by_cases same : group = first
  · subst same
    rw [if_pos rfl, if_pos rfl]
    -- the path ends at the group, at one of its settings, or inside the value of one
    match rest with
    | [] =>
      have table : held.isTable = true := by simpa [orderly, member] using fine
      rw [← table_entries table, merger.change_here, merger.change_here, merger.overlay_table, merger.overlay_table]
      exact .table (merger.coversEach_join joins.each held.entries)
    | .place _ :: _ => simp [orderly, member, Step.isName] at fine
    | [.name field] =>
      rw [merger.change_below, merger.change_below]
      refine .table (joins.each.alter ?_ field)
      rw [funext (merger.change_here _)]
      exact merger.lays_overlay held
    | .name field :: .name key :: rest =>
      rw [merger.change_below, merger.change_below]
      exact .table (joins.each.alter (merger.lays_change _ key rest) field)
    | .name _ :: .place _ :: _ => simp [orderly, member, Step.isName] at fine
  · rw [if_neg same, if_neg same]
    exact joins

theorem joins_lay (member : group ∈ groups) (fine : merger.Orderly entries)
    (joins : Joins old (own.under? group) (new.under? group)) :
    Joins old ((merger.lay own entries).under? group) ((merger.lay new entries).under? group) := by
  induction entries generalizing own new with
  | nil => exact joins
  | cons entry rest ih =>
    obtain ⟨first, later⟩ := List.forall_mem_cons.1 fine
    obtain ⟨name, steps, path⟩ := merger.path_named entry.1
    rw [path] at first
    rw [lay, lay, List.foldl_cons, List.foldl_cons, path]
    exact ih later (merger.joins_change member first joins)

theorem isTable_lay (entries : List (String × Tree)) (table : own.isTable = true) :
    (merger.lay own entries).isTable = true := by
  induction entries generalizing own with
  | nil => exact table
  | cons entry rest ih =>
    obtain ⟨name, steps, path⟩ := merger.path_named entry.1
    rw [lay, List.foldl_cons, path, merger.change_below]
    exact ih rfl

end Merger

/-! ## What a stack of layers comes to -/

namespace Tree

variable {old : Option Tree} {entries : List (String × Tree)}

def says? (slot : Option Tree) : Option Tree :=
  slot.filter fun
    | .table [] => false
    | _ => true

/-- What the strongest layer says, and what stands there in the end. Only a table may have gained names. -/
inductive Agrees : Option Tree → Option Tree → Prop where
  | nothing : Agrees none none
  | blank (given : Option Tree) : Agrees given (some (.table []))
  | plain {tree : Tree} (plain : tree.isTable = false) : Agrees (some tree) (some tree)
  | table {held new : List (String × Tree)} (filled : held ≠ []) (distinct : (names held).Nodup)
      (within : names held ⊆ names new) : Agrees (some (.table held)) (some (.table new))

variable {given : Option Tree} {alone final : Option Tree}

theorem Agrees.of_unnamed (given : Option Tree) (unnamed : ∀ key, key ∉ names entries) :
    Agrees given (some (.table entries)) := by
  have nothing : entries = [] := List.map_eq_nil_iff.1 (List.eq_nil_iff_forall_not_mem.2 unnamed)
  exact nothing ▸ .blank given

theorem Agrees.keep {kept : List String} (agrees : Agrees given old)
    (before : kept = names (entriesOf old) ∨ kept = []) (mem : ∀ key, key ∈ names entries ↔ key ∈ kept) :
    Agrees given (some (.table entries)) := by
  by_cases bare : kept = []
  · exact .of_unnamed given fun key member => absurd ((mem key).1 member) (bare ▸ List.not_mem_nil)
  · obtain rfl := before.resolve_right bare
    cases agrees with
    | table filled once within => exact .table filled once fun key member => (mem key).2 (within member)
    | plain plain => exact absurd (congrArg names (entries_eq_nil plain)) bare
    | nothing => exact absurd rfl bare
    | blank => exact absurd rfl bare

theorem Agrees.cover (agrees : Agrees given old) (covers : Covers old alone final) :
    Agrees ((says? alone).or given) final := by
  cases covers with
  | unset => exact agrees
  | @plain tree plain =>
    have said : says? (some tree) = some tree := by
      cases tree with
      | table held => contradiction
      | _ => rfl
    rw [said]
    exact .plain plain
  | @table held new kept before distinct mem =>
    cases held with
    | nil => exact agrees.keep before fun key => (mem key).trans (or_iff_left List.not_mem_nil)
    | cons entry rest => exact .table (List.cons_ne_nil entry rest) distinct fun key member => (mem key).2 (.inr member)

end Tree

namespace Merger

open Settings.Tree

variable (merger : Merger) {group : String} {entries : List (String × Tree)} {layers : List (List (String × Tree))}

def stack (layers : List (List (String × Tree))) : Tree :=
  layers.foldr (fun entries base => merger.lay base entries) .empty

theorem isTable_stack (layers : List (List (String × Tree))) : (merger.stack layers).isTable = true := by
  induction layers with
  | nil => rfl
  | cons entries rest ih => exact merger.isTable_lay entries ih

theorem stack_joins (member : group ∈ groups) (fine : merger.Orderly entries) :
    Joins ((merger.stack layers).under? group) ((merger.lay .empty entries).under? group)
      ((merger.stack (entries :: layers)).under? group) :=
  merger.joins_lay member fine .unset

theorem stack_grouped (member : group ∈ groups) (fine : ∀ entries ∈ layers, merger.Orderly entries) :
    Grouped ((merger.stack layers).under? group) := by
  induction layers with
  | nil => exact nofun
  | cons entries rest ih =>
    obtain ⟨first, later⟩ := List.forall_mem_cons.1 fine
    exact (merger.stack_joins member first).grouped (ih later)

theorem stack_agrees (member : group ∈ groups) (name : String) (fine : ∀ entries ∈ layers, merger.Orderly entries) :
    Agrees (layers.findSome? fun entries => says? ((merger.lay .empty entries).at? group name))
      ((merger.stack layers).at? group name) := by
  induction layers with
  | nil => exact .nothing
  | cons entries rest ih =>
    obtain ⟨first, later⟩ := List.forall_mem_cons.1 fine
    have agrees := (ih later).cover ((merger.stack_joins member first).covers name)
    rw [List.findSome?_cons]
    cases said : says? ((merger.lay .empty entries).at? group name) with
    | none =>
      rw [said, Option.none_or] at agrees
      exact agrees
    | some tree =>
      rw [said, Option.some_or] at agrees
      exact agrees

end Merger

end SharedRecords.Settings
