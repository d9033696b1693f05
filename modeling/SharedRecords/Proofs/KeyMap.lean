import Mathlib.Data.Finset.Sort
import Mathlib.Data.String.Basic
import SharedRecords.KeyMap

/-!
What a map holds, seen through its keys: every entry is what its key is looked up as, and the
entries from a key on are found by sorting the keys that are not below it.
-/

namespace SharedRecords.KeyMap

variable {α β : Type}

theorem find?_empty (key : String) : (empty : KeyMap α).find? key = none := rfl

theorem find?_of_mem (map : KeyMap α) {entry : String × α} (member : entry ∈ map.entries) :
    map.find? entry.1 = some entry.2 := by
  obtain ⟨entries, ordered⟩ := map
  simp only [find?] at member ⊢
  induction entries with
  | nil => simp at member
  | cons first rest ih =>
    obtain ⟨below, later⟩ := List.pairwise_cons.mp ordered
    rcases List.mem_cons.mp member with same | inside
    · simp [same]
    · have apart : first.1 ≠ entry.1 := ne_of_lt (below entry inside)
      rw [List.find?_cons_of_neg (by simpa using apart)]
      exact ih later inside

theorem mem_of_find? {map : KeyMap α} {key : String} {value : α} (found : map.find? key = some value) :
    (key, value) ∈ map.entries := by
  obtain ⟨entry, located, same⟩ := Option.map_eq_some_iff.mp found
  have named : entry.1 = key := by simpa using List.find?_some located
  have member := List.mem_of_find?_eq_some located
  rw [← named, ← same]
  exact member

theorem contains_iff (map : KeyMap α) (key : String) :
    map.contains key = true ↔ map.find? key ≠ none := by
  rw [contains, Option.isSome_iff_ne_none]

theorem mem_startingAt (map : KeyMap α) (start : String) {entry : String × α} :
    entry ∈ map.startingAt start ↔ entry ∈ map.entries ∧ start ≤ entry.1 := by
  obtain ⟨entries, ordered⟩ := map
  simp only [startingAt]
  induction entries with
  | nil => simp
  | cons first rest ih =>
    obtain ⟨below, later⟩ := List.pairwise_cons.mp ordered
    by_cases less : first.1 < start
    · rw [List.dropWhile_cons_of_pos (by simpa using less), ih later, List.mem_cons]
      constructor
      · rintro ⟨member, reached⟩
        exact ⟨.inr member, reached⟩
      · rintro ⟨rfl | member, reached⟩
        · exact absurd less (not_lt.mpr reached)
        · exact ⟨member, reached⟩
    · rw [List.dropWhile_cons_of_neg (by simpa using less)]
      refine ⟨fun member => ⟨member, ?_⟩, And.left⟩
      have reached := not_lt.mp less
      rcases List.mem_cons.mp member with same | inside
      · exact same ▸ reached
      · exact reached.trans (below entry inside).le

theorem startingAt_ordered (map : KeyMap α) (start : String) :
    ((map.startingAt start).map (·.1)).Pairwise (· < ·) := by
  rw [List.pairwise_map]
  exact map.ordered.sublist (List.dropWhile_sublist _)

theorem keys_startingAt (map : KeyMap α) (start : String) {keys : Finset String}
    (same : ∀ key, key ∈ keys ↔ map.find? key ≠ none) :
    (map.startingAt start).map (·.1) = (keys.filter (start ≤ ·)).sort := by
  have ordered := map.startingAt_ordered start
  have set : keys.filter (start ≤ ·) = ((map.startingAt start).map (·.1)).toFinset := by
    ext key
    rw [Finset.mem_filter, same, List.mem_toFinset, List.mem_map]
    constructor
    · rintro ⟨held, reached⟩
      obtain ⟨value, found⟩ := Option.ne_none_iff_exists'.mp held
      exact ⟨(key, value), (map.mem_startingAt start).mpr ⟨mem_of_find? found, reached⟩, rfl⟩
    · rintro ⟨entry, member, rfl⟩
      obtain ⟨inside, reached⟩ := (map.mem_startingAt start).mp member
      rw [map.find?_of_mem inside]
      exact ⟨Option.some_ne_none _, reached⟩
  have nodup : ((map.startingAt start).map (·.1)).Nodup := ordered.imp fun less => less.ne
  rw [set]
  exact ((List.toFinset_sort (· ≤ ·) nodup).mpr (ordered.imp fun less => less.le)).symm

theorem size_insert (map : KeyMap α) (key : String) (value : α) :
    (map.insert key value).size = if map.contains key then map.size else map.size + 1 := by
  obtain ⟨entries, ordered⟩ := map
  simp only [size, insert, contains, find?, Option.isSome_map]
  induction entries with
  | nil => rfl
  | cons first rest ih =>
    obtain ⟨below, later⟩ := List.pairwise_cons.mp ordered
    unfold place
    split
    next less =>
      have missing : (first :: rest).find? (·.1 == key) = none := by
        rw [List.find?_eq_none]
        intro entry member
        have above : key < entry.1 := by
          rcases List.mem_cons.mp member with same | inside
          · exact same ▸ less
          · exact less.trans (below entry inside)
        simpa using above.ne'
      rw [missing]
      rfl
    next =>
      split
      next same => simp [same]
      next different =>
        rw [List.find?_cons_of_neg (by simpa using Ne.symm different), List.length_cons, List.length_cons, ih later]
        split <;> rfl

theorem map_entries_eq (map : KeyMap α) (use : α → β) {entries : List (String × α)}
    (held : ∀ entry ∈ entries, entry ∈ map.entries) :
    entries.map (fun entry => use entry.2) =
      (entries.map (·.1)).filterMap fun key => (map.find? key).map use := by
  induction entries with
  | nil => rfl
  | cons first rest ih =>
    have found := map.find?_of_mem (held first List.mem_cons_self)
    have later := ih fun entry member => held entry (List.mem_cons_of_mem _ member)
    rw [List.map_cons, List.map_cons, later, List.filterMap_cons_some (b := use first.2)]
    rw [found, Option.map_some]

theorem eq_of_find? {first second : KeyMap α} (same : ∀ key, first.find? key = second.find? key) :
    first = second := by
  have within {one other : KeyMap α} (alike : ∀ key, one.find? key = other.find? key) {entry : String × α}
      (member : entry ∈ one.entries) : entry ∈ other.entries :=
    mem_of_find? ((alike entry.1).symm.trans (one.find?_of_mem member))
  have distinct (map : KeyMap α) : map.entries.Nodup :=
    map.ordered.imp fun less equal => absurd (congrArg Prod.fst equal) (ne_of_lt less)
  have listed : first.entries = second.entries := by
    have permuted := (List.perm_ext_iff_of_nodup (distinct first) (distinct second)).mpr fun entry =>
      ⟨within same, within fun key => (same key).symm⟩
    exact permuted.eq_of_pairwise (fun _ _ _ _ less more => absurd less (lt_asymm more)) first.ordered
      second.ordered
  cases first
  cases second
  cases listed
  rfl

end SharedRecords.KeyMap
