/-!
Finite maps keyed by text, kept in key order. Two maps with the same entries are equal, and
looking a key up after a write or a removal gives what was written or nothing.
-/

namespace SharedRecords

/-- Entries in strictly ascending key order. -/
structure KeyMap (α : Type) where
  entries : List (String × α)
  ordered : entries.Pairwise (fun first second => first.1 < second.1) := by simp

namespace KeyMap

variable {α : Type}

def empty : KeyMap α := ⟨[], by simp⟩

instance : Inhabited (KeyMap α) := ⟨empty⟩

def size (map : KeyMap α) : Nat := map.entries.length

def keys (map : KeyMap α) : List String := map.entries.map (·.1)

def find? (map : KeyMap α) (key : String) : Option α :=
  (map.entries.find? (·.1 == key)).map (·.2)

def contains (map : KeyMap α) (key : String) : Bool := (map.find? key).isSome

/-- Puts an entry before the first greater key, in place of an equal one. -/
def place (key : String) (value : α) : List (String × α) → List (String × α)
  | [] => [(key, value)]
  | (other, held) :: rest =>
    if key < other then (key, value) :: (other, held) :: rest
    else if key = other then (key, value) :: rest
    else (other, held) :: place key value rest

theorem mem_place {key : String} {value : α} {entries : List (String × α)} {entry : String × α}
    (member : entry ∈ place key value entries) : entry = (key, value) ∨ entry ∈ entries := by
  induction entries with
  | nil => simpa [place] using member
  | cons first rest ih =>
    unfold place at member
    split at member
    · simpa using member
    · split at member
      · rcases List.mem_cons.mp member with same | inside
        · exact .inl same
        · exact .inr (List.mem_cons_of_mem _ inside)
      · rcases List.mem_cons.mp member with same | inside
        · exact .inr (same ▸ List.mem_cons_self)
        · exact (ih inside).imp_right (List.mem_cons_of_mem _)

theorem place_ordered (key : String) (value : α) {entries : List (String × α)}
    (ordered : entries.Pairwise (fun first second => first.1 < second.1)) :
    (place key value entries).Pairwise (fun first second => first.1 < second.1) := by
  induction entries with
  | nil => simp [place]
  | cons first rest ih =>
    obtain ⟨below, later⟩ := List.pairwise_cons.mp ordered
    unfold place
    split
    next less =>
      refine List.pairwise_cons.mpr ⟨fun entry member => ?_, ordered⟩
      rcases List.mem_cons.mp member with same | inside
      · exact same ▸ less
      · exact String.lt_trans less (below entry inside)
    next notLess =>
      split
      next same =>
        exact List.pairwise_cons.mpr ⟨fun entry member => same ▸ below entry member, later⟩
      next different =>
        refine List.pairwise_cons.mpr ⟨fun entry member => ?_, ih later⟩
        rcases mem_place member with same | inside
        · subst same
          exact String.not_le.mp fun le => different (String.le_antisymm le (String.not_lt.mp notLess))
        · exact below entry inside

def insert (map : KeyMap α) (key : String) (value : α) : KeyMap α :=
  ⟨place key value map.entries, place_ordered key value map.ordered⟩

def erase (map : KeyMap α) (key : String) : KeyMap α :=
  ⟨map.entries.filter (·.1 != key), map.ordered.filter _⟩

def startingAt (map : KeyMap α) (start : String) : List (String × α) :=
  map.entries.dropWhile (·.1 < start)

theorem find?_place (key other : String) (value : α) (entries : List (String × α)) :
    ((place key value entries).find? (·.1 == other)).map (·.2) =
      if other = key then some value else (entries.find? (·.1 == other)).map (·.2) := by
  induction entries with
  | nil =>
    by_cases same : other = key
    · simp [place, same]
    · simp [place, same, Ne.symm same]
  | cons first rest ih =>
    unfold place
    split
    next less =>
      by_cases same : other = key
      · simp [same]
      · simp [same, Ne.symm same]
    next notLess =>
      split
      next equal =>
        by_cases same : other = key
        · simp [same]
        · have apart : ¬ first.1 = other := fun eq => same (eq.symm.trans equal.symm)
          simp [same, Ne.symm same, apart]
      next different =>
        by_cases here : first.1 = other
        · have apart : ¬ other = key := fun eq => different (eq.symm.trans here.symm)
          simp [here, apart]
        · simp [here, ih]

theorem find?_insert (map : KeyMap α) (key other : String) (value : α) :
    (map.insert key value).find? other = if other = key then some value else map.find? other :=
  find?_place key other value map.entries

theorem find?_erase (map : KeyMap α) (key other : String) :
    (map.erase key).find? other = if other = key then none else map.find? other := by
  by_cases same : other = key
  · subst same
    simp [find?, erase, List.find?_filter]
  · have predicate :
        (fun entry : String × α => decide ((entry.1 != key) = true ∧ (entry.1 == other) = true)) =
          fun entry => entry.1 == other := by
      funext entry
      by_cases hit : entry.1 = other
      · simp [hit, same]
      · simp [hit]
    rw [if_neg same, find?, find?, erase, List.find?_filter, predicate]

end KeyMap

end SharedRecords
