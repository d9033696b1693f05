import SharedRecords.Proofs.Region.Pool

/-!
The extent of a region. Whoever maps the cell of a region that was allocated sees as many bytes of it as
it was allocated with, and a region that was taken back is not found any more.
-/

namespace SharedRecords.Region.Pool

variable {pool later : Pool} {handle : Handle} {capacity : Nat} {window found : Window} {mapping : Mapping}

/-! ## Taking back -/

theorem release_of_located (located : pool.locate handle = .ok window) :
    (pool.release handle).1 = .ok () ∧ (pool.release handle).2.locate handle = .error (.unknownRegion handle) := by
  unfold locate at located
  split at located
  next limit number backing =>
    split at located
    next found =>
      unfold release
      simp only [backing, found, true_and]
      have gone : (pool.live.filter (·.1 != number)).find? (·.1 == number) = none := by
        rw [List.find?_eq_none]
        intro entry member
        have other := (List.mem_filter.mp member).2
        simpa using other
      unfold locate window?
      simp only [gone, Option.map_none]
    next => contradiction
  next root path backing =>
    split at located
    next key found place =>
      unfold release
      simp only [backing, place, true_and]
      unfold locate
      simp only [Volume.place_remove_self place nofun]
    all_goals contradiction
  next => contradiction

theorem locate_setMemory (pool : Pool) (memory : Memory) : (pool.setMemory memory).locate = pool.locate := rfl

/-! ## Mapping what was allocated -/

theorem allocateMapped_granted (sound : pool.Sound) (given : pool.allocateMapped capacity = (.ok mapping, later)) :
    mapping.toWindow = ⟨pool.memory.next, capacity⟩ ∧ pool.Granted later mapping.handle capacity := by
  unfold allocateMapped at given
  rcases allocated : pool.allocate capacity with ⟨error | region, between⟩
  · rw [allocated] at given
    cases congrArg Prod.fst given
  · rw [allocated] at given
    have granted := allocate_granted sound allocated
    dsimp only at given
    rcases mapped : between.map region with ⟨error | view, last⟩
    · rw [mapped] at given
      cases congrArg Prod.fst given
    · rw [mapped] at given
      obtain ⟨⟨seen, located, rfl⟩, verdicts, rfl⟩ := map_eq mapped
      obtain ⟨same, rfl⟩ := Prod.mk.inj given
      obtain rfl := Except.ok.inj same
      obtain rfl := Except.ok.inj (granted.located.symm.trans located)
      exact ⟨rfl, granted.located, granted.kept, granted.memory, granted.countable⟩

theorem cell_allocate {index : Nat} (inside : index < pool.memory.next) (capacity : Nat) :
    (pool.allocate capacity).2.memory.cell index = pool.memory.cell index := by
  have granted (asked : Pool) (same : asked.memory = pool.memory) :
      (asked.grant capacity).2.memory.cell index = pool.memory.cell index := by
    have added : (asked.memory.add .blank).cell index = pool.memory.cell index := by
      rw [Memory.cell_add_of_lt (same ▸ inside), same]
    unfold grant
    dsimp only
    split
    · exact added
    · split
      · exact added
      all_goals rw [same]
  unfold allocate
  split
  · rfl
  · have same := pool.memory_ask
    generalize pool.ask = attempt at same
    obtain ⟨_ | error, asked⟩ := attempt
    · dsimp only at same ⊢
      split
      · rw [same]
      · exact granted asked same
    · exact congrArg (·.cell index) same

theorem memory_allocateMapped (pool : Pool) (capacity : Nat) :
    (pool.allocateMapped capacity).2.memory = (pool.allocate capacity).2.memory := by
  unfold allocateMapped
  generalize pool.allocate capacity = attempt
  obtain ⟨_ | region, between⟩ := attempt
  · rfl
  · have same := between.memory_map region
    dsimp only
    generalize between.map region = attempt at same
    obtain ⟨_ | view, last⟩ := attempt
    · exact (memory_release _ _).trans same
    · exact same

theorem Sound.allocateMapped (sound : pool.Sound) (capacity : Nat) : (pool.allocateMapped capacity).2.Sound := by
  have allocated := sound.allocate capacity
  unfold Pool.allocateMapped
  generalize pool.allocate capacity = attempt at allocated
  obtain ⟨_ | region, between⟩ := attempt
  · exact allocated
  · have mapped := Sound.map allocated region
    dsimp only at mapped ⊢
    generalize between.map region = attempt at mapped
    obtain ⟨_ | view, last⟩ := attempt
    · exact Sound.release mapped region
    · exact mapped

/-! ## What lies on one cell -/

/-- Whatever lies on the cell of the window is seen through this window. -/
structure Sized (pool : Pool) (window : Window) : Prop where
  live : ∀ entry ∈ pool.live, entry.2.index = window.index → entry.2 = window
  filed : ∀ key held, pool.volume.nodes.find? key = some (.file held) → held.index = window.index → held = window

/-- The regions of a pool are those of another one, or lie on the window. -/
structure Gains (pool later : Pool) (window : Window) : Prop where
  live : ∀ entry ∈ later.live, entry ∈ pool.live ∨ entry.2 = window
  filed : ∀ key held, later.volume.nodes.find? key = some (.file held) →
    pool.volume.nodes.find? key = some (.file held) ∨ held = window

theorem grant_gains (pool : Pool) (capacity : Nat) :
    pool.Gains (pool.grant capacity).2 ⟨pool.memory.next, capacity⟩ := by
  have same : pool.Gains pool ⟨pool.memory.next, capacity⟩ :=
    ⟨fun _ member => .inl member, fun _ _ filed => .inl filed⟩
  unfold grant
  dsimp only
  split
  · constructor
    · intro entry member
      exact (List.mem_append.mp member).imp_right fun new => congrArg Prod.snd (List.mem_singleton.mp new)
    · exact fun _ _ filed => .inl filed
  · split
    next key _ =>
      constructor
      · exact fun _ member => .inl member
      · intro other held filed
        change (pool.volume.nodes.insert key _).find? other = some _ at filed
        rw [KeyMap.find?_insert] at filed
        by_cases here : other = key
        · rw [if_pos here] at filed
          exact .inr (Node.file.inj (Option.some.inj filed)).symm
        · rw [if_neg here] at filed
          exact .inl filed
    all_goals exact same

theorem allocate_gains (pool : Pool) (capacity : Nat) :
    pool.Gains (pool.allocate capacity).2 ⟨pool.memory.next, capacity⟩ := by
  unfold allocate
  split
  · exact ⟨fun _ member => .inl member, fun _ _ filed => .inl filed⟩
  · rcases asked : pool.ask with ⟨verdict, between⟩
    obtain ⟨verdicts, rfl⟩ := ask_eq asked
    have same : pool.Gains { pool with verdicts } ⟨pool.memory.next, capacity⟩ :=
      ⟨fun _ member => .inl member, fun _ _ filed => .inl filed⟩
    cases verdict with
    | some error => exact same
    | none =>
      dsimp only
      split
      · exact same
      · obtain ⟨live, filed⟩ := grant_gains { pool with verdicts } capacity
        exact ⟨live, filed⟩

namespace Sized

theorem locate (sized : pool.Sized window) (located : pool.locate handle = .ok found)
    (here : found.index = window.index) : found = window := by
  unfold Pool.locate at located
  split at located
  · split at located
    next held =>
      obtain rfl := Except.ok.inj located
      obtain ⟨entry, member, rfl⟩ := Option.map_eq_some_iff.mp held
      exact sized.live entry (List.mem_of_find?_eq_some member) here
    next => contradiction
  · split at located
    next place =>
      split at located
      · contradiction
      · obtain rfl := Except.ok.inj located
        exact sized.filed _ _ (Volume.find?_of_place place nofun) here
    all_goals contradiction
  · contradiction

theorem setMemory (sized : pool.Sized window) (memory : Memory) : (pool.setMemory memory).Sized window :=
  ⟨sized.live, sized.filed⟩

theorem setVerdicts (sized : pool.Sized window) (verdicts : List (Option Error)) :
    Sized { pool with verdicts } window :=
  ⟨sized.live, sized.filed⟩

theorem map (sized : pool.Sized window) (handle : Handle) : (pool.map handle).2.Sized window := by
  unfold Pool.map
  split
  · exact sized
  · rcases asked : pool.ask with ⟨verdict, between⟩
    obtain ⟨verdicts, rfl⟩ := ask_eq asked
    cases verdict with
    | some error => exact sized.setVerdicts verdicts
    | none => exact sized.setVerdicts verdicts

theorem gains (sized : pool.Sized window) (gains : pool.Gains later found) (apart : found.index ≠ window.index) :
    later.Sized window := by
  constructor
  · intro entry member here
    rcases gains.live entry member with old | rfl
    · exact sized.live entry old here
    · exact absurd here apart
  · intro key held filed here
    rcases gains.filed key held filed with old | rfl
    · exact sized.filed key held old here
    · exact absurd here apart

theorem of_gains (sound : pool.Sound) (gains : pool.Gains later ⟨pool.memory.next, capacity⟩) :
    later.Sized ⟨pool.memory.next, capacity⟩ := by
  constructor
  · intro entry member here
    rcases gains.live entry member with old | new
    · exact absurd here (Nat.ne_of_lt (sound.placed entry old))
    · exact new
  · intro key held filed here
    rcases gains.filed key held filed with old | new
    · exact absurd here (Nat.ne_of_lt (sound.filed key held old))
    · exact new

theorem release (sized : pool.Sized window) (handle : Handle) : (pool.release handle).2.Sized window := by
  have removed (key : String) : Sized { pool with volume := pool.volume.remove key } window := by
    refine ⟨sized.live, fun other held filed here => ?_⟩
    change (pool.volume.nodes.erase key).find? other = some _ at filed
    rw [KeyMap.find?_erase] at filed
    by_cases same : other = key
    · rw [if_pos same] at filed
      contradiction
    · rw [if_neg same] at filed
      exact sized.filed other held filed here
  unfold Pool.release
  split
  · split
    · exact ⟨fun entry member => sized.live entry (List.mem_filter.mp member).1, sized.filed⟩
    · exact sized
  · split
    · exact removed _
    · exact removed _
    all_goals exact sized
  · exact sized

theorem allocate (sized : pool.Sized window) (inside : window.index < pool.memory.next) (capacity : Nat) :
    (pool.allocate capacity).2.Sized window :=
  sized.gains (pool.allocate_gains capacity) (Nat.ne_of_gt inside)

theorem of_allocate (sized : (pool.allocate capacity).2.Sized window) :
    (pool.allocateMapped capacity).2.Sized window := by
  unfold Pool.allocateMapped
  generalize pool.allocate capacity = attempt at sized
  obtain ⟨_ | region, between⟩ := attempt
  · exact sized
  · have mapped := Sized.map sized region
    dsimp only at mapped ⊢
    generalize between.map region = attempt at mapped
    obtain ⟨_ | view, last⟩ := attempt
    · exact Sized.release mapped region
    · exact mapped

theorem allocateMapped (sized : pool.Sized window) (inside : window.index < pool.memory.next) (capacity : Nat) :
    (pool.allocateMapped capacity).2.Sized window :=
  (sized.allocate inside capacity).of_allocate

end Sized

theorem allocateMapped_sized (sound : pool.Sound) (capacity : Nat) :
    (pool.allocateMapped capacity).2.Sized ⟨pool.memory.next, capacity⟩ :=
  (Sized.of_gains sound (pool.allocate_gains capacity)).of_allocate

end SharedRecords.Region.Pool
