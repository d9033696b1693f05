import SharedRecords.Proofs.Region.Volume
import SharedRecords.Region.Pool

/-!
What a pool hands out. A region that was allocated is found under its handle, on a cell of its own, and
regions handed out before keep theirs.
-/

namespace SharedRecords.Region.Pool

variable {pool later : Pool} {handle : Handle} {capacity : Nat} {memory : Memory}

/-- Numbers are not handed out before their time, regions lie on cells that are there, and the platform
can count their bytes. -/
structure Sound (pool : Pool) : Prop where
  numbered : ∀ entry ∈ pool.live, entry.1 ≤ pool.issued
  placed : ∀ entry ∈ pool.live, entry.2.index < pool.memory.next
  filed : ∀ key window, pool.volume.nodes.find? key = some (.file window) → window.index < pool.memory.next
  countable : pool.largest < UInt64.size

theorem Sound.setVerdicts (sound : pool.Sound) (verdicts : List (Option Error)) : Sound { pool with verdicts } :=
  ⟨sound.numbered, sound.placed, sound.filed, sound.countable⟩

structure Granted (pool later : Pool) (handle : Handle) (capacity : Nat) : Prop where
  located : later.locate handle = .ok ⟨pool.memory.next, capacity⟩
  kept : ∀ old window, pool.locate old = .ok window → later.locate old = .ok window
  memory : later.memory = pool.memory.add .blank
  countable : capacity < UInt64.size

/-! ## Looking regions up -/

theorem window?_append (live : List (Nat × Window)) (entry : Nat × Window) (number : Nat) :
    ((live ++ [entry]).find? (·.1 == number)).map (·.2) =
      ((live.find? (·.1 == number)).map (·.2)).or (if entry.1 = number then some entry.2 else none) := by
  rw [List.find?_append]
  cases live.find? (·.1 == number) with
  | some found => rfl
  | none =>
    by_cases same : entry.1 = number
    · simp [same]
    · simp [same]

theorem window?_issued (sound : pool.Sound) : pool.window? (pool.issued + 1) = none := by
  unfold window?
  rw [Option.map_eq_none_iff, List.find?_eq_none]
  intro entry member
  have early := sound.numbered entry member
  rw [beq_iff_eq]
  omega

theorem locate_inside {window : Window} (sound : pool.Sound) (located : pool.locate handle = .ok window) :
    window.index < pool.memory.next := by
  unfold locate at located
  split at located
  · split at located
    next found =>
      rw [Except.ok.inj located] at found
      obtain ⟨entry, member, same⟩ := Option.map_eq_some_iff.1 found
      rw [← same]
      exact sound.placed entry (List.mem_of_find?_eq_some member)
    next => contradiction
  · split at located
    next found =>
      split at located
      · contradiction
      · rw [Except.ok.inj located] at found
        exact sound.filed _ _ (Volume.find?_of_place found nofun)
    all_goals contradiction
  · contradiction

/-! ## Handing regions out -/

theorem ask_eq {verdict : Option Error} (asked : pool.ask = (verdict, later)) :
    ∃ verdicts, later = { pool with verdicts } := by
  unfold ask at asked
  cases verdicts : pool.verdicts with
  | nil =>
    rw [verdicts] at asked
    exact ⟨pool.verdicts, (congrArg Prod.snd asked).symm⟩
  | cons first rest =>
    rw [verdicts] at asked
    exact ⟨rest, (congrArg Prod.snd asked).symm⟩

theorem locate_put {root path key : String} {window : Window} (folder : later.backing = .folder root)
    (vacant : pool.volume.place path = .vacant key) (least : minimumCapacity ≤ window.capacity)
    (volume : later.volume = pool.volume.put key (.file window)) : later.locate (.file path) = .ok window := by
  unfold locate
  rw [folder, volume]
  dsimp only
  rw [Volume.place_put_of_vacant _ vacant]
  dsimp only
  rw [if_neg (Nat.not_lt.2 least)]

theorem locate_put_of_ok {root path key : String} {node : Node} {old : Handle} {window : Window}
    (before : pool.backing = .folder root) (folder : later.backing = .folder root)
    (vacant : pool.volume.place path = .vacant key) (volume : later.volume = pool.volume.put key node)
    (located : pool.locate old = .ok window) : later.locate old = .ok window := by
  unfold locate at located ⊢
  rw [before] at located
  rw [folder, volume]
  cases old with
  | anonymous number => contradiction
  | file path =>
    dsimp only at located ⊢
    cases place : pool.volume.place path with
    | found old held =>
      rw [place] at located
      rw [Volume.place_put_of_found (Volume.find?_of_place_vacant vacant) _ place]
      exact located
    | vacant | missing | obstructed =>
      rw [place] at located
      contradiction

theorem grant_granted (sound : pool.Sound) (least : minimumCapacity ≤ capacity) (most : capacity ≤ pool.largest)
    (given : pool.grant capacity = (.ok handle, later)) : pool.Granted later handle capacity := by
  have countable := Nat.lt_of_le_of_lt most sound.countable
  unfold grant at given
  dsimp only at given
  cases backing : pool.backing with
  | anonymous limit =>
    rw [backing] at given
    obtain ⟨same, rfl⟩ := Prod.mk.inj given
    obtain rfl := Except.ok.inj same
    refine ⟨?_, ?_, rfl, countable⟩
    · unfold locate
      dsimp only
      rw [window?, window?_append, ← window?, window?_issued sound]
      simp
    · intro old window located
      unfold locate at located ⊢
      rw [backing] at located
      cases old with
      | file path => contradiction
      | anonymous number =>
        dsimp only at located ⊢
        rw [window?, window?_append, ← window?]
        cases found : pool.window? number with
        | none =>
          rw [found] at located
          contradiction
        | some _ =>
          rw [found] at located
          exact located
  | folder root =>
    rw [backing] at given
    dsimp only at given
    cases place : pool.volume.place (Text.Path.join root (fileName (pool.issued + 1))) with
    | vacant key =>
      rw [place] at given
      obtain ⟨same, rfl⟩ := Prod.mk.inj given
      obtain rfl := Except.ok.inj same
      refine ⟨?_, ?_, rfl, countable⟩
      · exact locate_put rfl place least rfl
      · intro old window located
        exact locate_put_of_ok backing rfl place rfl located
    | found | missing | obstructed =>
      rw [place] at given
      cases congrArg Prod.fst given

theorem allocate_granted (sound : pool.Sound) (given : pool.allocate capacity = (.ok handle, later)) :
    pool.Granted later handle capacity := by
  unfold allocate at given
  cases refused : pool.refusal capacity with
  | some error =>
    rw [refused] at given
    cases congrArg Prod.fst given
  | none =>
    rw [refused] at given
    have least : minimumCapacity ≤ capacity := by
      unfold refusal at refused
      by_cases small : capacity < minimumCapacity
      · rw [if_pos small] at refused
        contradiction
      · exact Nat.le_of_not_lt small
    rcases asked : pool.ask with ⟨verdict, between⟩
    obtain ⟨verdicts, rfl⟩ := ask_eq asked
    rw [asked] at given
    cases verdict with
    | some error => cases congrArg Prod.fst given
    | none =>
      dsimp only at given
      by_cases large : pool.largest < capacity
      · rw [if_pos large] at given
        cases congrArg Prod.fst given
      · rw [if_neg large] at given
        have still := sound.setVerdicts verdicts
        obtain ⟨located, kept, memory, countable⟩ := grant_granted still least (Nat.le_of_not_lt large) given
        exact ⟨located, kept, memory, countable⟩

theorem map_eq {mapping : Mapping} (mapped : pool.map handle = (.ok mapping, later)) :
    (∃ window, pool.locate handle = .ok window ∧ mapping = { window with handle }) ∧
      ∃ verdicts, later = { pool with verdicts } := by
  unfold map at mapped
  cases located : pool.locate handle with
  | error error =>
    rw [located] at mapped
    cases congrArg Prod.fst mapped
  | ok window =>
    rw [located] at mapped
    rcases asked : pool.ask with ⟨verdict, between⟩
    rw [asked] at mapped
    cases verdict with
    | some error => cases congrArg Prod.fst mapped
    | none =>
      obtain ⟨same, rfl⟩ := Prod.mk.inj mapped
      exact ⟨⟨window, rfl, (Except.ok.inj same).symm⟩, ask_eq asked⟩

/-! ## Soundness is kept -/

namespace Sound

variable (sound : pool.Sound)
include sound

theorem setMemory (next : memory.next = pool.memory.next) : (pool.setMemory memory).Sound where
  numbered := sound.numbered
  placed := by
    intro entry member
    show entry.2.index < memory.next
    rw [next]
    exact sound.placed entry member
  filed := by
    intro key window found
    show window.index < memory.next
    rw [next]
    exact sound.filed key window found
  countable := sound.countable

theorem ask : pool.ask.2.Sound := by
  obtain ⟨verdicts, same⟩ := ask_eq (show pool.ask = (pool.ask.1, pool.ask.2) from rfl)
  rw [same]
  exact sound.setVerdicts verdicts

theorem map (handle : Handle) : (pool.map handle).2.Sound := by
  unfold Pool.map
  split
  · exact sound
  · have asked := sound.ask
    split
    next same =>
      rw [same] at asked
      exact asked
    next same =>
      rw [same] at asked
      exact asked

theorem addFile (key : String) (content : Cell) (capacity issued : Nat) (later : pool.issued ≤ issued) :
    Sound { pool with
      memory := pool.memory.add content
      volume := pool.volume.put key (.file ⟨pool.memory.next, capacity⟩)
      issued } where
  numbered entry member := Nat.le_trans (sound.numbered entry member) later
  placed := by
    intro entry member
    show entry.2.index < (pool.memory.add content).next
    rw [Memory.next_add]
    exact Nat.lt_succ_of_lt (sound.placed entry member)
  filed := by
    intro other window found
    show window.index < (pool.memory.add content).next
    change (pool.volume.nodes.insert key _).find? other = some _ at found
    rw [Memory.next_add]
    rw [KeyMap.find?_insert] at found
    by_cases same : other = key
    · rw [if_pos same] at found
      obtain rfl := Node.file.inj (Option.some.inj found)
      exact Nat.lt_succ_self _
    · rw [if_neg same] at found
      exact Nat.lt_succ_of_lt (sound.filed other window found)
  countable := sound.countable

theorem grant (capacity : Nat) : (pool.grant capacity).2.Sound := by
  unfold Pool.grant
  dsimp only
  split
  · constructor
    · intro entry member
      rcases List.mem_append.1 member with old | new
      · exact Nat.le_succ_of_le (sound.numbered entry old)
      · obtain rfl := List.mem_singleton.1 new
        exact Nat.le_refl _
    · intro entry member
      show entry.2.index < (pool.memory.add .blank).next
      rw [Memory.next_add]
      rcases List.mem_append.1 member with old | new
      · exact Nat.lt_succ_of_lt (sound.placed entry old)
      · rw [List.mem_singleton.1 new]
        exact Nat.lt_succ_self _
    · intro key window found
      show window.index < (pool.memory.add .blank).next
      rw [Memory.next_add]
      exact Nat.lt_succ_of_lt (sound.filed key window found)
    · exact sound.countable
  · split
    · exact sound.addFile _ .blank capacity _ (Nat.le_succ _)
    · exact sound
    · exact sound
    · exact sound

theorem allocate (capacity : Nat) : (pool.allocate capacity).2.Sound := by
  unfold Pool.allocate
  have asked := sound.ask
  split
  · exact sound
  · split
    next same =>
      rw [same] at asked
      exact asked
    next same =>
      rw [same] at asked
      split
      · exact asked
      · exact asked.grant capacity

theorem removeFile (key : String) : Sound { pool with volume := pool.volume.remove key } where
  numbered := sound.numbered
  placed := sound.placed
  filed := by
    intro other window found
    change (pool.volume.nodes.erase key).find? other = some _ at found
    rw [KeyMap.find?_erase] at found
    by_cases same : other = key
    · rw [if_pos same] at found
      contradiction
    · rw [if_neg same] at found
      exact sound.filed other window found
  countable := sound.countable

theorem release (handle : Handle) : (pool.release handle).2.Sound := by
  unfold Pool.release
  split
  · split
    · constructor
      · intro entry member
        exact sound.numbered entry (List.mem_filter.1 member).1
      · intro entry member
        exact sound.placed entry (List.mem_filter.1 member).1
      · exact sound.filed
      · exact sound.countable
    · exact sound
  · split
    · exact sound.removeFile _
    · exact sound.removeFile _
    · exact sound
    · exact sound
    · exact sound
    · exact sound
  · exact sound

theorem writeFile {path : String} {bytes : List UInt8} (written : pool.writeFile path bytes = .ok later) :
    later.Sound := by
  unfold Pool.writeFile at written
  split at written
  next key window place =>
    obtain rfl := Except.ok.inj written
    have inside := sound.filed key window (Volume.find?_of_place place nofun)
    constructor
    · exact sound.numbered
    · intro entry member
      show entry.2.index < (pool.memory.change window.index _).next
      rw [Memory.next_change]
      exact sound.placed entry member
    · intro other found held
      show found.index < (pool.memory.change window.index _).next
      change (pool.volume.nodes.insert key _).find? other = some _ at held
      rw [Memory.next_change]
      rw [KeyMap.find?_insert] at held
      by_cases same : other = key
      · rw [if_pos same] at held
        obtain rfl := Node.file.inj (Option.some.inj held)
        exact inside
      · rw [if_neg same] at held
        exact sound.filed other found held
    · exact sound.countable
  next key place =>
    obtain rfl := Except.ok.inj written
    exact sound.addFile key (.ofBytes bytes) bytes.length pool.issued (Nat.le_refl _)
  next => exact Except.ok.inj written ▸ sound
  all_goals contradiction

end Sound

/-! ## Pools to begin with -/

def Bare (volume : Volume) : Prop := ∀ key window, volume.nodes.find? key ≠ some (.file window)

theorem addressable_lt : addressable < UInt64.size := by decide

theorem anonymous_sound {volume : Volume} (bare : Bare volume) (limit : Option Nat) :
    (anonymous volume limit).Sound where
  numbered := nofun
  placed := nofun
  filed key window found := absurd found (bare key window)
  countable := addressable_lt

theorem makeFolders_bare {volume made : Volume} {trail names : List String} (bare : Bare volume)
    (done : volume.makeFolders trail names = some made) : Bare made := by
  induction names generalizing volume trail with
  | nil => exact Option.some.inj done ▸ bare
  | cons name rest ih =>
    unfold Volume.makeFolders at done
    split at done
    · exact ih bare done
    · split at done
      · exact ih bare done
      · split at done
        · split at done
          · contradiction
          · contradiction
          · exact ih bare done
          · refine ih ?_ done
            intro key window found
            change (volume.nodes.insert _ _).find? key = _ at found
            rw [KeyMap.find?_insert] at found
            split at found
            · cases Option.some.inj found
            · exact bare key window found
        · contradiction

theorem inFolder_sound {volume : Volume} {path : String} (bare : Bare volume)
    (made : inFolder volume path = .ok pool) : pool.Sound := by
  unfold inFolder at made
  split at made
  next folder done =>
    obtain rfl := Except.ok.inj made
    have still : Bare folder := by
      unfold Volume.makeFolder at done
      split at done
      · exact makeFolders_bare bare done
      · contradiction
    exact ⟨nofun, nofun, fun key window found => absurd found (still key window), addressable_lt⟩
  next => contradiction

/-! ## Cells are never taken away -/

theorem memory_ask (pool : Pool) : pool.ask.2.memory = pool.memory := by
  obtain ⟨verdicts, same⟩ := ask_eq (show pool.ask = (pool.ask.1, pool.ask.2) from rfl)
  rw [same]

theorem memory_map (pool : Pool) (handle : Handle) : (pool.map handle).2.memory = pool.memory := by
  have asked := pool.memory_ask
  unfold map
  split
  · rfl
  · split
    next same =>
      rw [same] at asked
      exact asked
    next same =>
      rw [same] at asked
      exact asked

@[simp] theorem memory_release (pool : Pool) (handle : Handle) : (pool.release handle).2.memory = pool.memory := by
  unfold release
  split
  · split <;> rfl
  · split <;> rfl
  · rfl

theorem next_grant (pool : Pool) (capacity : Nat) : pool.memory.next ≤ (pool.grant capacity).2.memory.next := by
  have more : pool.memory.next ≤ (pool.memory.add .blank).next := by
    rw [Memory.next_add]
    exact Nat.le_succ _
  unfold grant
  dsimp only
  split
  · exact more
  · split
    · exact more
    · exact Nat.le_refl _
    · exact Nat.le_refl _
    · exact Nat.le_refl _

theorem next_allocate (pool : Pool) (capacity : Nat) :
    pool.memory.next ≤ (pool.allocate capacity).2.memory.next := by
  have asked := pool.memory_ask
  unfold allocate
  split
  · exact Nat.le_refl _
  · split
    next same =>
      rw [same] at asked
      exact Nat.le_of_eq (congrArg Memory.next asked.symm)
    next same =>
      rw [same] at asked
      rw [← asked]
      split
      · exact Nat.le_refl _
      · exact next_grant _ _

theorem next_writeFile {path : String} {bytes : List UInt8} (written : pool.writeFile path bytes = .ok later) :
    pool.memory.next ≤ later.memory.next := by
  unfold writeFile at written
  split at written
  next =>
    obtain rfl := Except.ok.inj written
    exact Nat.le_of_eq (Memory.next_change _ _ _).symm
  next =>
    obtain rfl := Except.ok.inj written
    show pool.memory.next ≤ (pool.memory.add _).next
    rw [Memory.next_add]
    exact Nat.le_succ _
  next => exact Nat.le_of_eq (congrArg (·.memory.next) (Except.ok.inj written))
  all_goals contradiction

end SharedRecords.Region.Pool
