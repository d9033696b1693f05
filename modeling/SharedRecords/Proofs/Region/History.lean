import SharedRecords.Proofs.Region.Spots
import SharedRecords.Proofs.Region.Touch

/-!
A pool of anonymous regions over everything it is ever used for. Handles are not repeated, what is granted
stays until it is released, and whoever mapped a region sees what was done to it through any mapping of the
same handle. The counter behind the handles has 64 bits, so this is said of fewer than `2 ^ 64` grants.
-/

namespace SharedRecords.Region.Pool

variable {start pool : Pool} {volume : Volume} {limit : Option Nat} {largest capacity most : Nat} {handle : Handle}

/-- One use of a pool, with what came of it. -/
inductive Use where
  | allocate (capacity : Nat) (result : Except Error Handle)
  | map (handle : Handle) (result : Except Error Mapping)
  | release (handle : Handle) (result : Except Error Unit)
  | touch (mapping : Mapping) (touch : Touch)

variable {log : List Use}

/-! ## What a log tells, the last use first -/

/-- The number that a region of this process is kept under, in the 64 bits that there are for it. -/
def key? : Handle → Option UInt64
  | .anonymous number => some (.ofNat number)
  | .file _ => none

def granted (log : List Use) : List Handle :=
  log.filterMap fun
    | .allocate _ (.ok handle) => some handle
    | _ => none

def returned (log : List Use) : List Handle :=
  log.filterMap fun
    | .release handle (.ok ()) => some handle
    | _ => none

def mappings (log : List Use) : List Mapping :=
  log.filterMap fun
    | .map _ (.ok mapping) => some mapping
    | _ => none

/-- The bytes of a region: zeros from the start, and then what was made of them through its mappings. -/
def content (handle : Handle) : List Use → List UInt8
  | [] => []
  | .allocate capacity (.ok given) :: past =>
    if given = handle then List.replicate capacity 0 else content handle past
  | .touch mapping touch :: past =>
    if mapping.handle = handle then touch.on (content handle past) else content handle past
  | _ :: past => content handle past

/-- A pool that was used, and how. The platform can place whatever it is asked for, and only what was mapped
is touched. -/
inductive Used (start : Pool) : List Use → Pool → Prop where
  | start : Used start [] start
  | allocate {log : List Use} {pool : Pool} (used : Used start log pool) (capacity : Nat)
      (placed : capacity ≤ pool.largest) :
      Used start (.allocate capacity (pool.allocate capacity).1 :: log) (pool.allocate capacity).2
  | map {log : List Use} {pool : Pool} (used : Used start log pool) (handle : Handle) :
      Used start (.map handle (pool.map handle).1 :: log) (pool.map handle).2
  | release {log : List Use} {pool : Pool} (used : Used start log pool) (handle : Handle) :
      Used start (.release handle (pool.release handle).1 :: log) (pool.release handle).2
  | touch {log : List Use} {pool : Pool} (used : Used start log pool) {mapping : Mapping}
      (mapped : mapping ∈ mappings log) (touch : Touch) :
      Used start (.touch mapping touch :: log) (pool.setMemory (touch.through mapping.toWindow pool.memory))

/-! ## Allocating where the platform grants everything -/

theorem allocate_small (small : capacity < minimumCapacity) (pool : Pool) :
    pool.allocate capacity = (.error (.capacityTooSmall capacity minimumCapacity), pool) := by
  rw [allocate, refusal, if_pos small]

theorem allocate_full (backing : pool.backing = .anonymous (some most)) (least : minimumCapacity ≤ capacity)
    (full : most ≤ pool.live.length) : pool.allocate capacity = (.error (.exhausted most), pool) := by
  rw [allocate, refusal, if_neg (Nat.not_lt.2 least), backing]
  dsimp only
  rw [if_pos full]

def HasRoom (pool : Pool) (limit : Option Nat) : Prop := ∀ most, limit = some most → pool.live.length < most

def grown (pool : Pool) (capacity : Nat) : Pool :=
  { pool with
    memory := pool.memory.add .blank
    live := pool.live ++ [(pool.issued + 1, ⟨pool.memory.next, capacity⟩)]
    issued := pool.issued + 1 }

theorem allocate_free (backing : pool.backing = .anonymous limit) (verdicts : pool.verdicts = [])
    (least : minimumCapacity ≤ capacity) (placed : capacity ≤ pool.largest) (free : pool.HasRoom limit) :
    pool.allocate capacity = (.ok (.anonymous (pool.issued + 1)), pool.grown capacity) := by
  have unrefused : pool.refusal capacity = none := by
    rw [refusal, if_neg (Nat.not_lt.2 least), backing]
    cases limit with
    | none => rfl
    | some most => exact if_neg (Nat.not_le.2 (free most rfl))
  have asked : pool.ask = (none, pool) := by rw [ask, verdicts]
  rw [allocate, unrefused, asked]
  dsimp only
  rw [if_neg (Nat.not_lt.2 placed), grant, grown]
  simp only [backing]

/-! ## Looking handles up -/

def standing (pool : Pool) : List Handle := pool.live.map fun entry => .anonymous entry.1

theorem standing_grown (pool : Pool) (capacity : Nat) :
    (pool.grown capacity).standing = pool.standing ++ [.anonymous (pool.issued + 1)] := by
  rw [standing, grown, List.map_append]
  rfl

theorem standing_filter {later : Pool} {number : Nat} (distinct : pool.standing.Nodup)
    (live : later.live = pool.live.filter (·.1 != number)) :
    later.standing = pool.standing.erase (.anonymous number) := by
  rw [distinct.erase_eq_filter, standing, standing, live, List.filter_map]
  congr 2
  funext entry
  simp [bne, beq_eq_decide]

theorem locate_of_standing (backing : pool.backing = .anonymous limit) (member : handle ∈ pool.standing) :
    ∃ number window, handle = .anonymous number ∧ (number, window) ∈ pool.live ∧
      pool.window? number = some window ∧ pool.locate handle = .ok window := by
  obtain ⟨entry, inside, rfl⟩ := List.mem_map.1 member
  have there : (pool.live.find? (·.1 == entry.1)).isSome := List.find?_isSome.2 ⟨entry, inside, beq_self_eq_true _⟩
  obtain ⟨⟨number, window⟩, found⟩ := Option.isSome_iff_exists.1 there
  obtain rfl : number = entry.1 := eq_of_beq (List.find?_some found :)
  have held : pool.window? entry.1 = some window := by rw [window?, found, Option.map_some]
  refine ⟨entry.1, window, rfl, List.mem_of_find?_eq_some found, held, ?_⟩
  simp only [locate, backing, held]

theorem refuses_of_not_standing (backing : pool.backing = .anonymous limit) (absent : handle ∉ pool.standing) :
    ∃ error, pool.map handle = (.error error, pool) ∧ pool.release handle = (.error error, pool) := by
  cases handle with
  | file path => exact ⟨.foreignHandle (.file path), by simp [map, locate, backing], by simp [release, backing]⟩
  | anonymous number =>
    have missing : pool.window? number = none := by
      rw [window?, Option.map_eq_none_iff, List.find?_eq_none]
      intro entry inside same
      exact absent (List.mem_map.2 ⟨entry, inside, congrArg Handle.anonymous (eq_of_beq same)⟩)
    exact ⟨.unknownRegion (.anonymous number), by simp [map, locate, backing, missing],
      by simp [release, backing, missing]⟩

/-! ## The invariant -/

def Holds (pool : Pool) (mapping : Mapping) : Prop :=
  ∃ number, mapping.handle = .anonymous number ∧ (number, mapping.toWindow) ∈ pool.live

/-- The mapping shows the cell that belongs to its handle, with all that was made of it. -/
structure Shows (log : List Use) (memory : Memory) (mapping : Mapping) : Prop where
  named : mapping.handle = .anonymous (mapping.index + 1)
  inside : mapping.index < memory.next
  least : minimumCapacity ≤ mapping.capacity
  seen : mapping.bytes memory = content mapping.handle log

/-- What every use of a pool preserves. -/
structure Kept (limit : Option Nat) (largest : Nat) (log : List Use) (pool : Pool) : Prop where
  backing : pool.backing = .anonymous limit
  verdicts : pool.verdicts = []
  largest : pool.largest = largest
  next : pool.memory.next = pool.issued
  issued : pool.issued = (granted log).length
  numbered : ∀ handle ∈ granted log, ∃ number ≤ pool.issued, 0 < number ∧ handle = .anonymous number
  distinct : (granted log).Nodup
  ledger : (granted log).Perm (returned log ++ pool.standing)
  limited : ∀ most, limit = some most → pool.live.length ≤ most
  shows : ∀ mapping, mapping ∈ mappings log ∨ pool.Holds mapping → Shows log pool.memory mapping

namespace Shows

variable {memory later : Memory} {mapping other : Mapping} {next : List Use}

theorem positive (shows : Shows log memory mapping) : headerLength ≤ mapping.capacity :=
  Nat.le_of_succ_le shows.least

theorem index_iff (shows : Shows log memory mapping) (others : Shows log memory other) :
    other.handle = mapping.handle ↔ mapping.index = other.index := by
  rw [shows.named, others.named, Handle.anonymous.injEq]
  omega

theorem window_eq (shows : Shows log memory mapping) (others : Shows log memory other)
    (same : other.handle = mapping.handle) : other.toWindow = mapping.toWindow := by
  have index := (shows.index_iff others).1 same
  have capacity : other.capacity = mapping.capacity := by
    rw [← Window.length_bytes others.positive memory, ← Window.length_bytes shows.positive memory, others.seen,
      shows.seen, same]
  have window : ∀ one two : Window, one.index = two.index → one.capacity = two.capacity → one = two := by
    rintro ⟨_, _⟩ ⟨_, _⟩ rfl rfl
    rfl
  exact window _ _ index.symm capacity

theorem onward (shows : Shows log memory mapping) (inside : mapping.index < later.next)
    (cell : later.cell mapping.index = memory.cell mapping.index)
    (past : content mapping.handle next = content mapping.handle log) : Shows next later mapping where
  named := shows.named
  inside := inside
  least := shows.least
  seen := (Window.bytes_congr cell).trans (shows.seen.trans past.symm)

theorem touch (shows : Shows log memory mapping) (others : Shows log memory other) (touch : Touch) :
    other.bytes (touch.through mapping.toWindow memory) =
      if mapping.handle = other.handle then touch.on (other.bytes memory) else other.bytes memory := by
  by_cases same : mapping.handle = other.handle
  · rw [if_pos same, shows.window_eq others same.symm]
    exact touch.bytes_through shows.inside shows.positive
  · rw [if_neg same]
    exact touch.bytes_through_of_ne memory fun index => same ((shows.index_iff others).2 index).symm

end Shows

namespace Kept

variable (kept : Kept limit largest log pool)
include kept

theorem mem_standing : handle ∈ pool.standing ↔ handle ∈ granted log ∧ handle ∉ returned log := by
  have disjoint := (List.nodup_append'.1 (kept.ledger.nodup_iff.1 kept.distinct)).2.2
  rw [kept.ledger.mem_iff, List.mem_append]
  constructor
  · intro stands
    exact ⟨.inr stands, fun gone => disjoint gone stands⟩
  · rintro ⟨gone | stands, still⟩
    · exact absurd gone still
    · exact stands

theorem standing_nodup : pool.standing.Nodup :=
  (List.nodup_append'.1 (kept.ledger.nodup_iff.1 kept.distinct)).2.1

theorem counted : pool.live.length + (returned log).length = (granted log).length := by
  rw [kept.ledger.length_eq, List.length_append, Nat.add_comm, standing, List.length_map]

theorem map_of_standing (stands : handle ∈ pool.standing) :
    ∃ mapping, pool.map handle = (.ok mapping, pool) ∧ mapping.handle = handle ∧ pool.Holds mapping := by
  obtain ⟨number, window, rfl, inside, _, located⟩ := locate_of_standing kept.backing stands
  have asked : pool.ask = (none, pool) := by rw [ask, kept.verdicts]
  exact ⟨{ window with handle := .anonymous number }, by rw [map, located, asked], rfl, number, rfl, inside⟩

theorem release_of_standing (stands : handle ∈ pool.standing) :
    ∃ number, handle = .anonymous number ∧
      pool.release handle = (.ok (), { pool with live := pool.live.filter (·.1 != number) }) := by
  obtain ⟨number, window, rfl, _, held, _⟩ := locate_of_standing kept.backing stands
  exact ⟨number, rfl, by simp only [release, kept.backing, held]⟩

theorem fresh : .anonymous (pool.issued + 1) ∉ granted log := by
  intro member
  obtain ⟨number, early, _, same⟩ := kept.numbered _ member
  have := Handle.anonymous.inj same
  omega

theorem key_fresh (bounded : (granted log).length < UInt64.size) :
    key? (.anonymous (pool.issued + 1)) ∉ (granted log).map key? := by
  intro member
  obtain ⟨handle, inside, same⟩ := List.mem_map.1 member
  obtain ⟨number, early, positive, rfl⟩ := kept.numbered _ inside
  have words := congrArg UInt64.toNat (Option.some.inj same)
  simp only [UInt64.toNat_ofNat'] at words
  have := kept.issued
  simp only [UInt64.size] at bounded
  omega

theorem keys_nodup (bounded : (granted log).length < UInt64.size) : ((granted log).map key?).Nodup := by
  refine List.Nodup.map_on ?_ kept.distinct
  intro first earlier second later same
  obtain ⟨one, least, _, rfl⟩ := kept.numbered _ earlier
  obtain ⟨two, most, _, rfl⟩ := kept.numbered _ later
  have words := congrArg UInt64.toNat (Option.some.inj same)
  simp only [UInt64.toNat_ofNat'] at words
  have := kept.issued
  simp only [UInt64.size] at bounded
  congr 1
  omega

/-! ## One step for each use -/

theorem idle {use : Use} (granting : granted (use :: log) = granted log)
    (returning : returned (use :: log) = returned log)
    (mapped : ∀ mapping ∈ mappings (use :: log), mapping ∈ mappings log ∨ pool.Holds mapping)
    (past : ∀ handle, content handle (use :: log) = content handle log) : Kept limit largest (use :: log) pool where
  backing := kept.backing
  verdicts := kept.verdicts
  largest := kept.largest
  next := kept.next
  issued := granting ▸ kept.issued
  numbered := granting ▸ kept.numbered
  distinct := granting ▸ kept.distinct
  ledger := by
    rw [granting, returning]
    exact kept.ledger
  limited := kept.limited
  shows := by
    intro mapping known
    have shows := kept.shows mapping (known.elim (mapped mapping) .inr)
    exact shows.onward shows.inside rfl (past mapping.handle)

theorem map (handle : Handle) : Kept limit largest (.map handle (pool.map handle).1 :: log) (pool.map handle).2 := by
  by_cases stands : handle ∈ pool.standing
  · obtain ⟨mapping, mapped, _, holds⟩ := kept.map_of_standing stands
    rw [mapped]
    refine kept.idle rfl rfl ?_ fun _ => rfl
    intro other member
    rcases List.mem_cons.1 member with rfl | old
    · exact .inr holds
    · exact .inl old
  · obtain ⟨error, mapped, _⟩ := refuses_of_not_standing kept.backing stands
    rw [mapped]
    exact kept.idle rfl rfl (fun _ => .inl) fun _ => rfl

theorem release (handle : Handle) :
    Kept limit largest (.release handle (pool.release handle).1 :: log) (pool.release handle).2 := by
  by_cases stands : handle ∈ pool.standing
  · obtain ⟨number, rfl, released⟩ := kept.release_of_standing stands
    rw [released]
    have fewer : pool.live.filter (·.1 != number) ⊆ pool.live := fun _ member => (List.mem_filter.1 member).1
    refine { kept with ledger := ?_, limited := ?_, shows := ?_ }
    · rw [standing_filter kept.standing_nodup rfl]
      exact (kept.ledger.trans ((List.perm_cons_erase stands).append_left _)).trans List.perm_middle
    · intro most limiting
      exact Nat.le_trans (List.length_filter_le _ _) (kept.limited most limiting)
    · intro mapping known
      have earlier : mapping ∈ mappings log ∨ pool.Holds mapping :=
        known.imp id fun ⟨number, named, inside⟩ => ⟨number, named, fewer inside⟩
      have shows := kept.shows mapping earlier
      exact shows.onward shows.inside rfl rfl
  · obtain ⟨error, _, released⟩ := refuses_of_not_standing kept.backing stands
    rw [released]
    exact kept.idle rfl rfl (fun _ => .inl) fun _ => rfl

theorem touch {mapping : Mapping} (mapped : mapping ∈ mappings log) (touch : Touch) :
    Kept limit largest (.touch mapping touch :: log)
      (pool.setMemory (touch.through mapping.toWindow pool.memory)) where
  backing := kept.backing
  verdicts := kept.verdicts
  largest := kept.largest
  next := (touch.next_through _ _).trans kept.next
  issued := kept.issued
  numbered := kept.numbered
  distinct := kept.distinct
  ledger := kept.ledger
  limited := kept.limited
  shows := by
    intro other known
    have shows := kept.shows mapping (.inl mapped)
    have others := kept.shows other known
    refine ⟨others.named, (touch.next_through _ _).symm ▸ others.inside, others.least, ?_⟩
    rw [content, ← others.seen]
    exact shows.touch others touch

theorem grant (free : pool.HasRoom limit) (capacity : Nat) (least : minimumCapacity ≤ capacity) :
    Kept limit largest (.allocate capacity (.ok (.anonymous (pool.issued + 1))) :: log) (pool.grown capacity) where
  backing := kept.backing
  verdicts := kept.verdicts
  largest := kept.largest
  next := by rw [grown, Memory.next_add, kept.next]
  issued := congrArg Nat.succ kept.issued
  numbered := by
    intro handle member
    rcases List.mem_cons.1 member with rfl | old
    · exact ⟨_, Nat.le_refl _, Nat.succ_pos _, rfl⟩
    · obtain ⟨number, early, positive, same⟩ := kept.numbered handle old
      exact ⟨number, Nat.le_succ_of_le early, positive, same⟩
  distinct := List.nodup_cons.2 ⟨kept.fresh, kept.distinct⟩
  ledger := by
    have longer := (kept.ledger.cons (.anonymous (pool.issued + 1))).trans (List.perm_append_singleton _ _).symm
    rw [List.append_assoc] at longer
    rw [standing_grown]
    exact longer
  limited := by
    intro most limiting
    rw [grown, List.length_append]
    exact free most limiting
  shows := by
    -- the new cell lies behind the others, and its handle was never handed out
    have earlier {mapping : Mapping} (shows : Shows log pool.memory mapping) :
        Shows (.allocate capacity (.ok (.anonymous (pool.issued + 1))) :: log) (pool.memory.add .blank) mapping := by
      have inside := shows.inside
      refine shows.onward (by rw [Memory.next_add]; omega) (Memory.cell_add_of_lt inside _) (if_neg ?_)
      rw [shows.named, Handle.anonymous.injEq, ← kept.next]
      omega
    rintro mapping (old | ⟨number, named, member⟩)
    · exact earlier (kept.shows mapping (.inl old))
    · rcases List.mem_append.1 member with old | new
      · exact earlier (kept.shows mapping (.inr ⟨number, named, old⟩))
      · obtain ⟨⟨index, size⟩, handle⟩ := mapping
        simp only [List.mem_singleton, Prod.mk.injEq, Window.mk.injEq] at new
        obtain ⟨rfl, rfl, rfl⟩ := new
        subst named
        refine ⟨by rw [kept.next], ?_, least, ?_⟩
        · rw [grown, Memory.next_add]
          exact Nat.lt_succ_self _
        · rw [content, if_pos rfl, ← Cell.bytes_blank size, Window.bytes, grown, Memory.cell_add_next]

theorem allocate (capacity : Nat) (placed : capacity ≤ pool.largest) :
    Kept limit largest (.allocate capacity (pool.allocate capacity).1 :: log) (pool.allocate capacity).2 := by
  rcases Nat.lt_or_ge capacity minimumCapacity with small | least
  · rw [allocate_small small]
    exact kept.idle rfl rfl (fun _ => .inl) fun _ => rfl
  · by_cases free : pool.HasRoom limit
    · rw [allocate_free kept.backing kept.verdicts least placed free]
      exact kept.grant free capacity least
    · obtain ⟨most, rfl, full⟩ : ∃ most, limit = some most ∧ most ≤ pool.live.length := by
        simpa only [HasRoom, not_forall, Nat.not_lt, exists_prop] using free
      rw [allocate_full kept.backing least full]
      exact kept.idle rfl rfl (fun _ => .inl) fun _ => rfl

end Kept

theorem used_kept (used : Used { anonymous volume limit with largest } log pool) : Kept limit largest log pool := by
  induction used with
  | start =>
    refine ⟨rfl, rfl, rfl, rfl, rfl, nofun, List.nodup_nil, .nil, fun _ _ => Nat.zero_le _, ?_⟩
    rintro mapping (known | ⟨_, _, known⟩)
    · exact absurd known List.not_mem_nil
    · exact absurd known List.not_mem_nil
  | allocate used capacity placed ih => exact ih.allocate capacity placed
  | map used handle ih => exact ih.map handle
  | release used handle ih => exact ih.release handle
  | touch used mapped touch ih => exact ih.touch mapped touch

/-! ## What a pool keeps to -/

/-- What holds of a pool of anonymous regions whatever it was used for. -/
structure Bookkept (limit : Option Nat) (largest : Nat) (log : List Use) (pool : Pool) : Prop where
  /-- No two grants went under one number, and so no handle was handed out twice. -/
  distinct : ((granted log).map key?).Nodup
  counted : pool.liveCount + (returned log).length = (granted log).length
  limited : ∀ most, limit = some most → pool.liveCount ≤ most
  small : ∀ capacity < minimumCapacity,
    pool.allocate capacity = (.error (.capacityTooSmall capacity minimumCapacity), pool)
  full : ∀ capacity ≥ minimumCapacity, ∀ most, limit = some most → most ≤ pool.liveCount →
    pool.allocate capacity = (.error (.exhausted most), pool)
  /-- A new region goes under a number that was never handed out, and whoever maps it sees zeros. -/
  granting : ∀ capacity ≥ minimumCapacity, capacity ≤ largest →
    (∀ most, limit = some most → pool.liveCount < most) →
      ∃ handle later mapping, pool.allocate capacity = (.ok handle, later) ∧ key? handle ∉ (granted log).map key? ∧
        later.map handle = (.ok mapping, later) ∧ mapping.bytes later.memory = List.replicate capacity 0
  present : ∀ handle ∈ granted log, handle ∉ returned log →
    (∃ mapping, pool.map handle = (.ok mapping, pool) ∧ mapping.handle = handle) ∧
      (pool.release handle).1 = .ok ()
  absent : ∀ handle, ¬(handle ∈ granted log ∧ handle ∉ returned log) →
    ∃ error, pool.map handle = (.error error, pool) ∧ pool.release handle = (.error error, pool)
  shows : ∀ mapping ∈ mappings log, mapping.bytes pool.memory = content mapping.handle log
  /-- What is done through one mapping is seen through all of the same handle and through no other. -/
  shared : ∀ mapping ∈ mappings log, ∀ other ∈ mappings log, ∀ touch : Touch,
    other.bytes (touch.through mapping.toWindow pool.memory) =
      if mapping.handle = other.handle then touch.on (other.bytes pool.memory) else other.bytes pool.memory

theorem used_bookkept (used : Used { anonymous volume limit with largest } log pool)
    (bounded : (granted log).length < UInt64.size) : pool.Bookkept limit largest log := by
  have kept := used_kept used
  have count : pool.liveCount = pool.live.length := by rw [liveCount, kept.backing]
  constructor
  case distinct => exact kept.keys_nodup bounded
  case counted => exact count ▸ kept.counted
  case limited => exact count ▸ kept.limited
  case small => exact fun capacity small => allocate_small small pool
  case full =>
    rintro capacity least most rfl full
    exact allocate_full kept.backing least (count ▸ full)
  case granting =>
    intro capacity least placed free
    rw [count] at free
    have granted := allocate_free kept.backing kept.verdicts least (kept.largest ▸ placed) free
    have later := kept.grant free capacity least
    have stands : .anonymous (pool.issued + 1) ∈ (pool.grown capacity).standing := by simp [standing_grown]
    obtain ⟨mapping, mapped, named, holds⟩ := later.map_of_standing stands
    refine ⟨_, _, mapping, granted, kept.key_fresh bounded, mapped, ?_⟩
    rw [(later.shows mapping (.inr holds)).seen, named, content, if_pos rfl]
  case present =>
    intro handle member still
    have stands := kept.mem_standing.2 ⟨member, still⟩
    obtain ⟨mapping, mapped, named, _⟩ := kept.map_of_standing stands
    obtain ⟨number, rfl, released⟩ := kept.release_of_standing stands
    exact ⟨⟨mapping, mapped, named⟩, congrArg Prod.fst released⟩
  case absent =>
    intro handle gone
    exact refuses_of_not_standing kept.backing (mt kept.mem_standing.1 gone)
  case shows => exact fun mapping member => (kept.shows mapping (.inl member)).seen
  case shared =>
    intro mapping member other others touch
    exact (kept.shows mapping (.inl member)).touch (kept.shows other (.inl others)) touch

/-- The only region there may be is released, and its mapping still shows what is stored through it. -/
theorem released_bookkept :
    let mapping : Mapping := ⟨⟨0, 3⟩, .anonymous 1⟩
    let log : List Use := [.touch mapping (.store 7), .release (.anonymous 1) (.ok ()),
      .allocate 3 (.error (.exhausted 1)), .map (.anonymous 1) (.ok mapping), .allocate 3 (.ok (.anonymous 1))]
    ∃ pool, Used { anonymous .empty (some 1) with largest := 8 } log pool ∧ pool.Bookkept (some 1) 8 log ∧
      mapping.bytes pool.memory = [7, 0, 0] := by
  intro mapping log
  have fresh : Used { anonymous .empty (some 1) with largest := 8 } [] _ := .start
  have mapped := (fresh.allocate 3 (by decide)).map (.anonymous 1)
  have released := (mapped.allocate 3 (by decide)).release (.anonymous 1)
  have known : mapping ∈ mappings log.tail := List.mem_cons_self
  have touched := released.touch known (.store 7)
  exact ⟨_, touched, used_bookkept touched (by decide), by decide⟩

end SharedRecords.Region.Pool
