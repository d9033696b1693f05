import SharedRecords.Proofs.Region.Spots

/-!
A ledger of regions. It lists every region that is there once: those of clients, by what tells them from
others, and those that are held for sessions, by their handles.
-/

namespace SharedRecords.Region

variable {pool later : Pool} {clients : List Spot} {held other : List Handle} {handle : Handle} {spot : Spot}
  {capacity : Nat}

namespace Pool

/-- Every region that is there is listed once, and nothing else. -/
structure Lists (pool : Pool) (entries : List (Option Spot)) : Prop where
  distinct : entries.Nodup
  live : ∀ entry, entry ∈ entries ↔ ∃ spot, pool.isLive spot = true ∧ entry = some spot

namespace Lists

variable {entries others : List (Option Spot)}

theorem perm (lists : pool.Lists entries) (same : entries.Perm others) : pool.Lists others :=
  ⟨same.nodup_iff.mp lists.distinct, fun entry => same.mem_iff.symm.trans (lists.live entry)⟩

theorem retains (lists : pool.Lists entries) (retains : pool.Retains later) : later.Lists entries := by
  refine ⟨lists.distinct, fun entry => ?_⟩
  simp only [retains.live]
  exact lists.live entry

theorem adds (lists : pool.Lists entries) (adds : pool.Adds later handle spot) :
    later.Lists (some spot :: entries) := by
  refine ⟨List.nodup_cons.mpr ⟨fun member => ?_, lists.distinct⟩, fun entry => ?_⟩
  · obtain ⟨old, live, same⟩ := (lists.live _).mp member
    obtain rfl := Option.some.inj same
    rw [adds.fresh] at live
    contradiction
  · rw [List.mem_cons, lists.live]
    simp only [adds.live]
    constructor
    · rintro (rfl | ⟨old, live, rfl⟩)
      · exact ⟨spot, .inl rfl, rfl⟩
      · exact ⟨old, .inr live, rfl⟩
    · rintro ⟨old, rfl | live, rfl⟩
      · exact .inl rfl
      · exact .inr ⟨old, live, rfl⟩

theorem drops (lists : pool.Lists (some spot :: entries)) (drops : pool.Drops later spot) : later.Lists entries := by
  obtain ⟨absent, distinct⟩ := List.nodup_cons.mp lists.distinct
  refine ⟨distinct, fun entry => ?_⟩
  simp only [drops.live]
  constructor
  · intro member
    obtain ⟨old, live, rfl⟩ := (lists.live entry).mp (List.mem_cons_of_mem _ member)
    exact ⟨old, ⟨fun same => absent (same ▸ member), live⟩, rfl⟩
  · rintro ⟨old, ⟨apart, live⟩, rfl⟩
    have member := (lists.live (some old)).mpr ⟨old, live, rfl⟩
    exact (List.mem_cons.mp member).resolve_left fun same => apart (Option.some.inj same)

end Lists

/-- The regions that are there are those of the clients and those that are held, each listed once. -/
structure Balanced (pool : Pool) (clients : List Spot) (held : List Handle) : Prop where
  sound : pool.Sound
  lists : pool.Lists (clients.map some ++ held.map pool.spot?)

theorem lists_spots (pool : Pool) : pool.Lists (pool.spots.map some) := by
  refine ⟨?_, fun entry => ?_⟩
  · rw [List.Nodup, List.pairwise_map]
    exact pool.spots_nodup.imp fun apart same => apart (Option.some.inj same)
  · simp only [List.mem_map, mem_spots, eq_comm]

theorem Sound.balanced (sound : pool.Sound) : pool.Balanced pool.spots [] := by
  refine ⟨sound, ?_⟩
  rw [List.map_nil, List.append_nil]
  exact pool.lists_spots

namespace Balanced

theorem leads (balanced : pool.Balanced clients held) (member : handle ∈ held) :
    ∃ spot, pool.spot? handle = some spot := by
  obtain ⟨spot, _, found⟩ := (balanced.lists.live (pool.spot? handle)).mp
    (List.mem_append_right _ (List.mem_map_of_mem member))
  exact ⟨spot, found⟩

theorem perm (balanced : pool.Balanced clients held) (same : held.Perm other) : pool.Balanced clients other :=
  ⟨balanced.sound, balanced.lists.perm ((same.map _).append_left _)⟩

theorem map_spot? (leads : ∀ handle ∈ held, ∃ spot, pool.spot? handle = some spot)
    (kept : ∀ handle ∈ held, ∀ spot, pool.spot? handle = some spot → later.spot? handle = some spot) :
    held.map later.spot? = held.map pool.spot? := by
  refine List.map_congr_left fun handle member => ?_
  obtain ⟨spot, found⟩ := leads handle member
  rw [found]
  exact kept handle member spot found

theorem retains (balanced : pool.Balanced clients held) (retains : pool.Retains later) (sound : later.Sound) :
    later.Balanced clients held := by
  refine ⟨sound, ?_⟩
  rw [map_spot? (fun _ => balanced.leads) fun handle _ => retains.kept handle]
  exact balanced.lists.retains retains

theorem take (balanced : pool.Balanced clients held) (given : pool.allocate capacity = (.ok handle, later)) :
    later.Balanced clients (handle :: held) := by
  have sound := balanced.sound.allocate capacity
  rw [given] at sound
  obtain ⟨spot, adds⟩ := allocate_adds balanced.sound given
  refine ⟨sound, ?_⟩
  rw [List.map_cons, adds.found, map_spot? (fun _ => balanced.leads) fun handle _ => adds.kept handle]
  exact (balanced.lists.adds adds).perm List.perm_middle.symm

theorem refused {error : Error} (balanced : pool.Balanced clients held)
    (refused : pool.allocate capacity = (.error error, later)) : later.Balanced clients held := by
  have sound := balanced.sound.allocate capacity
  rw [refused] at sound
  exact balanced.retains (allocate_retains refused) sound

theorem map (balanced : pool.Balanced clients held) (handle : Handle) : (pool.map handle).2.Balanced clients held :=
  balanced.retains (pool.map_retains handle) (balanced.sound.map handle)

theorem give (balanced : pool.Balanced clients (handle :: held)) :
    (pool.release handle).1 = .ok () ∧ (pool.release handle).2.Balanced clients held := by
  obtain ⟨spot, found⟩ := balanced.leads List.mem_cons_self
  obtain ⟨released, drops⟩ := release_drops found
  have lists := balanced.lists.perm List.perm_middle
  rw [found] at lists
  refine ⟨released, balanced.sound.release handle, ?_⟩
  -- each region is listed once, so no other handle that is held leads to the one that goes
  have apart := (List.nodup_cons.mp lists.distinct).1
  rw [map_spot? fun _ member => balanced.leads (List.mem_cons_of_mem _ member)]
  · exact lists.drops drops
  · intro old member spot leads
    refine drops.kept old spot leads ?_
    rintro rfl
    exact apart (List.mem_append_right _ (leads ▸ List.mem_map_of_mem member))

/-! ## Clients -/

theorem allocate_client (balanced : pool.Balanced clients held) (given : pool.allocate capacity = (.ok handle, later)) :
    ∃ spot, later.spot? handle = some spot ∧ later.Balanced (spot :: clients) held := by
  have sound := balanced.sound.allocate capacity
  rw [given] at sound
  obtain ⟨spot, adds⟩ := allocate_adds balanced.sound given
  refine ⟨spot, adds.found, sound, ?_⟩
  rw [map_spot? (fun _ => balanced.leads) fun handle _ => adds.kept handle]
  exact balanced.lists.adds adds

theorem release_client (balanced : pool.Balanced clients held) (found : pool.spot? handle = some spot)
    (apart : ∀ kept ∈ held, pool.spot? kept ≠ some spot) :
    spot ∈ clients ∧ (pool.release handle).2.Balanced (clients.erase spot) held := by
  obtain ⟨_, drops⟩ := release_drops found
  have absent : some spot ∉ held.map pool.spot? := by
    intro member
    obtain ⟨kept, inside, same⟩ := List.mem_map.mp member
    exact apart kept inside same
  have member : spot ∈ clients := by
    have listed := (balanced.lists.live (some spot)).mpr ⟨spot, isLive_of_spot? found, rfl⟩
    obtain ⟨_, inside, ⟨⟩⟩ := List.mem_map.mp ((List.mem_append.mp listed).resolve_right absent)
    exact inside
  refine ⟨member, balanced.sound.release handle, ?_⟩
  have lists := balanced.lists.perm (((List.perm_cons_erase member).map some).append_right _)
  rw [map_spot? (fun _ => balanced.leads)]
  · exact lists.drops drops
  · intro kept inside other leads
    refine drops.kept kept other leads ?_
    rintro rfl
    exact apart kept inside leads

theorem release_absent (balanced : pool.Balanced clients held) (absent : pool.spot? handle = none) :
    (pool.release handle).2.Balanced clients held :=
  balanced.retains (release_retains absent) (balanced.sound.release handle)

end Balanced

/-! ## Pairs -/

structure AddsPair (pool later : Pool) (first second : Spot) : Prop where
  apart : first ≠ second
  fresh_first : pool.isLive first = false
  fresh_second : pool.isLive second = false
  live : ∀ spot, later.isLive spot = true ↔ pool.isLive spot = true ∨ spot = first ∨ spot = second

theorem Balanced.addsPair {first second : Handle} (balanced : later.Balanced pool.spots [first, second]) :
    ∃ one other, pool.AddsPair later one other := by
  obtain ⟨one, here⟩ := balanced.leads List.mem_cons_self
  obtain ⟨other, there⟩ := balanced.leads (List.mem_cons_of_mem first List.mem_cons_self)
  have distinct := balanced.lists.distinct
  have live := balanced.lists.live
  simp only [List.map_cons, List.map_nil, here, there] at distinct live
  have fresh (spot : Spot) (inside : some spot ∈ [some one, some other]) : pool.isLive spot = false := by
    have disjoint := (List.nodup_append'.mp distinct).2.2
    by_contra old
    have listed : spot ∈ pool.spots := mem_spots.mpr (by simpa using old)
    exact disjoint (List.mem_map_of_mem listed) inside
  refine ⟨one, other, ⟨?_, fresh one (by simp), fresh other (by simp), fun spot => ?_⟩⟩
  · have apart := (List.nodup_append'.mp distinct).2.1
    simpa using apart
  · have listed := live (some spot)
    simpa [mem_spots] using listed.symm

theorem AddsPair.retains {last : Pool} {one other : Spot} (adds : pool.AddsPair later one other)
    (retains : later.Retains last) : pool.AddsPair last one other :=
  ⟨adds.apart, adds.fresh_first, adds.fresh_second, fun spot => by rw [retains.live, adds.live]⟩

end Pool

end SharedRecords.Region
