import Mathlib.Data.List.Dedup
import SharedRecords.Proofs.KeyMap
import SharedRecords.Proofs.Region.Pool

/-!
Which regions there are. A region is told from others by its number or by the key of its file, whatever
handle leads to it. Allocating adds one that was not there, taking back removes the one that the handle leads
to, and neither touches another.
-/

namespace SharedRecords.Region

inductive Spot where
  | numbered (number : Nat)
  | filed (key : String)
  deriving DecidableEq, Repr

namespace Pool

/-- The region that a handle leads to. -/
def spot? (pool : Pool) (handle : Handle) : Option Spot :=
  match pool.backing, handle with
  | .anonymous _, .anonymous number => (pool.window? number).map fun _ => .numbered number
  | .folder _, .file path =>
    match pool.volume.place path with
    | .found key (.file _) => some (.filed key)
    | _ => none
  | _, _ => none

def isLive (pool : Pool) (spot : Spot) : Bool :=
  match pool.backing, spot with
  | .anonymous _, .numbered number => (pool.window? number).isSome
  | .folder _, .filed key => (pool.volume.nodes.find? key).any Volume.isFile
  | _, _ => false

def spots (pool : Pool) : List Spot :=
  match pool.backing with
  | .anonymous _ => (pool.live.map fun entry => .numbered entry.1).dedup
  | .folder _ => (pool.volume.nodes.entries.filter fun entry => Volume.isFile entry.2).map fun entry => .filed entry.1

/-- The same regions are there, under the same handles. -/
structure Retains (pool later : Pool) : Prop where
  live : ∀ spot, later.isLive spot = pool.isLive spot
  kept : ∀ handle spot, pool.spot? handle = some spot → later.spot? handle = some spot

structure Adds (pool later : Pool) (handle : Handle) (spot : Spot) : Prop where
  fresh : pool.isLive spot = false
  found : later.spot? handle = some spot
  live : ∀ other, later.isLive other = true ↔ other = spot ∨ pool.isLive other = true
  kept : ∀ old other, pool.spot? old = some other → later.spot? old = some other

/-- All regions but one are still there. -/
structure Drops (pool later : Pool) (spot : Spot) : Prop where
  live : ∀ other, later.isLive other = true ↔ other ≠ spot ∧ pool.isLive other = true
  kept : ∀ handle other, pool.spot? handle = some other → other ≠ spot → later.spot? handle = some other

variable {pool later last : Pool} {handle : Handle} {spot : Spot} {capacity : Nat}

inductive Leads (pool : Pool) : Handle → Spot → Prop where
  | numbered {limit : Option Nat} {number : Nat} {window : Window} (backing : pool.backing = .anonymous limit)
      (held : pool.window? number = some window) : Leads pool (.anonymous number) (.numbered number)
  | filed {root path key : String} {window : Window} (backing : pool.backing = .folder root)
      (place : pool.volume.place path = .found key (.file window)) : Leads pool (.file path) (.filed key)

theorem leads_of_spot? (found : pool.spot? handle = some spot) : pool.Leads handle spot := by
  cases backing : pool.backing with
  | anonymous limit =>
    cases handle with
    | file path => simp [spot?, backing] at found
    | anonymous number =>
      simp only [spot?, backing] at found
      obtain ⟨window, held, rfl⟩ := Option.map_eq_some_iff.mp found
      exact .numbered backing held
  | folder root =>
    cases handle with
    | anonymous number => simp [spot?, backing] at found
    | file path =>
      simp only [spot?, backing] at found
      cases place : pool.volume.place path with
      | vacant | missing | obstructed => simp [place] at found
      | found key node =>
        cases node with
        | folder | sink => simp [place] at found
        | file window =>
          simp only [place, Option.some.injEq] at found
          exact found ▸ .filed backing place

theorem isLive_of_spot? (found : pool.spot? handle = some spot) : pool.isLive spot = true := by
  cases leads_of_spot? found with
  | numbered backing held => simp only [isLive, backing, held, Option.isSome_some]
  | filed backing place =>
    simp only [isLive, backing, Volume.find?_of_place place (by simp)]
    rfl

theorem mem_spots : spot ∈ pool.spots ↔ pool.isLive spot = true := by
  unfold spots isLive
  cases backing : pool.backing with
  | anonymous limit =>
    rw [List.mem_dedup, List.mem_map]
    cases spot with
    | filed key => simp
    | numbered number =>
      simp only [window?, Option.isSome_map, List.find?_isSome, beq_iff_eq, Spot.numbered.injEq]
  | folder root =>
    rw [List.mem_map]
    cases spot with
    | numbered number => simp
    | filed key =>
      simp only [List.mem_filter, Spot.filed.injEq, Option.any_eq_true]
      constructor
      · rintro ⟨entry, ⟨member, file⟩, rfl⟩
        exact ⟨entry.2, pool.volume.nodes.find?_of_mem member, file⟩
      · rintro ⟨node, found, file⟩
        exact ⟨(key, node), ⟨KeyMap.mem_of_find? found, file⟩, rfl⟩

theorem spots_nodup (pool : Pool) : pool.spots.Nodup := by
  unfold spots
  split
  · exact List.nodup_dedup _
  · rw [List.Nodup, List.pairwise_map]
    refine (pool.volume.nodes.ordered.filter _).imp fun less same => ?_
    exact absurd (Spot.filed.inj same) (ne_of_lt less)

theorem Retains.refl (pool : Pool) : pool.Retains pool := ⟨fun _ => rfl, fun _ _ found => found⟩

theorem Retains.trans (first : pool.Retains later) (second : later.Retains last) : pool.Retains last :=
  ⟨fun spot => (second.live spot).trans (first.live spot),
    fun handle spot found => second.kept handle spot (first.kept handle spot found)⟩

theorem retains_of_same (memory : Memory) (verdicts : List (Option Error)) :
    pool.Retains { pool with memory, verdicts } :=
  ⟨fun _ => rfl, fun _ _ found => found⟩

theorem map_retains (pool : Pool) (handle : Handle) : pool.Retains (pool.map handle).2 := by
  unfold map
  split
  · exact .refl pool
  · rcases asked : pool.ask with ⟨verdict, between⟩
    obtain ⟨verdicts, rfl⟩ := ask_eq asked
    cases verdict with
    | none => exact retains_of_same _ _
    | some error => exact retains_of_same _ _

/-! ## Allocating -/

theorem grant_adds (sound : pool.Sound) (given : pool.grant capacity = (.ok handle, later)) :
    ∃ spot, pool.Adds later handle spot := by
  unfold grant at given
  dsimp only at given
  cases backing : pool.backing with
  | anonymous limit =>
    rw [backing] at given
    obtain ⟨same, rfl⟩ := Prod.mk.inj given
    obtain rfl := Except.ok.inj same
    have unused := window?_issued sound
    have looked (number : Nat) :=
      window?_append pool.live (pool.issued + 1, ⟨pool.memory.next, capacity⟩) number
    refine ⟨.numbered (pool.issued + 1), ?_, ?_, ?_, ?_⟩
    · simp only [isLive, backing, unused, Option.isSome_none]
    · simp only [spot?, window?, looked, if_pos, Option.map_or, Option.map_some]
      rw [← window?, unused]
      rfl
    · intro other
      cases other with
      | filed key => simp [isLive, backing]
      | numbered number =>
        simp only [isLive, backing, window?, looked, Option.isSome_or, Bool.or_eq_true, Spot.numbered.injEq]
        by_cases same : pool.issued + 1 = number
        · simp [same]
        · simp [same, Ne.symm same]
    · intro old other found
      cases leads_of_spot? found with
      | filed folder => cases backing.symm.trans folder
      | numbered _ held =>
        unfold window? at held
        simp only [spot?, window?, looked, held, Option.some_or, Option.map_some]
  | folder root =>
    rw [backing] at given
    dsimp only at given
    cases place : pool.volume.place (Text.Path.join root (fileName (pool.issued + 1))) with
    | found | missing | obstructed =>
      rw [place] at given
      cases congrArg Prod.fst given
    | vacant key =>
      rw [place] at given
      obtain ⟨same, rfl⟩ := Prod.mk.inj given
      obtain rfl := Except.ok.inj same
      have vacant := Volume.find?_of_place_vacant place
      refine ⟨.filed key, ?_, ?_, ?_, ?_⟩
      · simp only [isLive, backing, vacant, Option.any_none]
      · simp only [spot?, Volume.place_put_of_vacant _ place]
      · intro other
        cases other with
        | numbered number => simp [isLive, backing]
        | filed name =>
          simp only [isLive, backing, Volume.put, KeyMap.find?_insert, Spot.filed.injEq]
          by_cases same : name = key
          · simp [same, Volume.isFile]
          · simp [same]
      · intro old other found
        cases leads_of_spot? found with
        | numbered anonymous => cases backing.symm.trans anonymous
        | filed _ held => simp only [spot?, Volume.place_put_of_found vacant _ held]

theorem allocate_adds (sound : pool.Sound) (given : pool.allocate capacity = (.ok handle, later)) :
    ∃ spot, pool.Adds later handle spot := by
  unfold allocate at given
  split at given
  · cases congrArg Prod.fst given
  · rcases asked : pool.ask with ⟨verdict, between⟩
    obtain ⟨verdicts, rfl⟩ := ask_eq asked
    rw [asked] at given
    cases verdict with
    | some error => cases congrArg Prod.fst given
    | none =>
      dsimp only at given
      split at given
      · cases congrArg Prod.fst given
      · obtain ⟨spot, fresh, found, live, kept⟩ := grant_adds (sound.setVerdicts verdicts) given
        exact ⟨spot, fresh, found, live, kept⟩

theorem grant_retains {error : Error} (refused : pool.grant capacity = (.error error, later)) :
    pool.Retains later := by
  unfold grant at refused
  dsimp only at refused
  split at refused
  · cases congrArg Prod.fst refused
  · split at refused
    · cases congrArg Prod.fst refused
    all_goals
      obtain ⟨_, rfl⟩ := Prod.mk.inj refused
      exact .refl pool

theorem allocate_retains {error : Error} (refused : pool.allocate capacity = (.error error, later)) :
    pool.Retains later := by
  unfold allocate at refused
  split at refused
  · obtain ⟨_, rfl⟩ := Prod.mk.inj refused
    exact .refl pool
  · rcases asked : pool.ask with ⟨verdict, between⟩
    obtain ⟨verdicts, rfl⟩ := ask_eq asked
    have same : pool.Retains { pool with verdicts } := retains_of_same _ _
    rw [asked] at refused
    cases verdict with
    | some _ =>
      obtain ⟨_, rfl⟩ := Prod.mk.inj refused
      exact same
    | none =>
      dsimp only at refused
      split at refused
      · obtain ⟨_, rfl⟩ := Prod.mk.inj refused
        exact same
      · exact same.trans (grant_retains refused)

/-! ## Taking back -/

theorem window?_filter {number : Nat} (live : later.live = pool.live.filter (·.1 != number)) (other : Nat) :
    later.window? other = if other = number then none else pool.window? other := by
  unfold window?
  rw [live, List.find?_filter]
  by_cases same : other = number
  · rw [if_pos same, Option.map_eq_none_iff, List.find?_eq_none]
    intro entry _
    simp [same]
  · rw [if_neg same]
    congr
    funext entry
    by_cases here : entry.1 = other
    · simp [here, same]
    · simp [here]

theorem drops_of_filter {limit : Option Nat} {number : Nat} (before : pool.backing = .anonymous limit)
    (behind : later.backing = .anonymous limit) (live : later.live = pool.live.filter (·.1 != number)) :
    pool.Drops later (.numbered number) := by
  constructor
  · intro other
    cases other with
    | filed key => simp [isLive, before, behind]
    | numbered place =>
      simp only [isLive, before, behind, window?_filter live, ne_eq, Spot.numbered.injEq]
      by_cases same : place = number
      · simp [same]
      · simp [same]
  · intro old other found apart
    cases leads_of_spot? found with
    | filed folder => cases before.symm.trans folder
    | numbered _ held =>
      simp only [spot?, behind, window?_filter live, if_neg fun same => apart (congrArg Spot.numbered same), held,
        Option.map_some]

theorem release_drops (found : pool.spot? handle = some spot) :
    (pool.release handle).1 = .ok () ∧ pool.Drops (pool.release handle).2 spot := by
  cases leads_of_spot? found with
  | @numbered limit number window backing held =>
    simp only [release, backing, held, true_and]
    exact drops_of_filter backing rfl rfl
  | @filed root path key window backing place =>
    have filed := Volume.find?_of_place place (by simp)
    have unlike : pool.volume.nodes.find? key ≠ some .folder := by simp [filed]
    simp only [release, backing, place, true_and]
    constructor
    · intro other
      cases other with
      | numbered number => simp [isLive, backing]
      | filed name =>
        simp only [isLive, backing, Volume.remove, KeyMap.find?_erase, ne_eq, Spot.filed.injEq]
        by_cases same : name = key
        · simp [same]
        · simp [same]
    · intro old other found apart
      cases leads_of_spot? found with
      | numbered anonymous => cases backing.symm.trans anonymous
      | filed _ held =>
        have other := fun same => apart (congrArg Spot.filed same)
        simp only [spot?, Volume.place_remove_of_found unlike other held]

theorem remove_sink_retains {root key : String} (backing : pool.backing = .folder root)
    (held : pool.volume.nodes.find? key = some .sink) :
    pool.Retains { pool with volume := pool.volume.remove key } := by
  have unlike : pool.volume.nodes.find? key ≠ some .folder := by simp [held]
  constructor
  · intro other
    cases other with
    | numbered number => simp [isLive, backing]
    | filed name =>
      simp only [isLive, backing, Volume.remove, KeyMap.find?_erase]
      by_cases same : name = key
      · simp [same, held, Volume.isFile]
      · simp [same]
  · intro old other found
    cases leads_of_spot? found with
    | numbered anonymous => cases backing.symm.trans anonymous
    | @filed _ _ name _ _ place =>
      have apart : name ≠ key := by
        rintro rfl
        cases held.symm.trans (Volume.find?_of_place place (by simp))
      simp only [spot?, backing, Volume.place_remove_of_found unlike apart place]

theorem release_retains (absent : pool.spot? handle = none) : pool.Retains (pool.release handle).2 := by
  have same (released : (pool.release handle).2 = pool) : pool.Retains (pool.release handle).2 := by
    rw [released]
    exact .refl pool
  cases backing : pool.backing with
  | anonymous limit =>
    cases handle with
    | file path => exact same (by simp [release, backing])
    | anonymous number =>
      cases held : pool.window? number with
      | some window => simp [spot?, backing, held] at absent
      | none => exact same (by simp [release, backing, held])
  | folder root =>
    cases handle with
    | anonymous number => exact same (by simp [release, backing])
    | file path =>
      cases place : pool.volume.place path with
      | vacant | missing | obstructed => exact same (by simp [release, backing, place])
      | found key node =>
        cases node with
        | file window => simp [spot?, backing, place] at absent
        | folder => exact same (by simp [release, backing, place])
        | sink =>
          have sinks := remove_sink_retains backing (Volume.find?_of_place place (by simp))
          simpa [release, backing, place] using sinks

/-- All that taking back can come to: nothing goes, or a number, or what stands under a name. -/
inductive Returned (pool : Pool) (handle : Handle) (later : Pool) : Prop where
  | nothing (same : later = pool)
  | number {limit : Option Nat} {number : Nat} (before : pool.backing = .anonymous limit)
      (behind : later.backing = .anonymous limit) (named : handle = .anonymous number)
      (live : later.live = pool.live.filter (·.1 != number))
  | name {root path key : String} {node : Node} (before : pool.backing = .folder root)
      (behind : later.backing = .folder root) (named : handle = .file path)
      (place : pool.volume.place path = .found key node) (other : node ≠ .folder)
      (volume : later.volume = pool.volume.remove key)

theorem release_returned (pool : Pool) (handle : Handle) : pool.Returned handle (pool.release handle).2 := by
  cases backing : pool.backing with
  | anonymous limit =>
    cases handle with
    | file path => exact .nothing (by simp only [release, backing])
    | anonymous number =>
      cases held : pool.window? number with
      | none => exact .nothing (by simp only [release, backing, held])
      | some window =>
        refine .number backing ?_ rfl ?_
        · simp only [release, backing, held]
        · simp only [release, backing, held]
  | folder root =>
    cases handle with
    | anonymous number => exact .nothing (by simp only [release, backing])
    | file path =>
      cases place : pool.volume.place path with
      | vacant | missing | obstructed => exact .nothing (by simp only [release, backing, place])
      | found key node =>
        cases node with
        | folder => exact .nothing (by simp only [release, backing, place])
        | file | sink =>
          refine .name backing ?_ rfl place nofun ?_
          · simp only [release, backing, place]
          · simp only [release, backing, place]

theorem spot?_of_release {other : Handle} (found : (pool.release handle).2.spot? other = some spot) :
    pool.spot? other = some spot := by
  have returned := pool.release_returned handle
  generalize (pool.release handle).2 = later at returned found
  cases returned with
  | nothing same => exact same ▸ found
  | number before behind named live =>
    cases leads_of_spot? found with
    | filed folder => cases behind.symm.trans folder
    | numbered _ held =>
      rw [window?_filter live] at held
      split at held
      · contradiction
      · simp only [spot?, before, held, Option.map_some]
  | name before behind named place other volume =>
    cases leads_of_spot? found with
    | numbered anonymous => cases behind.symm.trans anonymous
    | filed _ held =>
      rw [volume] at held
      simp only [spot?, before, Volume.place_of_remove held]

theorem spot?_release {other : Handle} (found : pool.spot? other = some spot)
    (apart : pool.spot? handle ≠ some spot) : (pool.release handle).2.spot? other = some spot := by
  cases held : pool.spot? handle with
  | none => exact (release_retains held).kept other spot found
  | some gone =>
    refine (release_drops held).2.kept other spot found ?_
    rintro rfl
    exact apart held

theorem locate_release {other : Handle} (found : pool.spot? other = some spot)
    (apart : pool.spot? handle ≠ some spot) : (pool.release handle).2.locate other = pool.locate other := by
  have returned := pool.release_returned handle
  generalize (pool.release handle).2 = later at returned
  cases returned with
  | nothing same => rw [same]
  | @number _ number before behind named live =>
    subst named
    cases leads_of_spot? found with
    | filed folder => cases before.symm.trans folder
    | @numbered _ old =>
      have different : old ≠ number := by
        rintro rfl
        exact apart found
      simp only [locate, before, behind, window?_filter live, if_neg different]
  | @name _ _ key _ before behind named place unlike volume =>
    subst named
    cases leads_of_spot? found with
    | numbered anonymous => cases before.symm.trans anonymous
    | @filed _ _ old _ _ held =>
      have filed := Volume.find?_of_place place unlike
      have different : old ≠ key := by
        rintro rfl
        obtain rfl := Option.some.inj (filed.symm.trans (Volume.find?_of_place held nofun))
        exact apart (by simp only [spot?, before, place])
      have stays := Volume.place_remove_of_found
        (fun folder => unlike (Option.some.inj (filed.symm.trans folder))) different held
      simp only [locate, before, behind, volume, stays, held]

end Pool

end SharedRecords.Region
