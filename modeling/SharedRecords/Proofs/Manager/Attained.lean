import SharedRecords.Manager.Basic
import SharedRecords.Proofs.Session.Starting

/-!
What a manager can come to, one operation of some caller or one turn of one session at a time. Whatever is
done, its pool stays sound, no fault is planned, and the regions of its sessions lie on cells that are there.
-/

namespace SharedRecords

/-- Both regions of a channel lie on cells that are there. -/
structure Channel.ServerEnd.Inside (server : ServerEnd) (memory : Region.Memory) : Prop where
  request : server.request.index < memory.next
  response : server.response.index < memory.next

namespace Manager

open Session (Resources)

structure Sound (manager : Manager) : Prop where
  resources : manager.resources.Sound
  inside : ∀ session ∈ manager.sessions, ∀ link, session.link = some link →
    link.channel.request.index < manager.memory.next

def serveAt (manager : Manager) (place : Nat) (elapsed : Duration) : Manager :=
  match manager.sessions[place]? with
  | none => manager
  | some session =>
    { manager with
      sessions := manager.sessions.set place (session.serve elapsed manager.resources).1
      resources := (session.serve elapsed manager.resources).2 }

/-- One operation of any caller, or one turn of one session, however long it takes. -/
inductive Step (manager : Manager) : Manager → Prop where
  | installSchema (schema : Schema) : Step manager (manager.installSchema schema).2
  | spawn : Step manager manager.spawn.2
  | spawnWith (request response : Region.Handle) : Step manager (manager.spawnWith request response).2
  | turn (place : Nat) (elapsed : Duration) : Step manager (manager.serveAt place elapsed)
  | join {later : Manager} {id : SessionId} {result : Except Session.Error Session.Summary}
      (joined : manager.join id = some (result, later)) : Step manager later
  | reap : Step manager manager.reap.2
  /-- The store is used beside the sessions. -/
  | store (store : Store) : Step manager { manager with
      resources := { manager.resources with backend := { manager.resources.backend with store } } }
  | write {memory : Region.Memory} (next : memory.next = manager.memory.next) : Step manager (manager.setMemory memory)
  | allocate (capacity : Nat) : Step manager (manager.setPool (manager.pool.allocate capacity).2)
  | map (handle : Region.Handle) : Step manager (manager.setPool (manager.pool.map handle).2)
  | release (handle : Region.Handle) : Step manager (manager.release handle)
  | writeFile {path : String} {bytes : List UInt8} {pool : Region.Pool}
      (written : manager.pool.writeFile path bytes = .ok pool) : Step manager (manager.setPool pool)

/-- A manager over the plain store, after any number of steps. -/
inductive Attained : Manager → Prop where
  | new (store : Store) {pool : Region.Pool} (sound : pool.Sound) (options : Session.Options) :
      Attained (.new (.ofStore store) pool options)
  | step {manager later : Manager} (attained : Attained manager) (step : manager.Step later) : Attained later

/-- Cells stay, and each channel of a session is one of before or lies on cells that are there. -/
structure Inherits (manager later : Manager) : Prop where
  steady : manager.resources.Steady later.resources
  channels : ∀ session ∈ later.sessions, ∀ link, session.link = some link →
    (∃ old ∈ manager.sessions, ∃ before, old.link = some before ∧ link.channel = before.channel) ∨
      link.channel.Inside later.memory

variable {manager between later : Manager}

namespace Inherits

theorem of_steady (steady : manager.resources.Steady later.resources)
    (fewer : ∀ session ∈ later.sessions, session ∈ manager.sessions) : manager.Inherits later where
  steady := steady
  channels session member link held := .inl ⟨session, fewer session member, link, held, rfl⟩

theorem refl (manager : Manager) : manager.Inherits manager := of_steady (.refl _) fun _ member => member

theorem trans (first : manager.Inherits between) (second : between.Inherits later) : manager.Inherits later where
  steady := first.steady.trans second.steady
  channels session member link held := by
    obtain ⟨old, there, before, linked, same⟩ | inside := second.channels session member link held
    · obtain ⟨older, here, first, linked, was⟩ | inside := first.channels old there before linked
      · exact .inl ⟨older, here, first, linked, same.trans was⟩
      · rw [same]
        exact .inr ⟨Nat.lt_of_lt_of_le inside.request second.steady.next,
          Nat.lt_of_lt_of_le inside.response second.steady.next⟩
    · exact .inr inside

theorem sound (inherits : manager.Inherits later) (sound : manager.Sound) : later.Sound where
  resources := inherits.steady.sound sound.resources
  inside session member link held := by
    obtain ⟨old, there, before, linked, same⟩ | inside := inherits.channels session member link held
    · rw [same]
      exact Nat.lt_of_lt_of_le (sound.inside old there before linked) inherits.steady.next
    · exact inside.request

theorem setPool {pool : Region.Pool} (next : manager.memory.next ≤ pool.memory.next)
    (still : manager.pool.Sound → pool.Sound) : manager.Inherits (manager.setPool pool) :=
  of_steady ⟨next, fun resources => ⟨still resources.pool, resources.faultless⟩⟩ fun _ member => member

theorem allocate (manager : Manager) (capacity : Nat) :
    manager.Inherits (manager.setPool (manager.pool.allocate capacity).2) :=
  setPool (manager.pool.next_allocate capacity) fun sound => sound.allocate capacity

theorem release (manager : Manager) (handle : Region.Handle) : manager.Inherits (manager.release handle) :=
  of_steady (.release _ _) fun _ member => member

theorem countSpawnFailure (manager : Manager) : manager.Inherits manager.countSpawnFailure :=
  of_steady (.serve rfl _) fun _ member => member

theorem discard (manager : Manager) (holding : Session.Holding) : manager.Inherits (manager.discard holding) := by
  unfold Manager.discard
  dsimp only
  split
  · exact ((countSpawnFailure manager).trans (release _ _)).trans (release _ _)
  · exact countSpawnFailure manager

theorem installSchema (manager : Manager) (schema : Schema) : manager.Inherits (manager.installSchema schema).2 := by
  have faults : (manager.resources.backend.createTables schema.tables).2.faults =
      manager.resources.backend.faults := by
    unfold Store.Backend.createTables
    split
    · rfl
    · rfl
    · split
      · rfl
      · rfl
  unfold Manager.installSchema
  split
  · exact refl manager
  · split
    next created =>
      rw [created] at faults
      exact of_steady (.serve faults manager.resources.metrics) fun _ member => member
    next created =>
      rw [created] at faults
      exact of_steady (.serve faults manager.resources.metrics) fun _ member => member

theorem launch (sound : manager.Sound) (holding : Session.Holding) : manager.Inherits (manager.launch holding).2 := by
  have steady := Session.start_steady ⟨UInt64.ofNat (manager.launched + 1)⟩ holding manager.options
    manager.resources
  unfold Manager.launch
  dsimp only
  rcases began : Session.start ⟨UInt64.ofNat (manager.launched + 1)⟩ holding manager.options
    manager.resources with ⟨failure, session, resources⟩
  rw [began] at steady
  have started : manager.Inherits { manager with launched := manager.launched + 1, resources } :=
    of_steady steady fun _ member => member
  cases failure with
  | some error => exact started.trans (discard _ holding)
  | none =>
    obtain ⟨link, request, response, linked⟩ := Session.start_of_none began
    have pool := sound.resources.pool
    refine ⟨steady.trans (.serve rfl _), ?_⟩
    intro other member own held
    rcases List.mem_append.1 member with old | new
    · exact .inl ⟨other, old, own, held, rfl⟩
    · rw [List.mem_singleton.1 new] at held
      obtain rfl := Option.some.inj (linked.held.symm.trans held)
      refine .inr ⟨?_, ?_⟩
      · rw [linked.asked]
        exact Nat.lt_of_lt_of_le (Region.Pool.locate_inside pool linked.locates_request) steady.next
      · rw [linked.told]
        exact Nat.lt_of_lt_of_le (Region.Pool.locate_inside pool linked.locates_response) steady.next

theorem allocatePair (manager : Manager) : manager.Inherits manager.allocatePair.2 := by
  have first := allocate manager manager.options.capacity
  unfold Manager.allocatePair
  dsimp only
  generalize manager.pool.allocate manager.options.capacity = attempt at first
  obtain ⟨result, pool⟩ := attempt
  cases result with
  | error error => exact first.trans (countSpawnFailure _)
  | ok request =>
    have second := first.trans (allocate _ manager.options.capacity)
    dsimp only at second ⊢
    rw [show (manager.setPool pool).pool = pool from rfl] at second
    generalize pool.allocate manager.options.capacity = attempt at second
    obtain ⟨result, last⟩ := attempt
    cases result with
    | error error => exact (second.trans (countSpawnFailure _)).trans (release _ request)
    | ok response => exact second

theorem spawn (sound : manager.Sound) : manager.Inherits manager.spawn.2 := by
  have allocated := allocatePair manager
  unfold Manager.spawn
  split
  · exact refl manager
  · split
    next refused =>
      rw [refused] at allocated
      exact allocated
    next granted =>
      rw [granted] at allocated
      exact allocated.trans (launch (allocated.sound sound) _)

theorem spawnWith (sound : manager.Sound) (request response : Region.Handle) :
    manager.Inherits (manager.spawnWith request response).2 := by
  unfold Manager.spawnWith
  split
  · exact refl manager
  · exact launch sound _

theorem turn (manager : Manager) (place : Nat) (elapsed : Duration) :
    manager.Inherits (manager.serveAt place elapsed) := by
  unfold serveAt
  cases placed : manager.sessions[place]? with
  | none => exact refl manager
  | some session =>
    have orderly := session.serve_orderly elapsed manager.resources
    refine ⟨orderly.steady, fun other member link held => .inl ?_⟩
    rcases List.mem_or_eq_of_mem_set member with old | rfl
    · exact ⟨other, old, link, held, rfl⟩
    · obtain ⟨before, linked, same⟩ := orderly.channel link held
      exact ⟨session, List.mem_of_getElem? placed, before, linked, same⟩

theorem join {id : SessionId} {result : Except Session.Error Session.Summary}
    (joined : manager.join id = some (result, later)) : manager.Inherits later := by
  unfold Manager.join at joined
  split at joined
  · obtain ⟨_, rfl⟩ := Option.some.inj joined
    exact refl manager
  · obtain ⟨_, _, same⟩ := Option.map_eq_some_iff.1 joined
    obtain rfl := congrArg Prod.snd same
    exact of_steady (.refl _) fun _ member => (List.mem_filter.1 member).1

end Inherits

theorem Step.inherits (step : manager.Step later) (sound : manager.Sound) : manager.Inherits later := by
  cases step with
  | installSchema schema => exact .installSchema manager schema
  | spawn => exact .spawn sound
  | spawnWith request response => exact .spawnWith sound request response
  | turn place elapsed => exact .turn manager place elapsed
  | join joined => exact .join joined
  | reap => exact .of_steady (.refl _) fun _ member => (List.mem_filter.1 member).1
  | store store =>
    let backend := { manager.resources.backend with store }
    have faults : backend.faults = manager.resources.backend.faults := rfl
    exact .of_steady (.serve faults manager.metrics) fun _ member => member
  | write next => exact .of_steady (.write next manager.metrics) fun _ member => member
  | allocate capacity => exact .allocate manager capacity
  | map handle =>
    have same := congrArg Region.Memory.next (manager.pool.memory_map handle)
    exact .setPool (Nat.le_of_eq same.symm) fun sound => sound.map handle
  | release handle => exact .release manager handle
  | writeFile written =>
    exact .setPool (Region.Pool.next_writeFile written) fun sound => sound.writeFile written

theorem Sound.allocatePair (sound : manager.Sound) : manager.allocatePair.2.Sound :=
  (Inherits.allocatePair manager).sound sound

theorem Sound.spawn (sound : manager.Sound) : manager.spawn.2.Sound := (Inherits.spawn sound).sound sound

theorem Attained.sound (attained : manager.Attained) : manager.Sound := by
  induction attained with
  | new store sound options => exact ⟨⟨sound, fun _ => rfl⟩, fun _ member => absurd member List.not_mem_nil⟩
  | step _ step ih => exact (step.inherits ih).sound ih

theorem Attained.inside (attained : manager.Attained) {session : Session} {link : Session.Link}
    (member : session ∈ manager.sessions) (held : session.link = some link) :
    link.channel.Inside manager.memory := by
  induction attained generalizing session link with
  | new store sound options => exact absurd member List.not_mem_nil
  | @step manager later attained step ih =>
    have inherits := step.inherits attained.sound
    obtain ⟨old, there, before, linked, same⟩ | inside := inherits.channels session member link held
    · obtain ⟨request, response⟩ := ih there linked
      rw [same]
      exact ⟨Nat.lt_of_lt_of_le request inherits.steady.next, Nat.lt_of_lt_of_le response inherits.steady.next⟩
    · exact inside

/-! ## Rounds -/

theorem serveRound_eq (manager : Manager) :
    manager.serveRound =
      (List.range manager.sessions.length).foldl (fun later place => later.serveAt place .zero) manager := by
  -- the sessions in front have had their turn
  have onward (resources : Resources) (front rest : List Session) :
      (List.range' front.length rest.length).foldl (fun later place => later.serveAt place .zero)
          { manager with sessions := front ++ rest, resources } =
        { manager with
          sessions := front ++ (serveEach resources rest).1
          resources := (serveEach resources rest).2 } := by
    induction rest generalizing resources front with
    | nil => rfl
    | cons first rest ih =>
      let served := first.serve .zero resources
      have next : serveAt { manager with sessions := front ++ first :: rest, resources } front.length .zero =
          { manager with sessions := (front ++ [served.1]) ++ rest, resources := served.2 } := by
        unfold serveAt
        simp only [List.getElem?_append_right (Nat.le_refl _), Nat.sub_self,
          List.getElem?_cons_zero, List.set_append_right _ _ (Nat.le_refl _), List.set_cons_zero,
          List.append_assoc, List.singleton_append]
        rfl
      rw [List.length_cons, List.range'_succ, List.foldl_cons, next,
        show front.length + 1 = (front ++ [served.1]).length by simp, ih]
      simp only [serveEach, List.append_assoc, List.singleton_append]
      rfl
  have whole := onward manager.resources [] manager.sessions
  rw [List.nil_append, List.length_nil, ← List.range_eq_range'] at whole
  exact whole.symm

theorem Attained.turns (attained : manager.Attained) (places : List Nat) (elapsed : Duration) :
    Attained (places.foldl (fun later place => later.serveAt place elapsed) manager) := by
  induction places generalizing manager with
  | nil => exact attained
  | cons place rest ih => exact ih (attained.step (.turn place elapsed))

theorem Attained.serveRound (attained : manager.Attained) : manager.serveRound.Attained := by
  rw [serveRound_eq]
  exact attained.turns _ _

end Manager

end SharedRecords
