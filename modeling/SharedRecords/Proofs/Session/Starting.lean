import SharedRecords.Proofs.Session.Orderly

/-!
Starting a session. One that starts is linked to the two regions its handles lead to, with both flags
lowered; one that does not has done no harm.
-/

namespace SharedRecords.Session

variable {session started : Session} {id : SessionId} {holding : Holding} {options : Options}
  {resources later : Resources} {channel : Channel.ServerEnd}

theorem open?_steady (session : Session) (channel : Channel.ServerEnd) (resources : Resources) :
    resources.Steady (session.open? channel resources).2.2 := by
  unfold open?
  cases done : resources.backend.openContext with
  | crashed => exact .refl _
  | finished result backend =>
    have faults := Store.Backend.guarded_faults done
    cases result with
    | error error => exact .serve faults resources.metrics
    | ok context => exact .serve faults resources.metrics

theorem attach_steady (request response : Region.Mapping) (poller : Channel.Poller) (resources : Resources) :
    resources.Steady (resources.setMemory
      (Channel.ServerEnd.attach request response poller resources.memory).2) := by
  have next := (Region.Memory.next_setFlag (resources.memory.setFlag request.index Wire.emptyFlag)
    response.index Wire.emptyFlag).trans (Region.Memory.next_setFlag _ _ _)
  exact Resources.Steady.write next resources.metrics

theorem map_steady (resources : Resources) (handle : Region.Handle) :
    resources.Steady { resources with pool := (resources.pool.map handle).2 } where
  next := Nat.le_of_eq (congrArg Region.Memory.next (resources.pool.memory_map handle)).symm
  sound sound := ⟨sound.pool.map handle, sound.faultless⟩

theorem start_steady (id : SessionId) (holding : Holding) (options : Options) (resources : Resources) :
    resources.Steady (start id holding options resources).2.2 := by
  have first := map_steady resources holding.request
  unfold start
  generalize resources.pool.map holding.request = attempt at first
  obtain ⟨result, mapped⟩ := attempt
  cases result with
  | error error => exact first
  | ok request =>
    have second := map_steady { resources with pool := mapped } holding.response
    dsimp only at second ⊢
    generalize mapped.map holding.response = attempt at second
    obtain ⟨result, pool⟩ := attempt
    cases result with
    | error error => exact first.trans second
    | ok response =>
      have attached := attach_steady request response options.poller { resources with pool }
      exact ((first.trans second).trans attached).trans (open?_steady _ _ _)

structure Started (resources later : Resources) (holding : Holding) (session : Session) (link : Link)
    (request response : Region.Window) : Prop where
  locates_request : resources.pool.locate holding.request = .ok request
  locates_response : resources.pool.locate holding.response = .ok response
  held : session.link = some link
  asked : link.channel.request = { request with handle := holding.request }
  told : link.channel.response = { response with handle := holding.response }
  address : session.address.request = holding.request ∧ session.address.response = holding.response
  memory : later.memory =
    (resources.memory.setFlag request.index Wire.emptyFlag).setFlag response.index Wire.emptyFlag
  located : later.pool.locate = resources.pool.locate

theorem open?_of_none (opened : session.open? channel resources = (none, started, later)) :
    (∃ context, started.link = some ⟨channel, context⟩) ∧ started.holding = session.holding ∧
      later.pool = resources.pool := by
  unfold open? at opened
  cases done : resources.backend.openContext with
  | crashed =>
    rw [done] at opened
    cases congrArg Prod.fst opened
  | finished result backend =>
    rw [done] at opened
    cases result with
    | error error => cases congrArg Prod.fst opened
    | ok context =>
      obtain ⟨_, rfl, rfl⟩ := opened
      exact ⟨⟨context, rfl⟩, rfl, rfl⟩

theorem start_of_none (began : start id holding options resources = (none, session, later)) :
    ∃ link request response, Started resources later holding session link request response := by
  unfold start at began
  dsimp only at began
  rcases first : resources.pool.map holding.request with ⟨result, mapped⟩
  rw [first] at began
  cases result with
  | error error => cases congrArg Prod.fst began
  | ok request =>
    dsimp only at began
    rcases second : mapped.map holding.response with ⟨result, pool⟩
    rw [second] at began
    cases result with
    | error error => cases congrArg Prod.fst began
    | ok response =>
      obtain ⟨⟨asked, requested, rfl⟩, _, rfl⟩ := Region.Pool.map_eq first
      obtain ⟨⟨told, responded, rfl⟩, _, rfl⟩ := Region.Pool.map_eq second
      obtain ⟨⟨context, held⟩, kept, pool⟩ := open?_of_none began
      refine ⟨_, asked, told, requested, responded, held, rfl, rfl, ?_, ?_, ?_⟩
      · unfold address
        rw [kept]
        exact ⟨rfl, rfl⟩
      · exact congrArg Region.Pool.memory pool
      · rw [pool]
        rfl

end SharedRecords.Session
