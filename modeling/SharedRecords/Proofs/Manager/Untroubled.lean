import Mathlib.Logic.Relation
import SharedRecords.Proofs.Manager.Joining
import SharedRecords.Proofs.Manager.Transparent
import SharedRecords.Proofs.Session.Conversation

/-!
A client that keeps to its part is never let down. Over two regions of one size none of its calls can end
the session, since a request that could be read has shown that there is room for an excuse.
-/

namespace SharedRecords

namespace Conversation

variable {talk : Conversation} {link : Session.Link} {request : Wire.Request}

/-! ## Meanwhile -/

section Meanwhile

variable {later : Session.Resources}

theorem Untouched.request_flag (untouched : talk.Untouched later) (bound : talk.Bound link) :
    later.memory.flag link.channel.request.index = talk.resources.memory.flag link.channel.request.index := by
  rw [← bound.joined.request]
  exact congrArg Region.Cell.flag untouched.request

theorem Untouched.response_flag (untouched : talk.Untouched later) (bound : talk.Bound link) :
    later.memory.flag link.channel.response.index = talk.resources.memory.flag link.channel.response.index := by
  rw [← bound.joined.response]
  exact congrArg Region.Cell.flag untouched.response

theorem Untouched.bound (untouched : talk.Untouched later) (bound : talk.Bound link) :
    Bound { talk with resources := later } link where
  held := bound.held
  joined := bound.joined.of_next untouched.cells
  level := bound.level
  patient := bound.patient
  unended := bound.unended
  unclosed := bound.unclosed

theorem Untouched.asks (untouched : talk.Untouched later) (bound : talk.Bound link)
    (asks : Session.Asks link talk.resources.memory request) : Session.Asks link later.memory request where
  raised := (untouched.request_flag bound).trans asks.raised
  decoded := by
    have cell := untouched.request
    rw [bound.joined.request] at cell
    have decoded := asks.decoded
    unfold Channel.ServerEnd.decode Region.Window.payload at decoded ⊢
    rw [cell]
    exact decoded

theorem Untouched.phase (untouched : talk.Untouched later) (phase : talk.Phase) :
    Phase { talk with resources := later } := by
  cases phase with
  | quiet quiet =>
    exact .quiet {
      bound := untouched.bound quiet.bound
      free := quiet.free
      request_flag := (untouched.request_flag quiet.bound).trans quiet.request_flag
      response_flag := (untouched.response_flag quiet.bound).trans quiet.response_flag
      counted := quiet.counted }
  | pending pending =>
    exact .pending {
      bound := untouched.bound pending.bound
      asked := pending.asked
      asks := untouched.asks pending.bound pending.asks
      fits := pending.fits
      response_flag := (untouched.response_flag pending.bound).trans pending.response_flag
      counted := pending.counted }
  | @told link request told =>
    obtain ⟨status, result, known, raised, read, regular⟩ := told.readable
    have cell := untouched.response
    rw [told.bound.joined.response] at cell
    exact .told {
      bound := untouched.bound told.bound
      asked := told.asked
      other := told.other
      request_flag := (untouched.request_flag told.bound).trans told.request_flag
      readable := by
        refine ⟨status, result, known, (untouched.response_flag told.bound).trans raised, ?_, regular⟩
        unfold Region.Window.payload at read ⊢
        rw [cell]
        exact read
      counted := told.counted }
  | closing asked ended response_flag =>
    exact .closing asked ⟨ended.unlinked, ended.finished⟩
      ((congrArg Region.Cell.flag untouched.response).trans response_flag)
  | closed free ended closed => exact .closed free ⟨ended.unlinked, ended.finished⟩ closed

end Meanwhile

/-! ## The whole conversation -/

variable {later : Conversation}

theorem Sound.served (sound : talk.Sound) (elapsed : Duration) : (talk.served elapsed).Sound := by
  have sane (entry : Store.Entry) : (talk.served elapsed).resources.backend.faults entry ≠ some .crashes := by
    unfold Conversation.served
    rw [Session.serve_faults]
    exact sound.sane entry
  cases sound.phase with
  | quiet quiet =>
    rw [served_idle (quiet.bound.idle quiet.request_flag)]
    exact sound
  | @pending link request pending =>
    by_cases closing : request = .close
    · subst closing
      obtain ⟨ended, journal, raised⟩ := pending.closes sound.sane elapsed
      refine ⟨.closing pending.asked ended raised, sound.regular, ?_, sane⟩
      intro member
      rcases journal .aborted member with same | earlier
      · contradiction
      · exact sound.kept earlier
    · obtain ⟨context, status, told, known, journal⟩ := pending.served closing sound.sane elapsed
      refine ⟨.told told, sound.regular, ?_, sane⟩
      rw [journal]
      intro member
      rcases List.mem_cons.1 member with same | earlier
      · exact known (Session.Event.published.inj same).symm
      · exact sound.kept earlier
  | told told =>
    rw [served_idle (told.bound.idle told.request_flag)]
    exact sound
  | closing _ ended =>
    rw [ended.served]
    exact sound
  | closed _ ended =>
    rw [ended.served]
    exact sound

theorem Phase.quiet_of_free (phase : talk.Phase) (free : talk.asked = none) (unclosed : ¬ talk.Closed) :
    ∃ link, talk.Quiet link := by
  cases phase with
  | quiet quiet => exact ⟨_, quiet⟩
  | pending pending => exact nomatch free.symm.trans pending.asked
  | told told => exact nomatch free.symm.trans told.asked
  | closing asked => exact nomatch free.symm.trans asked
  | closed _ _ closed => exact absurd closed unclosed

theorem Step.sound (step : talk.Step later) (sound : talk.Sound) : later.Sound := by
  cases step with
  | refused free unclosed submitted =>
    obtain ⟨link, quiet⟩ := sound.phase.quiet_of_free free unclosed
    obtain ⟨regular, next⟩ := quiet.refused submitted
    refine ⟨.quiet next, ?_, sound.kept, sound.sane⟩
    exact List.forall_mem_cons.2 ⟨regular, sound.regular⟩
  | raised free unclosed submitted =>
    obtain ⟨link, quiet⟩ := sound.phase.quiet_of_free free unclosed
    exact ⟨.pending (quiet.raised submitted), sound.regular, sound.kept, sound.sane⟩
  | served elapsed => exact sound.served elapsed
  | @answered request result channel memory asked finished =>
    cases sound.phase with
    | quiet quiet => exact nomatch asked.symm.trans quiet.free
    | pending pending =>
      rw [pending.waits] at finished
      contradiction
    | told told =>
      obtain rfl := Option.some.inj (asked.symm.trans told.asked)
      obtain ⟨regular, next⟩ := told.answered finished
      refine ⟨.quiet next, ?_, sound.kept, sound.sane⟩
      exact List.forall_mem_cons.2 ⟨regular, sound.regular⟩
    | closing closes ended response_flag =>
      obtain rfl := Option.some.inj (asked.symm.trans closes)
      obtain rfl := close_answered response_flag finished
      refine ⟨.closed rfl ⟨ended.unlinked, ended.finished⟩ ⟨_, List.mem_cons_self⟩, ?_, sound.kept, sound.sane⟩
      exact List.forall_mem_cons.2 ⟨.reply .empty, sound.regular⟩
    | closed free => exact nomatch asked.symm.trans free
  | meanwhile untouched => exact ⟨untouched.phase sound.phase, sound.regular, sound.kept, untouched.sane⟩

theorem Ended.result? (ended : talk.Ended) :
    talk.session.result? = some (.ok ⟨talk.session.id, talk.raised⟩) := by
  unfold Session.result?
  rw [ended.finished]
  rfl

theorem Bound.result? (bound : talk.Bound link) : talk.session.result? = none := by
  unfold Session.result?
  rw [bound.unended]
  rfl

theorem Sound.responds (sound : talk.Sound) (asked : talk.asked = some request) (elapsed : Duration) :
    ∃ answer, (talk.served elapsed).client.channel.finish (talk.served elapsed).resources.memory request.opcode
      (Client.responseReader request.opcode) = some answer := by
  suffices raised : ∃ status : Wire.Status, (talk.served elapsed).resources.memory.flag
      (talk.served elapsed).client.channel.response.index = status.byte by
    obtain ⟨status, raised⟩ := raised
    exact ⟨_, Channel.ClientEnd.finish_raised raised _ _⟩
  cases sound.phase with
  | quiet quiet => exact nomatch asked.symm.trans quiet.free
  | @pending link other pending =>
    by_cases closing : other = .close
    · subst closing
      obtain ⟨_, _, raised⟩ := pending.closes sound.sane elapsed
      exact ⟨.ok, raised⟩
    · obtain ⟨context, _, told, _⟩ := pending.served closing sound.sane elapsed
      obtain ⟨status, _, _, raised, _⟩ := told.readable
      rw [told.bound.joined.response]
      exact ⟨status, raised⟩
  | told told =>
    obtain ⟨status, _, _, raised, _⟩ := told.readable
    rw [served_idle (told.bound.idle told.request_flag), told.bound.joined.response]
    exact ⟨status, raised⟩
  | closing _ ended response_flag =>
    rw [ended.served]
    exact ⟨.ok, response_flag⟩
  | closed free => exact nomatch asked.symm.trans free

theorem Sound.untroubled (sound : talk.Sound) : talk.Untroubled where
  regular := sound.regular
  kept := sound.kept
  ends := by
    cases sound.phase with
    | quiet quiet => exact .inl quiet.bound.result?
    | pending pending => exact .inl pending.bound.result?
    | told told => exact .inl told.bound.result?
    | closing _ ended => exact .inr ended.result?
    | closed _ ended => exact .inr ended.result?
  closes := by
    intro closed
    cases sound.phase with
    | quiet quiet => exact absurd closed quiet.bound.unclosed
    | pending pending => exact absurd closed pending.bound.unclosed
    | told told => exact absurd closed told.bound.unclosed
    | closing _ ended => exact ended.result?
    | closed _ ended => exact ended.result?
  responds := fun _ asked elapsed => sound.responds asked elapsed

/-- Whatever is said and done in a conversation, it stays sound. -/
theorem sound_of_reaches (reaches : Relation.ReflTransGen Step talk later) (sound : talk.Sound) : later.Sound := by
  induction reaches with
  | refl => exact sound
  | tail _ step ih => exact step.sound ih

/-! ## A call, step by step -/

/-- One call from its request to its response, with one turn of the session in between. -/
def call (talk : Conversation) (request : Wire.Request) : Option Conversation :=
  match talk.client.channel.submit talk.resources.memory request.opcode request.chunks with
  | (some error, memory) =>
    some { talk with
      resources := talk.resources.setMemory memory
      calls := (request, .error (.channel error)) :: talk.calls }
  | (none, memory) =>
    let told := { talk with
      resources := talk.resources.setMemory memory
      asked := some request
      raised := talk.raised + 1 }.served .zero
    (told.client.channel.finish told.resources.memory request.opcode (Client.responseReader request.opcode)).map
      fun (result, channel, memory) => { told with
        client := { told.client with channel }
        resources := told.resources.setMemory memory
        asked := none
        calls := (request, Client.settle result) :: told.calls }

theorem call_reaches (free : talk.asked = none) (unclosed : ¬ talk.Closed) (called : talk.call request = some later) :
    later.asked = none ∧ Relation.ReflTransGen Step talk later := by
  unfold call at called
  split at called
  next error memory submitted =>
    obtain rfl := Option.some.inj called
    exact ⟨free, .single (.refused free unclosed submitted)⟩
  next memory submitted =>
    obtain ⟨⟨result, channel, rest⟩, finished, rfl⟩ := Option.map_eq_some_iff.1 called
    exact ⟨rfl, ((Relation.ReflTransGen.single (.raised free unclosed submitted)).tail (.served .zero)).tail
      (.answered rfl finished)⟩

end Conversation

namespace Manager

variable {manager spawned connected : Manager} {address : Channel.Address} {options : Client.Options}
  {client : Client} {session : Session} {link : Session.Link} {request response : Region.Window}
  {talk : Conversation}

theorem Opened.begin_sound (opened : manager.Opened connected client session link request response)
    (level : request.room = response.room) (patient : client.channel.poller.deadline = none)
    (reached : connected.Reached) : (Conversation.begin client session connected.resources).Sound where
  phase := .quiet {
    bound := {
      held := opened.held
      joined := opened.joined
      level := by rw [opened.request, opened.response, level]
      patient
      unended := opened.unended
      unclosed := fun ⟨_, member⟩ => absurd member List.not_mem_nil }
    free := rfl
    request_flag := opened.quiet
    response_flag := opened.lowered
    counted := opened.requests }
  regular := fun _ member => absurd member List.not_mem_nil
  kept := by
    show .published .aborted ∉ session.journal
    rw [opened.journal]
    decide
  sane := by
    intro entry planned
    exact nomatch (reached.sound.resources.faultless entry).symm.trans planned

/-- Every conversation of a patient client with the session that was spawned for it. -/
theorem conversation_untroubled (reached : manager.Reached) (spawn : manager.spawn = (.ok address, spawned))
    (connect : spawned.connect address options = (.ok client, connected)) (patient : options.pollTimeout = none)
    (enrolled : spawned.sessions = manager.sessions ++ [session])
    (reaches : Relation.ReflTransGen Conversation.Step
      (Conversation.begin client session connected.resources) talk) : talk.Untroubled := by
  obtain ⟨own, link, opened⟩ := opened_of_spawn reached.sound spawn connect
  have last := reached.spawn.connect address options
  rw [spawn, connect] at last
  unfold Manager.connect at connect
  rcases attempt : Client.connect spawned.pool address options with ⟨result, pool⟩
  rw [attempt] at connect
  obtain ⟨rfl, rfl⟩ := Prod.mk.inj connect
  have same : [session] = [own] := List.append_cancel_left (enrolled.symm.trans opened.sessions)
  obtain rfl := List.singleton_inj.1 same
  have deadline : client.channel.poller.deadline = none := by
    rw [Client.connect_poller attempt]
    exact patient
  exact (Conversation.sound_of_reaches reaches (opened.begin_sound rfl deadline last)).untroubled

/-- A client that inserts a record and then asks to close, and a session that meets both. -/
theorem oneTable_conversation_untroubled : ∃ address client connected session talk,
    oneTable.spawn.1 = .ok address ∧ oneTable.spawn.2.connect address {} = (.ok client, connected) ∧
      oneTable.spawn.2.sessions = [session] ∧
      Relation.ReflTransGen Conversation.Step (.begin client session connected.resources) talk ∧
      talk.calls = [(.close, .ok .empty), (.insert "people" "ada" [⟨"name", "Ada"⟩], .ok .empty)] ∧
      talk.session.result? = some (.ok ⟨⟨1⟩, 2⟩) ∧
      talk.Untroubled := by
  have bare : Region.Pool.Bare .empty := nofun
  have reached : oneTable.Reached := .installSchema (.new .empty (Region.Pool.anonymous_sound bare none) _) _
  let address : Channel.Address := ⟨⟨1⟩, .anonymous 1, .anonymous 2⟩
  have spawn : oneTable.spawn = (.ok address, oneTable.spawn.2) := rfl
  let client : Client := ⟨⟨1⟩, .connect ⟨⟨0, 64⟩, .anonymous 1⟩ ⟨⟨1, 64⟩, .anonymous 2⟩ (Client.Options.poller {})⟩
  let connected := (oneTable.spawn.2.connect address {}).2
  have connect : oneTable.spawn.2.connect address {} = (.ok client, connected) := rfl
  let session : Session := oneTable.spawn.2.sessions.get ⟨0, by decide⟩
  have enrolled : oneTable.spawn.2.sessions = [session] := rfl
  let first : Conversation := .begin client session connected.resources
  let insert : Wire.Request := .insert "people" "ada" [⟨"name", "Ada"⟩]
  have inserted : (first.call insert).map (·.calls) = some [(insert, .ok .empty)] := by decide +kernel
  obtain ⟨second, called, calls⟩ := Option.map_eq_some_iff.1 inserted
  have through : ((first.call insert).bind (·.call .close)).map (fun talk => (talk.calls, talk.session.result?)) =
      some ([(.close, .ok .empty), (insert, .ok .empty)], some (.ok ⟨⟨1⟩, 2⟩)) := by decide +kernel
  rw [called] at through
  obtain ⟨talk, closed, same⟩ := Option.map_eq_some_iff.1 through
  obtain ⟨free, inserts⟩ := Conversation.call_reaches rfl (fun ⟨_, member⟩ => absurd member List.not_mem_nil) called
  have unclosed : ¬ second.Closed := by
    rintro ⟨result, member⟩
    rw [calls] at member
    simp [insert] at member
  have reaches := inserts.trans (Conversation.call_reaches free unclosed closed).2
  obtain ⟨calls, result⟩ := Prod.mk.inj same
  exact ⟨address, client, connected, session, talk, rfl, rfl, enrolled, reaches, calls, result,
    conversation_untroubled reached spawn connect rfl enrolled reaches⟩

end Manager

end SharedRecords
