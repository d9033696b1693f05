import SharedRecords.Proofs.Session.Responses

/-!
What a session does for a request flag that it takes: it puts a status into the response flag, unless the store
crashes under it. A session publishes that it aborts for no request that it answers.
-/

namespace SharedRecords.Session

/-- A request flag that was taken, and the status that was published for it. -/
structure Service where
  flag : UInt8
  told : Option Wire.Status
  deriving DecidableEq, Repr

/-- A response to a request of this kind, under this status. An abort is a response to none. -/
def Service.answers (opcode : Wire.Opcode) (status : Wire.Status) (service : Service) : Bool :=
  service.flag == opcode.byte && service.told == some status && status.isRecoverable

/-- The status that is in the response flag behind a turn in which a request was taken. There is none if the store
has crashed under the session and the flag is as it was. -/
def told? (link : Link) (resources : Resources) (later : Session) (after : Resources) : Option Wire.Status :=
  let flag (shared : Resources) : UInt8 := shared.memory.flag link.channel.response.index
  if later.hasEnded ∧ flag after = flag resources then none else Wire.Status.ofByte? (flag after)

/-- What is served in a turn: the request flag it takes, with the status that is found in the response flag behind it. -/
def services (session : Session) (resources : Resources) (later : Session) (after : Resources) : List Service :=
  match session.pending? resources with
  | none => []
  | some (link, flag) => [⟨flag, told? link resources later after⟩]

/-- The request flag that the session takes in a turn, with the status that its journal tells. -/
def noted (session : Session) (resources : Resources) (later : Session) : List Service :=
  match session.pending? resources with
  | none => []
  | some (_, flag) => [⟨flag, session.said? later⟩]

def hasAborted (session : Session) : Bool := session.journal.contains (.published .aborted)

variable {session later leaving : Session} {resources after between : Resources} {link : Link} {flag : UInt8}
  {request : Wire.Request} {status told : Wire.Status} {elapsed : Duration} {result : Except Error Summary}

theorem noted_of_idle (idle : session.Idle resources.memory) (later : Session) :
    session.noted resources later = [] := by
  unfold noted
  rw [pending?_eq_none_iff.2 idle]

theorem noted_of_raised (held : session.link = some link)
    (raised : resources.memory.flag link.channel.request.index = flag) (pending : flag ≠ Wire.emptyFlag)
    (later : Session) : session.noted resources later = [⟨flag, session.said? later⟩] := by
  unfold noted
  rw [pending?_of_raised held raised pending]

theorem noted_of_asks (held : session.link = some link) (asks : Asks link resources.memory request)
    (later : Session) : session.noted resources later = [⟨request.opcode.byte, session.said? later⟩] :=
  noted_of_raised held asks.raised request.opcode.byte_ne_empty later

theorem noted_of_refuses {cause : Violation} (held : session.link = some link)
    (refuses : Refuses link resources.memory cause) (later : Session) :
    ∃ flag, session.noted resources later = [⟨flag, session.said? later⟩] := by
  cases refuses with
  | unknown raised pending => exact ⟨_, noted_of_raised held raised pending later⟩
  | @malformed opcode _ raised => exact ⟨_, noted_of_raised held raised opcode.byte_ne_empty later⟩

/-! ## The flag tells what the journal does -/

theorem told?_of_raised (unended : later.hasEnded = false)
    (raised : after.memory.flag link.channel.response.index = status.byte) :
    told? link resources later after = some status := by
  unfold told?
  dsimp only
  rw [if_neg fun both => Bool.eq_false_iff.1 unended both.1, raised]
  cases status <;> rfl

theorem told?_of_crash (session : Session) (link : Link) (resources : Resources) :
    told? link resources session.crash resources = none :=
  if_pos ⟨rfl, rfl⟩

theorem services_eq_noted_of_told (same : ∀ link flag, session.pending? resources = some (link, flag) →
      told? link resources later after = session.said? later) :
    session.services resources later after = session.noted resources later := by
  unfold services noted
  cases taken : session.pending? resources with
  | none => rfl
  | some pending => exact congrArg (fun told => [Service.mk pending.2 told]) (same _ _ taken)

/-- Behind a turn in which a session answers a request, the response flag holds the status that it has noted. If
the store has crashed, nothing is noted, and the flag holds what it held. -/
theorem services_eq_noted (mapped : session.Mapped resources.memory)
    (unended : ∀ link, session.link = some link → session.hasEnded = false)
    (served : session.serve elapsed resources = (later, after)) (serving : later.state = .serving) :
    session.services resources later after = session.noted resources later := by
  refine services_eq_noted_of_told fun link flag taken => ?_
  have turn := session.serve_turn elapsed resources
  rw [served] at turn
  have gone (leaving : Session) (result : Except Error Summary) (between : Resources)
      (torn : leaving.teardown result between = (later, after)) : False := by
    have stopped := leaving.teardown_state result between
    rw [torn] at stopped
    exact stopped serving
  generalize came : (later, after) = pair at turn
  cases turn with
  | idle idle => nomatch (pending?_eq_none_iff.2 idle).symm.trans taken
  | crashed =>
    obtain ⟨rfl, rfl⟩ := Prod.mk.inj came
    exact (told?_of_crash _ _ _).trans (said?_of_same rfl).symm
  | answered held asks other handled published =>
    obtain ⟨rfl, rfl⟩ := Prod.mk.inj came
    obtain rfl := Option.some.inj (held.symm.trans (link_of_pending? taken))
    rw [said?_of_published rfl]
    exact told?_of_raised (unended _ held) (publish_raised (mapped _ held) published)
  | refused | closed | overflowed => exact (gone _ _ _ came.symm).elim

theorem Leaves.services_eq_noted (leaves : session.Leaves elapsed resources leaving result between)
    (mapped : session.Mapped resources.memory)
    (unended : ∀ link, session.link = some link → session.hasEnded = false) :
    session.services resources leaving between = session.noted resources leaving := by
  refine services_eq_noted_of_told fun link flag taken => ?_
  have held := link_of_pending? taken
  have still : leaving.hasEnded = false := by
    cases leaves with
    | refused | closed | overflowed => exact unended link held
  rw [said?_of_published leaves.noted]
  exact told?_of_raised still (leaves.raised held (mapped link held))

theorem publish_ne_aborted {server : Channel.ServerEnd} {memory later : Region.Memory}
    {outcome : Store.Outcome}
    (published : publish server memory outcome.status outcome.chunks = (.ok told, later)) : told ≠ .aborted := by
  unfold publish at published
  split at published
  · obtain ⟨same, _⟩ := Prod.mk.inj published
    obtain rfl := Except.ok.inj same
    exact outcome.status_ne_aborted
  · split at published
    · obtain ⟨same, _⟩ := Prod.mk.inj published
      obtain rfl := Except.ok.inj same
      exact nofun
    · nomatch (Prod.mk.inj published).1

end SharedRecords.Session
