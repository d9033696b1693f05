import Mathlib.Data.List.Nodup
import SharedRecords.Proofs.Manager.Attained
import SharedRecords.Proofs.Manager.Gathered
import SharedRecords.Proofs.Session.Breach

/-!
Faults stay where they arise. Whatever a client leaves in its regions, the turn of its session ends no other
session and touches nothing of one, and a violation reaches no table.
-/

namespace SharedRecords

def Session.cells (session : Session) : List Nat :=
  match session.link with
  | none => []
  | some link => [link.channel.request.index, link.channel.response.index]

theorem Session.cells_of_link {session : Session} {link : Session.Link} (held : session.link = some link) :
    session.cells = [link.channel.request.index, link.channel.response.index] := by
  rw [cells, held]

namespace Manager

def Separated (manager : Manager) : Prop := (manager.sessions.flatMap Session.cells).Nodup

instance (manager : Manager) : Decidable manager.Separated := inferInstanceAs (Decidable (List.Nodup _))

variable {manager : Manager} {place other : Nat} {session neighbour : Session} {link : Session.Link}

theorem Separated.apart (separated : manager.Separated) (placed : manager.sessions[place]? = some session)
    (held : session.link = some link) : link.channel.request.index ≠ link.channel.response.index := by
  have own := (List.nodup_flatMap.1 separated).1 session (List.mem_of_getElem? placed)
  rw [Session.cells_of_link held] at own
  simpa using own

theorem Separated.others (separated : manager.Separated) (placed : manager.sessions[place]? = some session)
    (beside : manager.sessions[other]? = some neighbour) (different : other ≠ place) {index : Nat}
    (used : index ∈ neighbour.cells) : index ∉ session.cells := by
  have apart := List.pairwise_iff_getElem.1 (List.nodup_flatMap.1 separated).2
  obtain ⟨inside, rfl⟩ := List.getElem?_eq_some_iff.1 placed
  obtain ⟨there, rfl⟩ := List.getElem?_eq_some_iff.1 beside
  rcases Nat.lt_or_gt_of_ne different with before | behind
  · exact fun own => apart other place there inside before used own
  · exact fun own => apart place other inside there behind own used

/-- The turn of one session, which finds something pending, as it shows in the manager. -/
structure Contains (manager : Manager) (place : Nat) (session : Session) (link : Session.Link)
    (elapsed : Duration) (later : Manager) : Prop where
  served : ∃ served, later.sessions[place]? = some served ∧
    session.Contained link elapsed manager.resources (served, later.resources)
  /-- State, context, channel, count of requests and journal of each other session. -/
  others : ∀ other, other ≠ place → later.sessions[other]? = manager.sessions[other]?
  cells : ∀ other neighbour, other ≠ place → manager.sessions[other]? = some neighbour →
    ∀ index ∈ neighbour.cells, later.memory.cell index = manager.memory.cell index
  handles : ∀ handle spot, manager.pool.spot? handle = some spot → ¬ session.GivesBack manager.pool spot →
    later.pool.locate handle = manager.pool.locate handle
  schema : later.schema = manager.schema

/-- Whatever byte a client has raised over whatever payload, the turn of its session carries out the one
request that this makes, or ends the session on the violation that it is, of which the client is told and no
table changes. The other sessions, their regions and the schema are as before. -/
theorem faults_contained (attained : manager.Attained) (separated : manager.Separated)
    (placed : manager.sessions[place]? = some session) (held : session.link = some link)
    (pending : manager.memory.flag link.channel.request.index ≠ Wire.emptyFlag) (elapsed : Duration) :
    manager.Contains place session link elapsed (manager.serveAt place elapsed) := by
  have inside := attained.inside (List.mem_of_getElem? placed) held
  have spans : link.channel.Spans manager.resources.memory :=
    ⟨separated.apart placed held, inside.request, inside.response⟩
  have faultless := attained.sound.resources.faultless
  unfold serveAt
  rw [placed]
  constructor
  · exact ⟨_, List.getElem?_set_self (List.getElem?_eq_some_iff.1 placed).1,
      Session.serve_contained held spans faultless pending elapsed⟩
  · exact fun other different => List.getElem?_set_ne different.symm
  · intro other neighbour different beside index used
    have foreign := separated.others placed beside different used
    rw [Session.cells_of_link held] at foreign
    refine Session.serve_cell (fun own linked => ?_) elapsed manager.resources
    obtain rfl := Option.some.inj (held.symm.trans linked)
    exact ⟨fun same => foreign (by simp [same]), fun same => foreign (by simp [same])⟩
  · exact fun handle spot found stays => Session.serve_locate found stays elapsed
  · rfl

/-- The client of the first of two sessions raises a byte that is no opcode. -/
def wrongOpcode : Manager := twoSessions.setMemory (twoSessions.memory.setFlag 0 0x07)

theorem wrongOpcode_contained : wrongOpcode.Separated ∧ ∃ session link,
    wrongOpcode.sessions[0]? = some session ∧ session.link = some link ∧
      wrongOpcode.memory.flag link.channel.request.index = 0x07 ∧
      wrongOpcode.Contains 0 session link .zero (wrongOpcode.serveAt 0 .zero) := by
  have bare : Region.Pool.Bare .empty := nofun
  have attained : wrongOpcode.Attained :=
    .step (.step (.step (.step (.new .empty (Region.Pool.anonymous_sound bare none) _) (.installSchema _)) .spawn)
      .spawn) (.write (Region.Memory.next_setFlag _ _ _))
  have separated : wrongOpcode.Separated := by decide +kernel
  obtain ⟨link, held⟩ : ∃ link, wrongOpcode.sessions[0].link = some link := ⟨_, rfl⟩
  have raised : wrongOpcode.memory.flag link.channel.request.index = 0x07 := by
    cases held
    rfl
  have placed : wrongOpcode.sessions[0]? = some wrongOpcode.sessions[0] := rfl
  refine ⟨separated, _, link, placed, held, raised, ?_⟩
  refine faults_contained attained separated placed held ?_ .zero
  rw [raised]
  decide

end Manager

end SharedRecords
