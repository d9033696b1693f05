import SharedRecords.Proofs.Manager.Transparent
import SharedRecords.Proofs.Session.Isolation

/-!
The sessions of a manager side by side. Sessions that were spawned one after another have cells of their own,
so no more is needed for them to keep apart than that their requests do.
-/

namespace SharedRecords.Manager

def ports (manager : Manager) : List Port :=
  manager.sessions.filterMap fun session =>
    session.link.map fun link => ⟨session, link.channel.request.index, link.channel.response.index⟩

def joint (manager : Manager) : JointState (Fin manager.ports.length) :=
  ⟨manager.resources, fun who => manager.ports[who]⟩

/-- A manager that has spawned any number of sessions and done nothing else since it had none. -/
inductive Gathered : Manager → Prop where
  | start {manager : Manager} (sound : manager.Sound) (alone : manager.sessions = []) : Gathered manager
  | spawn {manager spawned : Manager} {address : Channel.Address} (gathered : Gathered manager)
      (spawn : manager.spawn = (.ok address, spawned)) : Gathered spawned

/-- The cells of the ports are there, and no two ports have one in common. -/
structure Parted (manager : Manager) : Prop where
  inside : ∀ port ∈ manager.ports, ∀ index, port.Has index → index < manager.memory.next
  apart : manager.ports.Pairwise fun one other => ∀ index, one.Has index → ¬ other.Has index

variable {manager : Manager}

theorem owns_of_mem_ports {port : Port} (member : port ∈ manager.ports) : port.session.Owns port.Has := by
  obtain ⟨session, _, made⟩ := List.mem_filterMap.mp member
  obtain ⟨link, held, rfl⟩ := Option.map_eq_some_iff.mp made
  intro other linked
  obtain rfl := Option.some.inj (held.symm.trans linked)
  exact ⟨.inl rfl, .inr rfl⟩

namespace Gathered

theorem sound (gathered : manager.Gathered) : manager.Sound := by
  induction gathered with
  | start sound => exact sound
  | spawn _ spawn ih =>
    have later := ih.spawn
    rw [spawn] at later
    exact later

theorem parted (gathered : manager.Gathered) : manager.Parted := by
  induction gathered with
  | @start manager _ alone =>
    have none : manager.ports = [] := by
      unfold ports
      rw [alone]
      rfl
    constructor
    · rw [none]
      exact fun _ member => absurd member List.not_mem_nil
    · rw [none]
      exact .nil
  | @spawn manager spawned address gathered spawn ih =>
    obtain ⟨session, link, made⟩ := spawned_of_spawn gathered.sound spawn
    have request : link.channel.request.index = manager.memory.next := by rw [made.request]
    have response : link.channel.response.index = manager.memory.next + 1 := by rw [made.response]
    have placed : spawned.ports = manager.ports ++ [⟨session, manager.memory.next, manager.memory.next + 1⟩] := by
      unfold ports
      rw [made.sessions, List.filterMap_append, List.filterMap_cons, made.held, Option.map_some, request, response]
      rfl
    have next : spawned.memory.next = manager.memory.next + 2 := made.next
    constructor
    · intro port member index has
      rw [placed] at member
      rcases List.mem_append.mp member with old | new
      · have below := ih.inside port old index has
        omega
      · obtain rfl := List.mem_singleton.mp new
        rcases has with rfl | rfl
        · show manager.memory.next < _
          omega
        · show manager.memory.next + 1 < _
          omega
    · rw [placed, List.pairwise_append]
      refine ⟨ih.apart, List.pairwise_singleton .., ?_⟩
      intro port old added new index has
      obtain rfl := List.mem_singleton.mp new
      have below := ih.inside port old index has
      rintro (rfl | rfl)
      · exact Nat.lt_irrefl _ below
      · exact Nat.not_succ_lt_self below

theorem apart (gathered : manager.Gathered) : manager.joint.Apart where
  owns who := owns_of_mem_ports (List.getElem_mem _)
  disjoint := by
    have apart := List.pairwise_iff_getElem.mp gathered.parted.apart
    intro who other different index one another
    rcases Nat.lt_or_gt_of_ne (fun same => different (Fin.ext same)) with before | behind
    · exact apart who other who.2 other.2 before index one another
    · exact apart other who other.2 who.2 behind index another one

end Gathered

def submitted (room : Nat) (request : Wire.Request) : Port.Act :=
  .ask fun cell => { (cell.write room request.chunks).2 with flag := request.opcode.byte }

theorem act_submitted {client : Channel.ClientEnd} {port : Port} {request : Wire.Request}
    (ready : client.state = .ready) (polled : port.asking = client.request.index)
    (fits : request.chunks.size ≤ client.requestCapacity) (resources : Session.Resources) :
    client.submit resources.memory request.opcode request.chunks =
      (none, (port.act resources (submitted client.requestCapacity request)).2.memory) := by
  have whole := (client.request.write_failure_eq_none_iff resources.memory request.chunks).2 fits
  have written : (client.request.write resources.memory request.chunks).2 =
      resources.memory.change client.request.index
        fun cell => (cell.write client.requestCapacity request.chunks).2 :=
    Region.Memory.change_congr rfl
  rw [Channel.ClientEnd.submit_of_ready ready]
  rcases attempt : client.request.write resources.memory request.chunks with ⟨failure, later⟩
  rw [attempt] at whole written
  obtain rfl := whole
  obtain rfl := written
  unfold submitted Port.act
  dsimp only
  rw [polled, Region.Memory.setFlag, Region.Memory.change_change]
  rfl

def twoSessions : Manager := oneTable.spawn.2.spawn.2

def ownInsert (who : Fin twoSessions.ports.length) : Wire.Request :=
  .insert "people" (if who.val = 0 then "ada" else "bob") [⟨"name", "Lovelace"⟩]

def bothInserts : List (Fin twoSessions.ports.length × Port.Act) :=
  let first := ⟨0, by decide⟩
  let second := ⟨1, by decide⟩
  [(first, submitted 63 (ownInsert first)), (second, submitted 63 (ownInsert second)),
    (second, .turn .zero), (first, .turn .zero)]

theorem twoSessions_gathered : twoSessions.Gathered := by
  have bare : Region.Pool.Bare .empty := nofun
  have reached : oneTable.Reached := .installSchema (.new .empty (Region.Pool.anonymous_sound bare none) _) _
  have first : oneTable.spawn = (.ok ⟨⟨1⟩, .anonymous 1, .anonymous 2⟩, oneTable.spawn.2) := rfl
  have second : oneTable.spawn.2.spawn = (.ok ⟨⟨2⟩, .anonymous 3, .anonymous 4⟩, twoSessions) := rfl
  exact .spawn (.spawn (.start reached.sound rfl) first) second

theorem bothInserts_separate : twoSessions.joint.Separate bothInserts := by
  have asked : ∀ who, (twoSessions.joint.ports who).requests twoSessions.joint.resources
      (JointState.actsOf who bothInserts) = [ownInsert who] := by decide +kernel
  have distinct : ∀ who other : Fin twoSessions.ports.length, who ≠ other →
      (if who.val = 0 then "ada" else "bob") ≠ (if other.val = 0 then "ada" else "bob") := by decide +kernel
  intro who other different one mine another others name key changes touches
  rw [asked] at mine others
  obtain rfl := List.mem_singleton.mp mine
  obtain rfl := List.mem_singleton.mp others
  have written {record : String} {values : Record}
      (touches : (Wire.Request.insert "people" record values).Touches name key) : record = key := by
    cases touches with
    | change changes =>
      cases changes
      rfl
  exact distinct who other different ((written (.change changes)).trans (written touches).symm)

theorem bothInserts_isolated : twoSessions.joint.Apart ∧ twoSessions.joint.Separate bothInserts ∧
    ∀ who, twoSessions.joint.viewsOf who bothInserts =
      (twoSessions.joint.ports who).views twoSessions.resources (JointState.actsOf who bothInserts) :=
  ⟨twoSessions_gathered.apart, bothInserts_separate,
    (JointState.isolated twoSessions_gathered.apart bothInserts_separate).1⟩

end SharedRecords.Manager
