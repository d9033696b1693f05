import SharedRecords.Proofs.Session.Locality

/-!
Sessions that keep apart. Any number of sessions take turns over one store, in any order, while their
clients write to their regions. If none of them is asked to change a record that another is asked to touch,
each shows its client what it would show if it were alone, and the tables come out the same in every order.
-/

namespace SharedRecords

open Session (Resources)

def Session.asked? (session : Session) (memory : Region.Memory) : Option Wire.Request :=
  session.link.bind fun link =>
    (link.channel.pending? memory).bind fun flag =>
      (Wire.Opcode.ofByte? flag).bind fun opcode =>
        (link.channel.decode memory (Wire.Request.reader opcode)).toOption

theorem Session.asked?_of_asks {session : Session} {link : Session.Link} {memory : Region.Memory}
    {request : Wire.Request} (held : session.link = some link) (asks : Session.Asks link memory request) :
    session.asked? memory = some request := by
  unfold asked? Channel.ServerEnd.pending?
  rw [held, Option.bind_some, asks.raised]
  dsimp only
  rw [if_neg request.opcode.byte_ne_empty, Option.bind_some, Wire.Opcode.ofByte?_byte, Option.bind_some,
    asks.decoded]
  rfl

theorem Session.asked?_same {session : Session} {own : Nat → Prop} {first second : Region.Memory}
    (same : first.SameAt own second) (owns : session.Owns own) : session.asked? first = session.asked? second := by
  unfold asked?
  cases held : session.link with
  | none => rfl
  | some link =>
    obtain ⟨request, _⟩ := owns link held
    have pending : link.channel.pending? first = link.channel.pending? second := by
      unfold Channel.ServerEnd.pending?
      rw [same.flag request]
    unfold Channel.ServerEnd.decode
    rw [Option.bind_some, Option.bind_some, pending, same.payload request]

theorem Session.Resources.SameFor.change {own : Nat → Prop} {seen : String → String → Prop} {resources : Resources}
    {index : Nat} {edit : Region.Cell → Region.Cell} (apart : ¬ own index) :
    resources.SameFor own seen (resources.setMemory (resources.memory.change index edit)) where
  faults := rfl
  store := .refl _ _
  memory := by
    refine ⟨(Region.Memory.next_change _ _ _).symm, fun other owned => ?_⟩
    have different : index ≠ other := fun same => apart (same ▸ owned)
    exact (Region.Memory.cell_change_of_ne different edit).symm

/-- A session and the two cells that its client shares with it. -/
structure Port where
  session : Session
  asking : Nat
  telling : Nat

namespace Port

/-- What happens at a port: the client does anything to one of its cells, or the session takes its turn. -/
inductive Act where
  | ask (edit : Region.Cell → Region.Cell)
  | hear (edit : Region.Cell → Region.Cell)
  | turn (elapsed : Duration)

/-- What there is to see at a port: the session, with the counters of its context and the journal of what
it published, and the two cells, with the request and the reply. -/
structure View where
  session : Session
  request : Region.Cell
  response : Region.Cell

def Has (port : Port) (index : Nat) : Prop := index = port.asking ∨ index = port.telling

def view (port : Port) (resources : Resources) : View :=
  ⟨port.session, resources.memory.cell port.asking, resources.memory.cell port.telling⟩

def act (port : Port) (resources : Resources) : Act → Port × Resources
  | .ask edit => (port, resources.setMemory (resources.memory.change port.asking edit))
  | .hear edit => (port, resources.setMemory (resources.memory.change port.telling edit))
  | .turn elapsed =>
    let (served, later) := port.session.serve elapsed resources
    ({ port with session := served }, later)

def request? (port : Port) (resources : Resources) : Act → Option Wire.Request
  | .turn _ => port.session.asked? resources.memory
  | _ => none

variable {port : Port} {own : Nat → Prop} {seen : String → String → Prop} {first second resources : Resources}

theorem act_has (port : Port) (resources : Resources) (act : Act) :
    (port.act resources act).1.Has = port.Has := by
  cases act with
  | ask | hear | turn => rfl

theorem act_owns (owns : port.session.Owns port.Has) (resources : Resources) (act : Act) :
    (port.act resources act).1.session.Owns port.Has := by
  cases act with
  | ask | hear => exact owns
  | turn elapsed =>
    intro link held
    obtain ⟨old, before, channel⟩ := (port.session.serve_orderly elapsed resources).channel link held
    rw [channel]
    exact owns old before

theorem request?_same (same : first.SameFor port.Has seen second) (owns : port.session.Owns port.Has)
    (act : Act) : port.request? first act = port.request? second act := by
  cases act with
  | ask | hear => rfl
  | turn elapsed => exact Session.asked?_same same.memory owns

theorem act_same (same : first.SameFor port.Has seen second) (owns : port.session.Owns port.Has) (act : Act)
    (sees : ∀ request ∈ port.request? first act, ∀ name key, request.Touches name key → seen name key) :
    (port.act first act).1 = (port.act second act).1 ∧
      (port.act first act).2.SameFor port.Has seen (port.act second act).2 := by
  cases act with
  | ask edit => exact ⟨rfl, same.setMemory (same.memory.change _ edit)⟩
  | hear edit => exact ⟨rfl, same.setMemory (same.memory.change _ edit)⟩
  | turn elapsed =>
    have asked : port.session.Sees first.memory seen := fun link request held asks =>
      sees request (Session.asked?_of_asks held asks)
    obtain ⟨served, later⟩ := Session.serve_same same owns asked elapsed
    exact ⟨congrArg (fun session => { port with session }) served, later⟩

theorem act_unseen (owns : port.session.Owns port.Has) (apart : ∀ index, own index → ¬ port.Has index) (act : Act)
    (unseen : ∀ request ∈ port.request? resources act, ∀ name key, request.Changes name key → ¬ seen name key) :
    resources.SameFor own seen (port.act resources act).2 := by
  cases act with
  | ask edit => exact .change fun owned => apart _ owned (.inl rfl)
  | hear edit => exact .change fun owned => apart _ owned (.inr rfl)
  | turn elapsed =>
    exact Session.serve_unseen owns apart
      (fun link request held asks => unseen request (Session.asked?_of_asks held asks)) elapsed

theorem view_same (same : first.SameFor port.Has seen second) : port.view first = port.view second := by
  unfold view
  rw [same.memory.cells _ (.inl rfl), same.memory.cells _ (.inr rfl)]

/-! ## A port alone -/

/-- The port after what happens there while nothing happens elsewhere. -/
def run (port : Port) (resources : Resources) : List Act → Port × Resources
  | [] => (port, resources)
  | act :: rest => (port.act resources act).1.run (port.act resources act).2 rest

def views (port : Port) (resources : Resources) : List Act → List View
  | [] => []
  | act :: rest =>
    (port.act resources act).1.view (port.act resources act).2 ::
      (port.act resources act).1.views (port.act resources act).2 rest

def requests (port : Port) (resources : Resources) : List Act → List Wire.Request
  | [] => []
  | act :: rest =>
    (port.request? resources act).toList ++ (port.act resources act).1.requests (port.act resources act).2 rest

end Port

/-! ## Many ports -/

/-- The ports of all sessions, and what the sessions share. -/
structure JointState (ι : Type) where
  resources : Resources
  ports : ι → Port

namespace JointState

variable {ι : Type} [DecidableEq ι]

def step (joint : JointState ι) (event : ι × Port.Act) : JointState ι :=
  let (port, resources) := (joint.ports event.1).act joint.resources event.2
  ⟨resources, Function.update joint.ports event.1 port⟩

def run (joint : JointState ι) (events : List (ι × Port.Act)) : JointState ι := events.foldl step joint

def actsOf (who : ι) (events : List (ι × Port.Act)) : List Port.Act :=
  (events.filter (·.1 = who)).map (·.2)

def viewsOf (joint : JointState ι) (who : ι) : List (ι × Port.Act) → List Port.View
  | [] => []
  | event :: rest =>
    if event.1 = who then
      ((joint.step event).ports who).view (joint.step event).resources :: (joint.step event).viewsOf who rest
    else (joint.step event).viewsOf who rest

/-- Each session polls the cells of its port, and no cell belongs to two ports. -/
structure Apart (joint : JointState ι) : Prop where
  owns : ∀ who, (joint.ports who).session.Owns (joint.ports who).Has
  disjoint : ∀ who other, who ≠ other → ∀ index, (joint.ports who).Has index → ¬ (joint.ports other).Has index

def Separate (joint : JointState ι) (events : List (ι × Port.Act)) : Prop :=
  ∀ who other, who ≠ other →
    ∀ one ∈ (joint.ports who).requests joint.resources (actsOf who events),
      ∀ another ∈ (joint.ports other).requests joint.resources (actsOf other events),
        ∀ name key, one.Changes name key → ¬ another.Touches name key

/-! ## Each port as if alone -/

/-- Each port is as it is alone, and what it has and sees is as it is then. What nobody changes, and which
tables there are, is as at the beginning. -/
structure Mirrors (joint : JointState ι) (alone : ι → Port × Resources) (seen : ι → String → String → Prop)
    (spared : String → String → Prop) (start : Store) : Prop where
  apart : joint.Apart
  ports : ∀ who, joint.ports who = (alone who).1
  shared : ∀ who, joint.resources.SameFor (joint.ports who).Has (seen who) (alone who).2
  ground : start.SameOn spared joint.resources.backend.store

/-- What is asked at each port alone touches only what is seen there, and changes nothing that is seen at
another port or is to be spared. -/
structure Confined (alone : ι → Port × Resources) (seen : ι → String → String → Prop)
    (spared : String → String → Prop) (events : List (ι × Port.Act)) : Prop where
  sees : ∀ who, ∀ request ∈ (alone who).1.requests (alone who).2 (actsOf who events),
    ∀ name key, request.Touches name key → seen who name key
  unseen : ∀ who other, who ≠ other → ∀ request ∈ (alone who).1.requests (alone who).2 (actsOf who events),
    ∀ name key, request.Changes name key → ¬ seen other name key
  spares : ∀ who, ∀ request ∈ (alone who).1.requests (alone who).2 (actsOf who events),
    ∀ name key, request.Changes name key → ¬ spared name key

def advance (alone : ι → Port × Resources) (event : ι × Port.Act) : ι → Port × Resources :=
  Function.update alone event.1 ((alone event.1).1.act (alone event.1).2 event.2)

variable {joint : JointState ι} {alone : ι → Port × Resources} {seen : ι → String → String → Prop}
  {spared : String → String → Prop} {start : Store} {event : ι × Port.Act} {events : List (ι × Port.Act)}

theorem actsOf_self (event : ι × Port.Act) (events : List (ι × Port.Act)) :
    actsOf event.1 (event :: events) = event.2 :: actsOf event.1 events := by
  unfold actsOf
  rw [List.filter_cons_of_pos (by simp), List.map_cons]

theorem actsOf_of_ne {who : ι} (other : event.1 ≠ who) (events : List (ι × Port.Act)) :
    actsOf who (event :: events) = actsOf who events := by
  unfold actsOf
  rw [List.filter_cons_of_neg (by simpa using other)]

theorem mem_requests_of_advance {who : ι} {request : Wire.Request}
    (asked : request ∈ (advance alone event who).1.requests (advance alone event who).2 (actsOf who events)) :
    request ∈ (alone who).1.requests (alone who).2 (actsOf who (event :: events)) := by
  by_cases same : event.1 = who
  · subst same
    rw [actsOf_self]
    unfold advance at asked
    rw [Function.update_self] at asked
    exact List.mem_append_right _ asked
  · rw [actsOf_of_ne same]
    unfold advance at asked
    rwa [Function.update_of_ne (Ne.symm same)] at asked

theorem Confined.advance (confined : Confined alone seen spared (event :: events)) :
    Confined (advance alone event) seen spared events where
  sees who request asked := confined.sees who request (mem_requests_of_advance asked)
  unseen who other different request asked :=
    confined.unseen who other different request (mem_requests_of_advance asked)
  spares who request asked := confined.spares who request (mem_requests_of_advance asked)

theorem step_ports_self (joint : JointState ι) (event : ι × Port.Act) :
    (joint.step event).ports event.1 = ((joint.ports event.1).act joint.resources event.2).1 :=
  Function.update_self ..

theorem step_ports_of_ne {who : ι} (other : event.1 ≠ who) (joint : JointState ι) :
    (joint.step event).ports who = joint.ports who :=
  Function.update_of_ne (Ne.symm other) ..

theorem step_has (joint : JointState ι) (event : ι × Port.Act) (who : ι) :
    ((joint.step event).ports who).Has = (joint.ports who).Has := by
  by_cases here : event.1 = who
  · subst here
    rw [step_ports_self, Port.act_has]
  · rw [step_ports_of_ne here]

theorem Apart.step (apart : joint.Apart) (event : ι × Port.Act) : (joint.step event).Apart := by
  constructor
  · intro who
    rw [step_has]
    by_cases here : event.1 = who
    · subst here
      rw [step_ports_self]
      exact Port.act_owns (apart.owns _) _ _
    · rw [step_ports_of_ne here]
      exact apart.owns who
  · intro who other different
    rw [step_has, step_has]
    exact apart.disjoint who other different

theorem advance_self (alone : ι → Port × Resources) (event : ι × Port.Act) :
    advance alone event event.1 = (alone event.1).1.act (alone event.1).2 event.2 :=
  Function.update_self ..

theorem advance_of_ne {who : ι} (other : event.1 ≠ who) (alone : ι → Port × Resources) :
    advance alone event who = alone who :=
  Function.update_of_ne (Ne.symm other) ..

theorem Mirrors.step (mirrors : joint.Mirrors alone seen spared start)
    (confined : Confined alone seen spared (event :: events)) :
    (joint.step event).Mirrors (advance alone event) seen spared start := by
  obtain ⟨apart, ports, shared, ground⟩ := mirrors
  -- among the others, the port is asked what it is asked alone
  have asked : ∀ request ∈ (joint.ports event.1).request? joint.resources event.2,
      request ∈ (alone event.1).1.requests (alone event.1).2 (actsOf event.1 (event :: events)) := by
    intro request asked
    rw [Port.request?_same (shared event.1) (apart.owns event.1), ports event.1] at asked
    rw [actsOf_self]
    exact List.mem_append_left _ (Option.mem_toList.mpr asked)
  obtain ⟨acted, later⟩ := Port.act_same (shared event.1) (apart.owns event.1) event.2
    fun request now => confined.sees event.1 request (asked request now)
  refine ⟨apart.step _, fun who => ?_, fun who => ?_, ?_⟩
  · by_cases here : event.1 = who
    · subst here
      rw [step_ports_self, advance_self, acted, ports]
    · rw [step_ports_of_ne here, advance_of_ne here, ports]
  · rw [step_has]
    by_cases here : event.1 = who
    · subst here
      rw [advance_self, ← ports]
      exact later
    · rw [advance_of_ne here]
      have unseen := Port.act_unseen (apart.owns event.1) (apart.disjoint who event.1 (Ne.symm here)) event.2
        fun request now => confined.unseen event.1 who here request (asked request now)
      exact unseen.symm.trans (shared who)
  · have nowhere : ∀ index, False → ¬ (joint.ports event.1).Has index := nofun
    have unseen := Port.act_unseen (apart.owns event.1) nowhere event.2
      fun request now => confined.spares event.1 request (asked request now)
    exact ground.trans unseen.store

theorem Mirrors.run (mirrors : joint.Mirrors alone seen spared start)
    (confined : Confined alone seen spared events) :
    (∀ who, joint.viewsOf who events = (alone who).1.views (alone who).2 (actsOf who events)) ∧
      (joint.run events).Mirrors (fun who => (alone who).1.run (alone who).2 (actsOf who events))
        seen spared start := by
  -- the ports alone are generalized as well: behind an act, the one that acted starts from where it has come
  induction events generalizing joint alone with
  | nil => exact ⟨fun _ => rfl, mirrors⟩
  | cons event rest ih =>
    have stepped := mirrors.step confined
    obtain ⟨views, last⟩ := ih stepped confined.advance
    have runs : (fun who => (advance alone event who).1.run (advance alone event who).2 (actsOf who rest)) =
        fun who => (alone who).1.run (alone who).2 (actsOf who (event :: rest)) := by
      funext who
      by_cases here : event.1 = who
      · subst here
        rw [actsOf_self, advance_self]
        rfl
      · rw [actsOf_of_ne here, advance_of_ne here]
    rw [runs] at last
    refine ⟨fun who => ?_, last⟩
    unfold viewsOf
    rw [views who]
    by_cases here : event.1 = who
    · subst here
      rw [if_pos rfl, actsOf_self, Port.view_same (stepped.shared event.1), stepped.ports, advance_self]
      rfl
    · rw [if_neg here, actsOf_of_ne here, advance_of_ne here]

/-- Where no session changes what another touches, each shows what it shows alone, and the tables are the
same whatever the order in which the sessions and their clients act. -/
theorem isolated {joint : JointState ι} {events : List (ι × Port.Act)} (apart : joint.Apart)
    (separate : joint.Separate events) :
    (∀ who, joint.viewsOf who events = (joint.ports who).views joint.resources (actsOf who events)) ∧
      ∀ others : List (ι × Port.Act), (∀ who, actsOf who others = actsOf who events) →
        (joint.run others).resources.backend.store.tables = (joint.run events).resources.backend.store.tables := by
  let alone : ι → Port × Resources := fun who => (joint.ports who, joint.resources)
  let asked (who : ι) : List Wire.Request := (joint.ports who).requests joint.resources (actsOf who events)
  let seen (who : ι) (name key : String) : Prop := ∃ request ∈ asked who, request.Touches name key
  let spared (name key : String) : Prop := ∀ who, ∀ request ∈ asked who, ¬ request.Changes name key
  have mirrors : joint.Mirrors alone seen spared joint.resources.backend.store :=
    ⟨apart, fun _ => rfl, fun _ => .refl _ _ _, .refl _ _⟩
  have confined {order : List (ι × Port.Act)} (same : ∀ who, actsOf who order = actsOf who events) :
      Confined alone seen spared order := by
    constructor
    · intro who request member name key touches
      rw [same] at member
      exact ⟨request, member, touches⟩
    · rintro who other different request member name key changes ⟨another, asked, touches⟩
      rw [same] at member
      exact separate who other different request member another asked name key changes touches
    · intro who request member name key changes untouched
      rw [same] at member
      exact untouched who request member changes
  obtain ⟨views, last⟩ := mirrors.run (confined fun _ => rfl)
  refine ⟨views, fun others same => ?_⟩
  obtain ⟨_, other⟩ := mirrors.run (confined same)
  simp only [same] at other
  apply Store.SameOn.tables_eq
  constructor
  · intro name
    exact (other.ground.columns name).symm.trans (last.ground.columns name)
  · intro name key _
    -- a record that nobody changes is as at the beginning, any other as whoever changes it leaves it alone
    by_cases untouched : spared name key
    · exact (other.ground.rows name key untouched).symm.trans (last.ground.rows name key untouched)
    · simp only [spared, not_forall, not_not] at untouched
      obtain ⟨who, request, member, changes⟩ := untouched
      have seen : seen who name key := ⟨request, member, .change changes⟩
      exact ((other.shared who).store.rows name key seen).trans ((last.shared who).store.rows name key seen).symm

end JointState

end SharedRecords
