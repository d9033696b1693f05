import SharedRecords.Proofs.Manager.Accounts

/-!
What each counter of a manager is the sum of. Every entry changes it as much as it changes the weight of the
account that the entry is for, and so does every act of a runtime.
-/

namespace SharedRecords

open Region (Handle Spot)
open Session (Service)

theorem Number.total_toNat {α : Type} (holds : α → Bool) (items : List α) :
    total (items.map fun item => (holds item).toNat) = items.countP holds := by
  induction items with
  | nil => rfl
  | cons first rest ih =>
    rw [List.map_cons, total_cons, ih, List.countP_cons, Nat.add_comm]
    cases holds first <;> rfl

namespace Session.Service

variable {opcode other : Wire.Opcode} {status told : Wire.Status} {service : Service}

theorem answers_iff :
    service.answers opcode status = true ↔ service = ⟨opcode.byte, some status⟩ ∧ status ≠ .aborted := by
  obtain ⟨flag, told⟩ := service
  simp [answers, Wire.Status.isRecoverable]

theorem count_answered (known : told ≠ .aborted) (metrics : Metrics) (elapsed : Duration) :
    (metrics.record other told elapsed).count opcode status =
      metrics.count opcode status + List.countP (answers opcode status) [⟨other.byte, some told⟩] := by
  rw [List.countP_singleton]
  by_cases same : (other, told) = (opcode, status)
  · obtain ⟨rfl, rfl⟩ := Prod.mk.inj same
    rw [if_pos (answers_iff.mpr ⟨rfl, known⟩)]
    exact metrics.count_record _ _ elapsed
  · rw [metrics.count_record_of_ne same elapsed, if_neg]
    · rfl
    · intro answers
      injection (answers_iff.mp answers).1 with byte spoken
      exact same (Prod.ext (Wire.Opcode.byte_inj byte) (Option.some.inj spoken))

theorem count_unanswered (silent : ∀ status, service.told = some status → status = .aborted) :
    List.countP (answers opcode status) [service] = 0 := by
  rw [List.countP_singleton, if_neg]
  intro answers
  obtain ⟨rfl, known⟩ := answers_iff.mp answers
  exact known (silent status rfl)

end Session.Service

namespace Manager

namespace Account

/-! ## What an account weighs for each counter -/

def requests : Account → Nat
  | pending | failed => 0
  | serving requests | struck requests => requests
  | parting requests _ | stranded requests _ | terminated requests _ => requests

def hasStarted : Account → Bool
  | pending | failed => false
  | serving _ | struck _ | parting .. | stranded .. | terminated .. => true

def hasFailed : Account → Bool
  | failed => true
  | pending | serving _ | struck _ | parting .. | stranded .. | terminated .. => false

def isActive : Account → Bool
  | serving _ | struck _ | parting .. | stranded .. => true
  | pending | failed | terminated .. => false

def hasBroken : Account → Bool
  | parting _ aborted | stranded _ aborted | terminated _ aborted => aborted
  | pending | failed | serving _ | struck _ => false

def hasClosed : Account → Bool
  | parting _ aborted | stranded _ aborted | terminated _ aborted => !aborted
  | pending | failed | serving _ | struck _ => false

def isStruck : Account → Bool
  | struck _ => true
  | pending | failed | serving _ | parting .. | stranded .. | terminated .. => false

/-- What is read off the counters and the record changes with each entry as the weight of the account does, and
with nothing else. -/
structure Fits (reading : Metrics → List Service → Int) (weight : Account → Nat) : Prop where
  fresh : weight .pending = 0
  asked : ∀ (metrics : Metrics) (opcode : Wire.Opcode) (status : Wire.Status) (record : List Service),
    reading (metrics.touch opcode status) record = reading metrics record
  entry : ∀ {account later : Account} {metrics after : Metrics} {services : List Service},
    Entry account metrics services later after → ∀ record : List Service,
      reading after (record ++ services) + weight account = reading metrics record + weight later

theorem fits_spawned : Fits (fun metrics _ => metrics.spawned) fun account => account.hasStarted.toNat where
  fresh := rfl
  asked _ _ _ _ := rfl
  entry entry record := by
    cases entry <;> rfl

theorem fits_failures : Fits (fun metrics _ => metrics.spawnFailures) fun account => account.hasFailed.toNat where
  fresh := rfl
  asked _ _ _ _ := rfl
  entry entry record := by
    cases entry <;> rfl

theorem fits_active : Fits (fun metrics _ => metrics.active) fun account => account.isActive.toNat where
  fresh := rfl
  asked _ _ _ _ := rfl
  entry entry record := by
    cases entry with
    | starts => exact Int.add_zero _
    | terminates => exact (Int.sub_add_cancel _ 1).trans (Int.add_zero _).symm
    | quiet | fails | answers | strikes | aborts | closes | strands => rfl

theorem fits_broken : Fits (fun metrics _ => metrics.protocolErrors) fun account => account.hasBroken.toNat where
  fresh := rfl
  asked _ _ _ _ := rfl
  entry entry record := by
    cases entry <;> rfl

theorem fits_closed : Fits (fun metrics _ => metrics.count .close .ok) fun account => account.hasClosed.toNat where
  fresh := rfl
  asked metrics opcode status record := by rw [Metrics.count_touch]
  entry entry record := by
    cases entry with
    | answers other =>
      rw [Metrics.count_record_of_ne _ fun same => other (Prod.mk.inj same).1]
      rfl
    | closes =>
      rw [Metrics.count_record]
      rfl
    | quiet | fails | starts | strikes | aborts | strands | terminates => rfl

theorem fits_requests : Fits (fun _ record => record.length) requests where
  fresh := rfl
  asked _ _ _ _ := rfl
  entry entry record := by
    rw [List.length_append]
    cases entry with
    | answers | strikes | aborts | closes =>
      simp only [requests, List.length_singleton]
      omega
    | quiet | fails | starts | strands | terminates => rfl

theorem fits_struck : Fits (fun metrics record => record.length - metrics.served - metrics.protocolErrors)
    fun account => account.isStruck.toNat where
  fresh := rfl
  asked metrics opcode status record := by
    rw [Metrics.served_touch]
    rfl
  entry entry record := by
    rw [List.length_append]
    cases entry with
    | answers | closes | strikes | aborts =>
      simp only [isStruck, Bool.toNat_true, Bool.toNat_false, List.length_singleton, Metrics.served_record,
        Metrics.served_protocolError, Metrics.protocolErrors_record, Metrics.protocolErrors_protocolError]
      omega
    | quiet | fails | starts | strands | terminates => rfl

theorem fits_answers (opcode : Wire.Opcode) (status : Wire.Status) :
    Fits (fun metrics record => metrics.count opcode status - record.countP (Service.answers opcode status))
      fun _ => 0 where
  fresh := rfl
  asked metrics asked told record := by rw [Metrics.count_touch]
  entry entry record := by
    rw [List.countP_append]
    cases entry with
    | answers other known =>
      rw [Service.count_answered known]
      omega
    | closes =>
      have known : Wire.Status.ok ≠ .aborted := nofun
      rw [Service.count_answered known]
      omega
    | strikes =>
      rw [Service.count_unanswered]
      · rfl
      · exact nofun
    | aborts =>
      rw [Service.count_unanswered]
      · rfl
      · exact fun status told => (Option.some.inj told).symm
    | quiet | fails | starts | strands | terminates => rfl

end Account

namespace Runtime

def weigh (runtime : Runtime) (weight : Account → Nat) : Nat :=
  Number.total (runtime.launches.map fun launch => weight launch.account)

def Orderly (runtime : Runtime) : Prop := ∀ launch ∈ runtime.launches, launch.Orderly

variable {options : Session.Options} {runtime later : Runtime} {record services : List Service}
  {resources : Session.Resources} {reading : Metrics → List Service → Int} {weight : Account → Nat}

theorem opened_orderly (resources : Session.Resources) : (opened resources).Orderly :=
  fun _ member => absurd member List.not_mem_nil

theorem weigh_joined (weight : Account → Nat) (runtime : Runtime) (launch : Launch) :
    weigh { runtime with launches := runtime.launches ++ [launch] } weight =
      runtime.weigh weight + weight launch.account := by
  unfold weigh
  rw [List.map_append, Number.total_append]
  rfl

theorem weigh_move (weight : Account → Nat) (resources : Session.Resources) (before rest : List Launch)
    (launch : Launch) (clients : List Spot) : (Runtime.mk resources (before ++ launch :: rest) clients).weigh weight =
      Number.total ((before ++ rest).map fun launch => weight launch.account) + weight launch.account := by
  unfold weigh
  rw [List.map_append, List.map_append, List.map_cons, Number.total_append, Number.total_append, Number.total_cons]
  omega

theorem Orderly.joined {launch : Launch} (orderly : runtime.Orderly) (fresh : launch.Orderly) :
    Orderly { runtime with launches := runtime.launches ++ [launch] } :=
  List.forall_mem_append.mpr ⟨orderly, List.forall_mem_singleton.mpr fresh⟩

theorem Act.reads (act : Act options runtime services later) (fits : Account.Fits reading weight)
    (orderly : runtime.Orderly) (mapped : runtime.Mapped) (record : List Service) :
    later.Orderly ∧ reading later.resources.metrics (record ++ services) + runtime.weigh weight =
      reading runtime.resources.metrics record + later.weigh weight := by
  have same (metrics : Metrics) : reading metrics (record ++ []) = reading metrics record := by
    rw [List.append_nil]
  have fresh : weight .pending = 0 := fits.fresh
  cases act with
  | @move resources after launch moved services before rest clients act =>
    -- what all others weigh stays while this one acts
    have member : launch ∈ before ++ launch :: rest := List.mem_append_right _ List.mem_cons_self
    obtain ⟨entry, still⟩ := act.enters (orderly launch member) (mapped launch member)
    have balance := fits.entry entry record
    refine ⟨?_, ?_⟩
    · obtain ⟨early, late⟩ := List.forall_mem_append.mp orderly
      exact List.forall_mem_append.mpr ⟨early, List.forall_mem_cons.mpr ⟨still, (List.forall_mem_cons.mp late).2⟩⟩
    · rw [weigh_move, weigh_move]
      dsimp only at balance ⊢
      omega
  | order runtime id =>
    have pending : (Launch.ordered id).account = .pending := rfl
    rw [weigh_joined, pending, fresh, same]
    exact ⟨orderly.joined trivial, rfl⟩
  | bring runtime id request response =>
    have pending : (Launch.brought id request response).account = .pending := rfl
    rw [weigh_joined, pending, fresh, same]
    exact ⟨orderly.joined trivial, rfl⟩
  | ask runtime opcode status =>
    rw [same]
    dsimp only
    rw [fits.asked]
    exact ⟨orderly, rfl⟩
  | others step launches metrics =>
    unfold weigh Orderly
    rw [launches, metrics, same]
    exact ⟨orderly, rfl⟩

/-- What starts from nothing is the weight of all sessions. -/
theorem Runs.reads (runs : Runs options (opened resources) record runtime) (sound : resources.pool.Sound)
    (fits : Account.Fits reading weight) (empty : reading resources.metrics [] = 0) :
    runtime.Orderly ∧ reading runtime.resources.metrics record = runtime.weigh weight := by
  induction runs with
  | refl => exact ⟨opened_orderly resources, empty⟩
  | tail run act ih =>
    obtain ⟨orderly, read⟩ := ih
    have mapped := (Runs.reaches run).mapped sound
    obtain ⟨still, balance⟩ := act.reads fits orderly mapped _
    refine ⟨still, ?_⟩
    rw [read] at balance
    omega

end Runtime

end Manager

end SharedRecords
