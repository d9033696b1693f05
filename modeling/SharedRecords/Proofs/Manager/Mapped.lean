import SharedRecords.Proofs.Manager.Runtime
import SharedRecords.Proofs.Session.Responses

/-!
The response flags of all sessions under way are on cells that are there. No step takes a cell away, and what a
session attaches to was mapped.
-/

namespace SharedRecords.Manager

def Progress.channel? : Progress → Option Channel.ServerEnd
  | attached _ channel => some channel
  | started session => session.link.map (·.channel)
  | asking | halfway _ | equipped _ | watching .. | closing .. | ended _ | leaving _ => none

namespace Launch

def Mapped (launch : Launch) (memory : Region.Memory) : Prop :=
  ∀ channel, launch.progress.channel? = some channel → channel.response.index < memory.next

variable {options : Session.Options} {launch later : Launch} {session : Session} {resources after : Session.Resources}
  {memory wider : Region.Memory} {progress : Progress}

theorem Mapped.of_le (mapped : launch.Mapped memory) (next : memory.next ≤ wider.next) : launch.Mapped wider :=
  fun channel held => Nat.lt_of_lt_of_le (mapped channel held) next

theorem mapped_of_none (free : launch.progress.channel? = none) (memory : Region.Memory) : launch.Mapped memory :=
  fun _ held => nomatch free.symm.trans held

theorem mapped_started_iff : (launch.moves (.started session)).Mapped memory ↔ session.Mapped memory := by
  constructor
  · intro mapped link held
    exact mapped link.channel (congrArg (Option.map _) held)
  · intro mapped channel on
    obtain ⟨link, held, rfl⟩ := Option.map_eq_some_iff.1 on
    exact mapped link held

theorem Mapped.serves (mapped : launch.Mapped memory) (serves : launch.progress = .started session) :
    session.Mapped memory :=
  fun link held => mapped link.channel (serves ▸ congrArg (Option.map _) held)

/-- Cells stay, and a session that is on a channel is on cells. -/
structure Widens (resources : Session.Resources) (later : Launch) (after : Session.Resources) : Prop where
  mapped : later.Mapped after.memory
  next : resources.memory.next ≤ after.memory.next

theorem widens_of_none (free : later.progress.channel? = none)
    (next : resources.memory.next ≤ after.memory.next) : Widens resources later after :=
  ⟨mapped_of_none free _, next⟩

theorem advance_widens (options : Session.Options) (sound : resources.pool.Sound)
    (mapped : launch.Mapped resources.memory) :
    Widens resources (launch.advance options resources).1 (launch.advance options resources).2 := by
  obtain ⟨id, owned, progress, listing, granted, returned⟩ := launch
  unfold advance
  cases progress with
  | asking | halfway request =>
    have next := resources.pool.next_allocate options.capacity
    dsimp only
    rcases given : resources.pool.allocate options.capacity with ⟨_ | _, pool⟩
    · rw [given] at next
      exact widens_of_none rfl next
    · rw [given] at next
      exact widens_of_none rfl next
  | equipped holding =>
    have same := congrArg Region.Memory.next (resources.pool.memory_map holding.request)
    dsimp only
    rcases attempt : resources.pool.map holding.request with ⟨_ | _, pool⟩
    · rw [attempt] at same
      exact widens_of_none rfl (Nat.le_of_eq same.symm)
    · rw [attempt] at same
      exact widens_of_none rfl (Nat.le_of_eq same.symm)
  | watching holding request =>
    have same := congrArg Region.Memory.next (resources.pool.memory_map holding.response)
    dsimp only
    rcases attempt : resources.pool.map holding.response with ⟨_ | response, pool⟩
    · rw [attempt] at same
      exact widens_of_none rfl (Nat.le_of_eq same.symm)
    · obtain ⟨⟨window, located, rfl⟩, _⟩ := Region.Pool.map_eq attempt
      rw [attempt] at same
      have next : ((pool.memory.setFlag request.index Wire.emptyFlag).setFlag window.index Wire.emptyFlag).next =
          resources.memory.next := by
        rw [Region.Memory.next_setFlag, Region.Memory.next_setFlag]
        exact same
      refine ⟨?_, Nat.le_of_eq next.symm⟩
      rintro channel on
      obtain rfl := Option.some.inj on
      exact Nat.lt_of_lt_of_eq (Region.Pool.locate_inside sound located) next.symm
  | attached session channel =>
    have same := session.open?_pool channel resources
    dsimp only
    rcases opening : session.open? channel resources with ⟨_ | error, opened, later⟩
    · obtain ⟨⟨context, held⟩, _, pool⟩ := Session.open?_of_none opening
      have next : later.memory.next = resources.memory.next := congrArg (·.memory.next) pool
      refine ⟨?_, Nat.le_of_eq next.symm⟩
      intro other on
      obtain rfl := Option.some.inj ((congrArg (Option.map _) held).symm.trans on)
      exact Nat.lt_of_lt_of_eq (mapped channel rfl) next.symm
    · rw [opening] at same
      exact widens_of_none rfl (Nat.le_of_eq (congrArg (·.memory.next) same.symm))
  | started session | ended session => exact ⟨mapped, Nat.le_refl _⟩
  | closing session result rest =>
    cases rest with
    | nil => exact widens_of_none rfl (Nat.le_of_eq (congrArg (·.memory.next) (session.closeContext_pool _ _).symm))
    | cons handle rest =>
      exact widens_of_none rfl (Nat.le_of_eq (congrArg Region.Memory.next (Region.Pool.memory_release _ _).symm))
  | leaving rest =>
    cases rest with
    | nil => exact ⟨mapped, Nat.le_refl _⟩
    | cons handle rest =>
      exact widens_of_none rfl (Nat.le_of_eq (congrArg Region.Memory.next (Region.Pool.memory_release _ _).symm))

/-- Whatever a session does, it is on cells that are there, and so are all others. -/
theorem Step.widens (step : Step options launch resources later after) (sound : resources.pool.Sound)
    (mapped : launch.Mapped resources.memory) : Widens resources later after := by
  cases step with
  | advance => exact advance_widens options sound mapped
  | threadless => exact widens_of_none rfl (Nat.le_refl _)
  | @turn session served elapsed _ _ serves turn =>
    have steady := (session.serve_orderly elapsed resources).steady
    have still := (mapped.serves serves).serve elapsed
    rw [turn] at steady still
    exact ⟨mapped_started_iff.2 still, steady.next⟩
  | part serves served writes =>
    obtain ⟨memory, next, pool⟩ := writes
    refine widens_of_none rfl ?_
    show _ ≤ after.pool.memory.next
    rw [pool]
    exact Nat.le_of_eq next.symm
  | enroll | collect => exact ⟨mapped, Nat.le_refl _⟩

end Launch

namespace Runtime

def Mapped (runtime : Runtime) : Prop := ∀ launch ∈ runtime.launches, launch.Mapped runtime.resources.memory

variable {options : Session.Options} {runtime later : Runtime} {resources : Session.Resources}

theorem Mapped.of_le (mapped : runtime.Mapped) (launches : later.launches = runtime.launches)
    (next : runtime.resources.memory.next ≤ later.resources.memory.next) : later.Mapped := by
  intro launch member
  rw [launches] at member
  exact (mapped launch member).of_le next

theorem Mapped.joined {launch : Launch} (mapped : runtime.Mapped) (free : launch.progress.channel? = none) :
    Mapped { runtime with launches := runtime.launches ++ [launch] } :=
  List.forall_mem_append.2 ⟨mapped, List.forall_mem_singleton.2 (Launch.mapped_of_none free _)⟩

theorem Step.mapped (step : Step options runtime later) (sound : runtime.Sound) (mapped : runtime.Mapped) :
    later.Mapped := by
  cases step with
  | @move resources after launch moved before rest clients step =>
    have member : launch ∈ before ++ launch :: rest := List.mem_append_right _ List.mem_cons_self
    have widens := step.widens sound.balanced.sound (mapped launch member)
    obtain ⟨early, late⟩ := List.forall_mem_append.1 mapped
    refine List.forall_mem_append.2 ⟨fun other old => (early other old).of_le widens.next, ?_⟩
    refine List.forall_mem_cons.2 ⟨widens.mapped, fun other old => ?_⟩
    exact ((List.forall_mem_cons.1 late).2 other old).of_le widens.next
  | order => exact mapped.joined rfl
  | bring => exact mapped.joined rfl
  | @allocate _ capacity _ _ _ given =>
    have next := runtime.resources.pool.next_allocate capacity
    rw [given] at next
    exact mapped.of_le rfl next
  | @refuse _ capacity _ _ refused =>
    have next := runtime.resources.pool.next_allocate capacity
    rw [refused] at next
    exact mapped.of_le rfl next
  | release =>
    exact mapped.of_le rfl (Nat.le_of_eq (congrArg Region.Memory.next (Region.Pool.memory_release _ _).symm))
  | meanwhile next pool =>
    exact mapped.of_le rfl (Nat.le_of_eq (next.symm.trans (congrArg (·.memory.next) pool).symm))

theorem Reaches.mapped (reaches : Reaches options (opened resources) runtime) (sound : resources.pool.Sound) :
    runtime.Mapped := by
  induction reaches with
  | refl => exact fun _ member => absurd member List.not_mem_nil
  | tail run step ih => exact step.mapped (Reaches.sound run (opened_sound sound)) ih

end Runtime

end SharedRecords.Manager
