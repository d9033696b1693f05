import SharedRecords.Proofs.Manager.Attained

/-!
What a manager can come to by whole rounds of serving, with whatever is asked of it between them and whoever
writes to its regions.
-/

namespace SharedRecords.Manager

/-- A manager over the plain store, after any number of operations of any parties. -/
inductive Reached : Manager → Prop where
  | new (store : Store) {pool : Region.Pool} (sound : pool.Sound) (options : Session.Options) :
      Reached (.new (.ofStore store) pool options)
  | installSchema {manager : Manager} (reached : Reached manager) (schema : Schema) :
      Reached (manager.installSchema schema).2
  | spawn {manager : Manager} (reached : Reached manager) : Reached manager.spawn.2
  | spawnWith {manager : Manager} (reached : Reached manager) (request response : Region.Handle) :
      Reached (manager.spawnWith request response).2
  | serveRound {manager : Manager} (reached : Reached manager) : Reached manager.serveRound
  | join {manager later : Manager} {id : SessionId} {result : Except Session.Error Session.Summary}
      (reached : Reached manager) (joined : manager.join id = some (result, later)) : Reached later
  | reap {manager : Manager} (reached : Reached manager) : Reached manager.reap.2
  /-- The store is used beside the sessions. -/
  | store {manager : Manager} (reached : Reached manager) (store : Store) :
      Reached { manager with
        resources := { manager.resources with backend := { manager.resources.backend with store } } }
  | write {manager : Manager} (reached : Reached manager) {memory : Region.Memory}
      (next : memory.next = manager.memory.next) : Reached (manager.setMemory memory)
  | allocate {manager : Manager} (reached : Reached manager) (capacity : Nat) :
      Reached (manager.setPool (manager.pool.allocate capacity).2)
  | map {manager : Manager} (reached : Reached manager) (handle : Region.Handle) :
      Reached (manager.setPool (manager.pool.map handle).2)
  | release {manager : Manager} (reached : Reached manager) (handle : Region.Handle) :
      Reached (manager.release handle)
  | writeFile {manager : Manager} {path : String} {bytes : List UInt8} {pool : Region.Pool}
      (reached : Reached manager) (written : manager.pool.writeFile path bytes = .ok pool) :
      Reached (manager.setPool pool)

theorem Reached.attained {manager : Manager} (reached : Reached manager) : manager.Attained := by
  induction reached with
  | new store sound options => exact .new store sound options
  | installSchema _ schema ih => exact ih.step (.installSchema schema)
  | spawn _ ih => exact ih.step .spawn
  | spawnWith _ request response ih => exact ih.step (.spawnWith request response)
  | serveRound _ ih => exact ih.serveRound
  | join _ joined ih => exact ih.step (.join joined)
  | reap _ ih => exact ih.step .reap
  | store _ store ih => exact ih.step (.store store)
  | write _ next ih => exact ih.step (.write next)
  | allocate _ capacity ih => exact ih.step (.allocate capacity)
  | map _ handle ih => exact ih.step (.map handle)
  | release _ handle ih => exact ih.step (.release handle)
  | writeFile _ written ih => exact ih.step (.writeFile written)

theorem Reached.sound {manager : Manager} (reached : Reached manager) : manager.Sound := reached.attained.sound

end SharedRecords.Manager
