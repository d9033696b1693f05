import SharedRecords.Channel.Control
import SharedRecords.Client.Error
import SharedRecords.Region.Pool
import SharedRecords.Wire.Shape

/-!
Publishing a schema: it is posted to a control region of its own, which the caller keeps until the
manager has answered there.
-/

namespace SharedRecords.Client

structure Publication where
  control : Channel.Control
  deriving DecidableEq, Repr, Inhabited

namespace Publication

def handle (publication : Publication) : Region.Handle := publication.control.mapping.handle

def acknowledgement? (publication : Publication) (memory : Region.Memory) : Option (Except Error Unit) :=
  (publication.control.status? memory).map fun
    | .ok => .ok ()
    | .conflict => .error .conflict
    | .notFound => .error .notFound
    | .failed | .aborted => .error (.failed "schema rejected by server")

end Publication

/-- A schema that does not fit its region is not published, and the region is released. -/
def publish (pool : Region.Pool) (schema : Schema) (capacity : Nat) :
    Except Error Publication × Region.Pool :=
  match pool.allocateMapped capacity with
  | (.error error, later) => (.error (.region error), later)
  | (.ok mapping, mapped) =>
    match (Channel.Control.mk mapping).post mapped.memory Wire.schemaFlag (Wire.schemaChunks schema) with
    | (none, memory) => (.ok ⟨⟨mapping⟩⟩, mapped.setMemory memory)
    | (some error, memory) =>
      (.error (.wire error), ((mapped.setMemory memory).release mapping.handle).2)

end SharedRecords.Client
