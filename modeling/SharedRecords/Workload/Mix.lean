/-!
Mixes of operations. The slots of a run are spread over the operations by their weights: the slot
number is multiplied by a prime and taken modulo the total weight, so that in every window of that
length each operation comes up as often as its weight says.
-/

namespace SharedRecords.Workload

inductive Operation where
  | read
  | scan
  | insert
  | update
  deriving DecidableEq, Repr, Inhabited

namespace Operation

def all : List Operation := [read, scan, insert, update]

def name : Operation → String
  | read => "read"
  | scan => "scan"
  | insert => "insert"
  | update => "update"

end Operation

structure Mix where
  read : Nat
  scan : Nat
  insert : Nat
  update : Nat
  deriving DecidableEq, Repr, Inhabited

namespace Mix

def halfUpdates : Mix := ⟨50, 0, 0, 50⟩

def mostlyReads : Mix := ⟨95, 0, 0, 5⟩

def readsOnly : Mix := ⟨100, 0, 0, 0⟩

def shortRanges : Mix := ⟨0, 95, 5, 0⟩

def total (mix : Mix) : Nat := mix.read + mix.scan + mix.insert + mix.update

def weight (mix : Mix) : Operation → Nat
  | .read => mix.read
  | .scan => mix.scan
  | .insert => mix.insert
  | .update => mix.update

def stride : Nat := 7919

def wordSize : Nat := 0x10000000000000000

def place (mix : Mix) (slot : Nat) : Nat := slot * stride % wordSize % max mix.total 1

def pick (mix : Mix) (slot : Nat) : Operation :=
  let place := mix.place slot
  if place < mix.read then .read
  else if place < mix.read + mix.scan then .scan
  else if place < mix.read + mix.scan + mix.insert then .insert
  else .update

end Mix

end SharedRecords.Workload
