/-!
Payloads as they are read. Most of a payload has never been written and holds zeros, so the zeros
at its end are counted and not listed. A payload can be split wherever its list of bytes can.
-/

namespace SharedRecords.Wire

structure Payload where
  bytes : List UInt8
  zeros : Nat
  deriving DecidableEq, Repr, Inhabited

namespace Payload

def ofList (bytes : List UInt8) : Payload := ⟨bytes, 0⟩

def toList (payload : Payload) : List UInt8 := payload.bytes ++ List.replicate payload.zeros 0

def length (payload : Payload) : Nat := payload.bytes.length + payload.zeros

instance : HAppend (List UInt8) Payload Payload :=
  ⟨fun front rest => ⟨front ++ rest.bytes, rest.zeros⟩⟩

def split? (payload : Payload) (count : Nat) : Option (List UInt8 × Payload) :=
  let front := payload.bytes.take count
  let missing := count - front.length
  if missing ≤ payload.zeros then
    some (front ++ List.replicate missing 0, ⟨payload.bytes.drop count, payload.zeros - missing⟩)
  else none

@[simp] theorem toList_ofList (bytes : List UInt8) : (ofList bytes).toList = bytes := by
  simp [ofList, toList]

@[simp] theorem length_toList (payload : Payload) : payload.toList.length = payload.length := by
  simp [toList, length]

@[simp] theorem toList_append (front : List UInt8) (rest : Payload) :
    (front ++ rest).toList = front ++ rest.toList := by
  change front ++ rest.bytes ++ List.replicate rest.zeros 0 = _
  simp [toList]

@[simp] theorem length_append (front : List UInt8) (rest : Payload) :
    (front ++ rest).length = front.length + rest.length := by
  rw [← length_toList, toList_append, List.length_append, length_toList]

theorem split?_append (front : List UInt8) (rest : Payload) :
    (front ++ rest).split? front.length = some (front, rest) := by
  change Payload.split? ⟨front ++ rest.bytes, rest.zeros⟩ front.length = _
  simp [split?]

theorem toList_of_split? {payload rest : Payload} {count : Nat} {front : List UInt8}
    (found : payload.split? count = some (front, rest)) :
    front.length = count ∧ front ++ rest.toList = payload.toList := by
  simp only [split?, List.length_take] at found
  split at found
  next enough =>
    simp only [Option.some.injEq, Prod.mk.injEq] at found
    obtain ⟨rfl, rfl⟩ := found
    refine ⟨by simp only [List.length_append, List.length_take, List.length_replicate]; omega, ?_⟩
    by_cases inside : count ≤ payload.bytes.length
    · have none_missing : count - min count payload.bytes.length = 0 := by omega
      simp only [toList, none_missing, List.replicate_zero, List.append_nil, Nat.sub_zero,
        ← List.append_assoc, List.take_append_drop]
    · have missing : count - min count payload.bytes.length = count - payload.bytes.length := by omega
      have whole : payload.bytes.take count = payload.bytes := List.take_of_length_le (by omega)
      have nothing : payload.bytes.drop count = [] := List.drop_eq_nil_of_le (by omega)
      rw [missing] at enough ⊢
      simp only [toList, whole, nothing, List.nil_append, List.append_assoc, List.replicate_append_replicate]
      congr 2
      omega
  next => simp at found

theorem split?_eq_none_iff (payload : Payload) (count : Nat) :
    payload.split? count = none ↔ payload.length < count := by
  simp only [split?, length, List.length_take]
  split
  next enough =>
    simp only [reduceCtorEq, false_iff, Nat.not_lt]
    omega
  next short =>
    simp only [true_iff]
    omega

end Payload

end SharedRecords.Wire
