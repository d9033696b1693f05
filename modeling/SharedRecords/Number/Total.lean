/-!
Sums of natural numbers in a list.
-/

namespace SharedRecords.Number

def total : List Nat → Nat
  | [] => 0
  | first :: rest => first + total rest

@[simp] theorem total_nil : total [] = 0 := rfl

@[simp] theorem total_cons (first : Nat) (rest : List Nat) :
    total (first :: rest) = first + total rest := rfl

@[simp] theorem total_append (front back : List Nat) :
    total (front ++ back) = total front + total back := by
  induction front with
  | nil => simp
  | cons first rest ih =>
    rw [List.cons_append, total_cons, total_cons, ih, Nat.add_assoc]

end SharedRecords.Number
