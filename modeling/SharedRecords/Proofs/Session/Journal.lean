import Mathlib.Data.List.Chain
import SharedRecords.Session.Basic

/-!
Journals of sessions. What a session has noted of its life, as far as it has come, and what must have been
noted before anything else.
-/

namespace SharedRecords.Session

def Event.state? : Event → Option State
  | .entered state => some state
  | _ => none

def states (journal : List Event) : List State := (journal.filterMap Event.state?).reverse

def standing? (journal : List Event) : Option State := (journal.filterMap Event.state?).head?

/-- The last response of a session that ends with this result. -/
def farewell : Except Error Summary → Wire.Status
  | .ok _ => .ok
  | .error _ => .aborted

def openingJournal : List Event := [.entered .serving, .entered .ready, .entered .attached, .entered .created]

def servingJournal (answers : List Wire.Status) : List Event := answers.map .published ++ openingJournal

/-- The journal of a session that has given back everything but its context. -/
def closingJournal (handles : List Region.Handle) (last : Wire.Status) (answers : List Wire.Status) : List Event :=
  handles.map .released ++ .unmapped :: .entered .closing :: .published last :: servingJournal answers

def endedJournal (handles : List Region.Handle) (last : Wire.Status) (answers : List Wire.Status) : List Event :=
  .entered .terminated :: .contextClosed :: closingJournal handles last answers

/-! ## States in their order -/

variable {event : Event} {past rest : List Event}

theorem filterMap_quiet {α : Type} {make : α → Event} (quiet : ∀ item, (make item).state? = none)
    (items : List α) : (items.map make).filterMap Event.state? = [] := by
  rw [List.filterMap_map, List.filterMap_eq_nil_iff]
  intro item _
  exact quiet item

@[simp] theorem filterMap_serving (answers : List Wire.Status) :
    (servingJournal answers).filterMap Event.state? = [.serving, .ready, .attached, .created] := by
  unfold servingJournal
  rw [List.filterMap_append, filterMap_quiet fun _ => rfl]
  rfl

@[simp] theorem filterMap_closing (handles : List Region.Handle) (last : Wire.Status)
    (answers : List Wire.Status) : (closingJournal handles last answers).filterMap Event.state? =
      [.closing, .serving, .ready, .attached, .created] := by
  unfold closingJournal
  rw [List.filterMap_append, filterMap_quiet fun _ => rfl]
  simp [List.filterMap_cons, Event.state?]

theorem states_serving (answers : List Wire.Status) :
    states (servingJournal answers) = [.created, .attached, .ready, .serving] := by
  unfold states
  rw [filterMap_serving]
  rfl

theorem states_closing (handles : List Region.Handle) (last : Wire.Status) (answers : List Wire.Status) :
    states (closingJournal handles last answers) = [.created, .attached, .ready, .serving, .closing] := by
  unfold states
  rw [filterMap_closing]
  rfl

theorem states_ended (handles : List Region.Handle) (last : Wire.Status) (answers : List Wire.Status) :
    states (endedJournal handles last answers) =
      [.created, .attached, .ready, .serving, .closing, .terminated] := by
  have behind : (endedJournal handles last answers).filterMap Event.state? =
      .terminated :: (closingJournal handles last answers).filterMap Event.state? := rfl
  unfold states
  rw [behind, filterMap_closing]
  rfl

theorem forward_of_path {path : List State}
    (legal : path.IsChain fun first second => first.canAdvance second = true) :
    path.Pairwise fun first second => first.byte < second.byte := by
  let before (first second : State) : Prop := first.byte < second.byte
  have transitive : IsTrans State before := ⟨fun _ _ _ front back => UInt8.lt_trans front back⟩
  have rising : path.IsChain before := legal.imp fun _ _ advance => State.byte_lt_of_canAdvance advance
  exact rising.pairwise

theorem standing_eq (journal : List Event) : standing? journal = (states journal).getLast? := by
  unfold standing? states
  rw [List.getLast?_reverse]

theorem suffix_skip {other : Event} (suffix : event :: past <:+ other :: rest) (apart : event ≠ other) :
    event :: past <:+ rest := by
  rcases List.suffix_cons_iff.1 suffix with same | later
  · exact absurd (List.cons.inj same).1 apart
  · exact later

theorem suffix_released {handles : List Region.Handle} (apart : ∀ handle, event ≠ .released handle)
    (suffix : event :: past <:+ handles.map .released ++ rest) : event :: past <:+ rest := by
  induction handles with
  | nil => exact suffix
  | cons first others ih => exact ih (suffix_skip suffix (apart first))

theorem suffix_serving {answers : List Wire.Status} (suffix : event :: past <:+ servingJournal answers) :
    (∃ status, event = .published status ∧ standing? past = some .serving) ∨ event :: past <:+ openingJournal := by
  induction answers with
  | nil => exact .inr suffix
  | cons first others ih =>
    rcases List.suffix_cons_iff.1 suffix with same | later
    · obtain ⟨rfl, rfl⟩ := List.cons.inj same
      refine .inl ⟨first, rfl, ?_⟩
      show ((servingJournal others).filterMap Event.state?).head? = _
      rw [filterMap_serving]
      rfl
    · exact ih later

theorem suffix_opening (suffix : event :: past <:+ openingJournal) : ∃ state, event = .entered state := by
  have member : event ∈ openingJournal := suffix.subset List.mem_cons_self
  simp only [openingJournal, List.mem_cons, List.not_mem_nil, or_false] at member
  rcases member with same | same | same | same
  all_goals exact ⟨_, same⟩

theorem suffix_closing {handles : List Region.Handle} {last : Wire.Status} {answers : List Wire.Status}
    (suffix : event :: past <:+ closingJournal handles last answers) (apart : ∀ handle, event ≠ .released handle) :
    event = .unmapped ∨ (event = .entered .closing ∧ past = .published last :: servingJournal answers) ∨
      event :: past <:+ servingJournal (last :: answers) := by
  have behind := suffix_released apart suffix
  rcases List.suffix_cons_iff.1 behind with same | later
  · exact .inl (List.cons.inj same).1
  · rcases List.suffix_cons_iff.1 later with same | earlier
    · obtain ⟨closes, rfl⟩ := List.cons.inj same
      exact .inr (.inl ⟨closes, rfl⟩)
    · exact .inr (.inr earlier)

theorem suffix_ended {handles : List Region.Handle} {last : Wire.Status} {answers : List Wire.Status}
    (suffix : event :: past <:+ endedJournal handles last answers) :
    event = .entered .terminated ∨ (event = .contextClosed ∧ past = closingJournal handles last answers) ∨
      event :: past <:+ closingJournal handles last answers := by
  rcases List.suffix_cons_iff.1 suffix with same | later
  · exact .inl (List.cons.inj same).1
  · rcases List.suffix_cons_iff.1 later with same | earlier
    · obtain ⟨closed, rfl⟩ := List.cons.inj same
      exact .inr (.inl ⟨closed, rfl⟩)
    · exact .inr (.inr earlier)

theorem count_serving (answers : List Wire.Status) : (servingJournal answers).count .contextClosed = 0 := by
  rw [List.count_eq_zero]
  simp [servingJournal, openingJournal]

theorem count_closing (handles : List Region.Handle) (last : Wire.Status) (answers : List Wire.Status) :
    (closingJournal handles last answers).count .contextClosed = 0 := by
  rw [List.count_eq_zero]
  simp [closingJournal, servingJournal, openingJournal]

theorem closes_closing (handles : List Region.Handle) (last : Wire.Status) (answers : List Wire.Status) :
    .entered .closing :: .published last :: servingJournal answers <:+ closingJournal handles last answers := by
  unfold closingJournal
  exact (List.suffix_cons _ _).trans (List.suffix_append _ _)

/-! ## What stands behind an event -/

/-- What was noted before a response, before the session closed and before it gave back its context. -/
structure Legal (journal : List Event) : Prop where
  published : ∀ status past, .published status :: past <:+ journal → standing? past = some .serving
  closed : ∀ past, .entered .closing :: past <:+ journal →
    ∃ status earlier, past = .published status :: earlier ∧ (status = .ok ∨ status = .aborted)
  order : ∀ past, .contextClosed :: past <:+ journal → .unmapped ∈ past ∧ standing? past = some .closing

theorem Legal.earlier {journal earlier : List Event} (legal : Legal journal) (suffix : earlier <:+ journal) :
    Legal earlier where
  published := fun status past inside => legal.published status past (inside.trans suffix)
  closed := fun past inside => legal.closed past (inside.trans suffix)
  order := fun past inside => legal.order past (inside.trans suffix)

theorem closing_of_ended (handles : List Region.Handle) (last : Wire.Status) (answers : List Wire.Status) :
    closingJournal handles last answers <:+ endedJournal handles last answers :=
  (List.suffix_cons _ _).trans (List.suffix_cons _ _)

theorem serving_of_closing (handles : List Region.Handle) (last : Wire.Status) (answers : List Wire.Status) :
    servingJournal answers <:+ closingJournal handles last answers :=
  ((List.suffix_cons _ _).trans (List.suffix_cons _ _)).trans (closes_closing handles last answers)

theorem ended_legal (handles : List Region.Handle) {last : Wire.Status} (known : last = .ok ∨ last = .aborted)
    (answers : List Wire.Status) : Legal (endedJournal handles last answers) where
  published := by
    intro status past suffix
    rcases suffix_ended suffix with same | ⟨same, _⟩ | closing
    · contradiction
    · contradiction
    · rcases suffix_closing closing (fun _ => nofun) with same | ⟨same, _⟩ | serving
      · contradiction
      · contradiction
      · rcases suffix_serving serving with ⟨_, _, stands⟩ | opening
        · exact stands
        · obtain ⟨_, same⟩ := suffix_opening opening
          contradiction
  closed := by
    intro past suffix
    rcases suffix_ended suffix with same | ⟨same, _⟩ | closing
    · contradiction
    · contradiction
    · rcases suffix_closing closing (fun _ => nofun) with same | ⟨_, same⟩ | serving
      · contradiction
      · exact ⟨last, _, same, known⟩
      · have member : .entered .closing ∈ servingJournal (last :: answers) := serving.subset List.mem_cons_self
        simp [servingJournal, openingJournal] at member
  order := by
    intro past suffix
    rcases suffix_ended suffix with same | ⟨_, rfl⟩ | closing
    · contradiction
    · constructor
      · simp [closingJournal]
      · simp [standing?]
    · have member : .contextClosed ∈ closingJournal handles last answers := closing.subset List.mem_cons_self
      exact absurd (count_closing handles last answers) (List.count_pos_iff.2 member).ne'

end SharedRecords.Session
