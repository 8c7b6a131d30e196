import Mathlib.Data.List.Induction
import TimedDataflow.Trace.Event

/-! The tale that records tell of a receiver. Each record tells that a wait of its reader or of
its writer begins, or that it ends, or nothing of the kind. In a tale that fits, one wait ends
before the next one begins, so those of the reader are told in turn, and those of the writer.
-/

namespace TimedDataflow

-----------------------------------------------------------------------------------------
-- Records of waits
-----------------------------------------------------------------------------------------

/-- What a record tells of a wait: on which receiver it is, whether to read from it, and whether
it begins.
-/
structure Mark where
  receiver : ReceiverId
  read : Bool
  begins : Bool
deriving DecidableEq

/-- What an event tells of a wait, if it tells of one. -/
def Event.mark? : Event → Option Mark
  | .readBlocked receiver => some ⟨receiver, true, true⟩
  | .readReleased receiver => some ⟨receiver, true, false⟩
  | .writeBlocked receiver _ => some ⟨receiver, false, true⟩
  | .writeReleased receiver => some ⟨receiver, false, false⟩
  | _ => none

/-- The beginnings and ends that are told of the waits to read from a receiver, or of those to
write to it.
-/
def marks (id : ReceiverId) (read : Bool) (events : List Event) : List Bool :=
  events.filterMap fun event =>
    event.mark?.bind fun mark =>
      if mark.receiver = id ∧ mark.read = read then some mark.begins else none

/-- Beginnings and ends follow one another, and a beginning comes first. -/
def Alternating (marks : List Bool) : Prop :=
  ∀ place begins, marks[place]? = some begins → (begins = true ↔ place % 2 = 0)

/-- A wait to read from the receiver, or to write to it, was told begun and not yet ended. -/
def IsOpen (id : ReceiverId) (read : Bool) (events : List Event) : Prop :=
  (marks id read events).getLast? = some true

/-- Records are told one after the other. -/
theorem marks_append (id : ReceiverId) (read : Bool) (front back : List Event)
    : marks id read (front ++ back) = marks id read front ++ marks id read back :=
  List.filterMap_append

/-- One more mark alternates with those before it when it begins behind an even number of
them and ends behind an odd one.
-/
theorem Alternating.concat {marks : List Bool} (alternating : Alternating marks) {begins : Bool}
    (turn : begins = true ↔ marks.length % 2 = 0)
    : Alternating (marks ++ [begins]) := by
  intro place other held
  rcases Nat.lt_or_ge place marks.length with inside | last
  · rw [List.getElem?_append_left inside] at held
    exact alternating place other held
  · rw [List.getElem?_append_right last] at held
    have first : place - marks.length = 0 := by
      by_contra beyond
      rw [List.getElem?_eq_none (by simp; omega)] at held
      cases held
    rw [first] at held
    obtain rfl : begins = other := by simpa using held
    have same : place = marks.length := by omega
    rw [same]
    exact turn

-----------------------------------------------------------------------------------------
-- The tale of one receiver
-----------------------------------------------------------------------------------------

/-- What is waited for on a receiver after one more event, unless the event does not fit in: a
wait begins where there is none, and the wait that is there ends.
-/
def hear (id : ReceiverId) (stage : Option Bool) (event : Event) : Option (Option Bool) :=
  match event.mark? with
  | none => some stage
  | some mark =>
      if mark.receiver = id then
        if mark.begins then
          if stage = none then some (some mark.read) else none
        else if stage = some mark.read then some none
        else none
      else some stage

/-- What is waited for on a receiver after the events, unless one of them does not fit in. -/
def tale (id : ReceiverId) (stage : Option Bool) (events : List Event)
    : Option (Option Bool) :=
  events.foldlM (hear id) stage

/-- A tale goes on where it was. -/
theorem tale_append (id : ReceiverId) (stage : Option Bool) (front back : List Event)
    : tale id stage (front ++ back) = (tale id stage front).bind fun next => tale id next back :=
  List.foldlM_append

/-- Events that tell of no wait on the receiver leave its tale where it is, by induction on
them.
-/
theorem tale_of_aside {id : ReceiverId} {events : List Event}
    (aside : ∀ event ∈ events, ∀ mark ∈ event.mark?, mark.receiver ≠ id)
    (stage : Option Bool)
    : tale id stage events = some stage := by
  induction events with
  | nil => rfl
  | cons event rest ih =>
      obtain ⟨first, others⟩ := List.forall_mem_cons.mp aside
      have heard : hear id stage event = some stage := by
        unfold hear
        split
        · rfl
        case h_2 mark held => rw [if_neg (first mark held)]
      rw [tale, List.foldlM_cons, heard]
      exact ih others

/-- An event that fits into the tale tells nothing of the reader's waits, or of the writer's,
and leaves them as they are; or it begins one where there was none, or ends the one that was
there.
-/
theorem marks_of_hear {id : ReceiverId} {before after : Option Bool} {event : Event}
    (heard : hear id before event = some after) (read : Bool)
    : (marks id read [event] = [] ∧ (after = some read ↔ before = some read))
      ∨ (marks id read [event] = [true] ∧ before = none ∧ after = some read)
      ∨ (marks id read [event] = [false] ∧ before = some read ∧ after = none) := by
  unfold hear at heard
  cases told : event.mark? with
  | none =>
      rw [told] at heard
      cases heard
      exact Or.inl ⟨by simp [marks, told], Iff.rfl⟩
  | some mark =>
      obtain ⟨receiver, reads, begins⟩ := mark
      simp only [told] at heard
      split at heard
      case isTrue own =>
          subst own
          split at heard
          case isTrue began =>
              split at heard
              case isTrue free =>
                  cases heard
                  by_cases same : reads = read
                  · exact Or.inr (Or.inl
                      ⟨by simp [marks, told, same, began], free, by rw [same]⟩)
                  · exact Or.inl ⟨by simp [marks, told, same], by simp [free, same]⟩
              case isFalse => cases heard
          case isFalse ended =>
              split at heard
              case isTrue there =>
                  cases heard
                  by_cases same : reads = read
                  · exact Or.inr (Or.inr
                      ⟨by simp [marks, told, same, ended], by rw [there, same], rfl⟩)
                  · exact Or.inl ⟨by simp [marks, told, same], by simp [there, same]⟩
              case isFalse => cases heard
      case isFalse other =>
          cases heard
          exact Or.inl ⟨by simp [marks, told, other], Iff.rfl⟩

/-- In a tale that fits, the waits are told in turn, and the one that is open is waited for, by
induction from the last event.
-/
theorem marks_of_tale {id : ReceiverId} {events : List Event} {stage : Option Bool}
    (told : tale id none events = some stage) (read : Bool)
    : Alternating (marks id read events)
      ∧ ((marks id read events).length % 2 = 1 ↔ stage = some read)
      ∧ (IsOpen id read events ↔ stage = some read) := by
  induction events using List.reverseRecOn generalizing stage with
  | nil =>
      cases told
      exact ⟨nofun, by simp [marks], by simp [IsOpen, marks]⟩
  | append_singleton front event ih =>
      rw [tale_append] at told
      obtain ⟨before, earlier, last⟩ := Option.bind_eq_some_iff.mp told
      obtain ⟨alternating, parity, isOpen⟩ := ih earlier
      have heard : hear id before event = some stage := by simpa [tale] using last
      unfold IsOpen at isOpen ⊢
      rw [marks_append]
      rcases marks_of_hear heard read with
        ⟨nothing, same⟩ | ⟨begun, free, now⟩ | ⟨ended, there, now⟩
      · rw [nothing, List.append_nil, same]
        exact ⟨alternating, parity, isOpen⟩
      · have even : (marks id read front).length % 2 = 0 := by
          rw [free] at parity
          simpa using parity
        rw [begun, List.length_append, List.length_singleton, List.getLast?_concat, now]
        exact ⟨alternating.concat (by simp [even]), by simp; omega, by simp⟩
      · have odd := parity.mpr there
        rw [ended, List.length_append, List.length_singleton, List.getLast?_concat, now]
        exact ⟨alternating.concat (by simp [odd]), by simp; omega, by simp⟩

/-- In a tale that fits, a wait of the reader is never open together with one of the writer. -/
theorem not_both_open {id : ReceiverId} {events front : List Event} {stage : Option Bool}
    (told : tale id none events = some stage) (earlier : front <+: events)
    : ¬ (IsOpen id true front ∧ IsOpen id false front) := by
  obtain ⟨back, rfl⟩ := earlier
  rw [tale_append] at told
  obtain ⟨between, before, -⟩ := Option.bind_eq_some_iff.mp told
  rintro ⟨reading, writing⟩
  have reads := (marks_of_tale before true).2.2.mp reading
  have writes := (marks_of_tale before false).2.2.mp writing
  rw [reads] at writes
  cases writes

-----------------------------------------------------------------------------------------
-- The tales of all receivers
-----------------------------------------------------------------------------------------

/-- The tales go on with what was told: that of the receiver from what was waited for on it to
what is waited for now, and those of all others stay where they are.
-/
def Retold (own : ReceiverId) (stage next : Option Bool) (events : List Event) : Prop :=
  tale own stage events = some next
  ∧ ∀ id ≠ own, ∀ other, tale id other events = some other

namespace Retold

variable {own : ReceiverId} {stage between next : Option Bool} {front back : List Event}

/-- The tales go on twice. -/
theorem append (first : Retold own stage between front) (second : Retold own between next back)
    : Retold own stage next (front ++ back) := by
  refine ⟨?_, fun id differ other => ?_⟩
  · rw [tale_append, first.1]
    exact second.1
  · rw [tale_append, first.2 id differ other]
    exact second.2 id differ other

/-- Where nothing is told, the tales stay where they are. -/
theorem nil (own : ReceiverId) (stage : Option Bool) : Retold own stage stage [] :=
  ⟨rfl, fun _ _ _ => rfl⟩

/-- Nor do events that tell of no wait bear on them. -/
theorem aside (own : ReceiverId) (stage : Option Bool) {events : List Event}
    (aside : ∀ event ∈ events, event.mark? = none)
    : Retold own stage stage events := by
  have apart (id : ReceiverId) (other : Option Bool) : tale id other events = some other := by
    refine tale_of_aside (fun event held mark told => ?_) other
    rw [aside event held] at told
    cases told
  exact ⟨apart own stage, fun id _ other => apart id other⟩

/-- One event that fits in takes the tale of its receiver on. -/
theorem single {event : Event} {mark : Mark} (told : event.mark? = some mark)
    (receiver : mark.receiver = own) (heard : hear own stage event = some next)
    : Retold own stage next [event] := by
  refine ⟨by simp [tale, heard], fun id differ other => ?_⟩
  refine tale_of_aside (fun known held other same => ?_) other
  rw [List.mem_singleton.mp held, told] at same
  cases same
  rw [receiver]
  exact differ.symm

end Retold

end TimedDataflow
