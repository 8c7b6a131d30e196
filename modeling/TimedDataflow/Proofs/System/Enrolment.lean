import TimedDataflow.Proofs.System.Staffing

/-! The director's register: whatever the threads do, it lists every receiver that is present,
and none twice. The receivers that a walk over it finds are those that are present.
-/

namespace TimedDataflow

variable {α : Type}

/-- Whoever changes a receiver leaves it present, or leaves it gone. -/
theorem Action.change_present {action : Action α} {id : ReceiverId}
    {change : Monitor α → Monitor α} (changes : action.change? = some (id, change))
    (monitor : Monitor α)
    : (change monitor).receiver.present = monitor.receiver.present := by
  rcases Action.change_binding changes monitor with kept | ⟨rfl, -⟩
  · exact congrArg (fun binding => binding.2.1) kept
  · cases changes
    simp

namespace System

variable {system later : System α}

/-- The register lists every receiver that is present, and none twice. -/
structure Enrolled (system : System α) : Prop where
  once : system.director.registered.Nodup
  listed
    : ∀ (number : Nat) (receiver : Receiver α),
        system.receivers[number]? = some receiver
        → receiver.present = true
        → ⟨number⟩ ∈ system.director.registered

/-- A receiver is found live when it is registered and present. -/
theorem mem_liveReceivers {id : ReceiverId}
    : id ∈ system.liveReceivers
      ↔ id ∈ system.director.registered
        ∧ ∃ receiver, system.receiver? id = some receiver := by
  simp only [liveReceivers, List.mem_filter, Option.isSome_iff_exists]

namespace Enrolled

/-- The receivers that are found live are those that are present. -/
theorem mem_live (enrolled : system.Enrolled) {id : ReceiverId}
    : id ∈ system.liveReceivers ↔ ∃ receiver, system.receiver? id = some receiver := by
  rw [mem_liveReceivers]
  refine ⟨And.right, fun present => ⟨?_, present⟩⟩
  obtain ⟨receiver, found⟩ := present
  obtain ⟨held, isPresent⟩ := receiver?_eq_some_iff.mp found
  exact enrolled.listed id.number receiver held isPresent

/-- None of them is found twice. -/
theorem nodup_live (enrolled : system.Enrolled) : system.liveReceivers.Nodup :=
  enrolled.once.filter _

/-- Receivers that stay as present or as gone as they were need no new entry. -/
theorem of_kept (enrolled : system.Enrolled)
    (registered : later.director.registered = system.director.registered)
    (present
      : ∀ (number : Nat) (receiver : Receiver α),
          later.receivers[number]? = some receiver
          → ∃ before, system.receivers[number]? = some before
              ∧ before.present = receiver.present)
    : later.Enrolled := by
  refine ⟨registered ▸ enrolled.once, fun number receiver held isPresent => ?_⟩
  obtain ⟨before, beforeHeld, same⟩ := present number receiver held
  rw [registered]
  exact enrolled.listed number before beforeHeld (same.trans isPresent)

/-- Dropping the receivers that are gone drops no receiver that is present. -/
theorem of_purged (enrolled : system.Enrolled)
    (registered : later.director.registered = system.liveReceivers)
    (receivers : later.receivers = system.receivers)
    : later.Enrolled := by
  refine ⟨registered ▸ enrolled.nodup_live, fun number receiver held isPresent => ?_⟩
  rw [receivers] at held
  rw [registered, enrolled.mem_live]
  exact ⟨receiver, receiver?_eq_some_iff.mpr ⟨held, isPresent⟩⟩

/-- Every action keeps the register complete. -/
theorem perform (enrolled : system.Enrolled) (action : Action α)
    : (system.perform action).2.Enrolled := by
  rcases system.registered_perform action with same | ⟨purged, receivers⟩
  · refine enrolled.of_kept same fun number after held => ?_
    obtain ⟨before, beforeHeld, rfl | ⟨change, changes, rfl⟩ | ⟨slot, -, rfl⟩⟩ :=
      perform_receiver held
    · exact ⟨after, beforeHeld, rfl⟩
    · have kept := Action.change_present changes
        ⟨before, system.keeperOf? before.keeper, []⟩
      exact ⟨before, beforeHeld, kept.symm⟩
    · exact ⟨before, beforeHeld, rfl⟩
  · exact enrolled.of_purged purged receivers

/-- Whoever acts keeps the register complete. -/
theorem acted (enrolled : system.Enrolled) (thread : ThreadId) (action : Action α)
    : (system.acted thread action).2.Enrolled := by
  have acting : ({ system with acting := thread } : System α).Enrolled :=
    ⟨enrolled.once, enrolled.listed⟩
  exact acting.perform action

/-- A new receiver is registered under a number that no receiver had before. -/
theorem addReceiver (enrolled : system.Enrolled) (settings : ReceiverSettings)
    : (system.addReceiver settings).2.Enrolled := by
  constructor
  · refine List.nodup_append.mpr ⟨enrolled.nodup_live, List.nodup_singleton _, ?_⟩
    intro id old other new
    obtain ⟨receiver, found⟩ := (mem_liveReceivers.mp old).2
    obtain ⟨inside, -⟩ := Array.getElem?_eq_some_iff.mp (receiver?_eq_some_iff.mp found).1
    rw [List.mem_singleton.mp new]
    rintro rfl
    exact absurd inside (Nat.lt_irrefl _)
  · refine forall_addReceiver (fun number known held isPresent => ?_) fun _ => ?_
    · refine List.mem_append_left _ (enrolled.mem_live.mpr ⟨known, ?_⟩)
      exact receiver?_eq_some_iff.mpr ⟨held, isPresent⟩
    · exact List.mem_append_right _ (List.mem_singleton.mpr rfl)

/-- A new branch needs no entry. -/
theorem addBranch (enrolled : system.Enrolled) {id : ControllerId}
    {producer consumer : Receiver α} {link : LinkId}
    (added : system.addBranch id producer consumer = .ok (link, later))
    : later.Enrolled := by
  obtain ⟨receivers, -, director, -⟩ := addBranch_fields added
  exact enrolled.of_kept (by rw [director]) fun number known held =>
    ⟨known, receivers ▸ held, rfl⟩

/-- Nor does a receiver that goes. -/
theorem discard (enrolled : system.Enrolled) (id : ReceiverId)
    : (system.discard id).Enrolled := by
  refine ⟨enrolled.once, forall_modify enrolled.listed ?_⟩
  intro known held isPresent
  cases isPresent

/-- A system that was put together has all its receivers registered, by induction on its
parts.
-/
theorem of_assembled (assembled : system.Assembled) : system.Enrolled := by
  induction assembled with
  | new settings recordLimit =>
      refine ⟨List.nodup_nil, ?_⟩
      intro number receiver held
      cases held
  | addReceiver assembled settings ih => exact ih.addReceiver settings
  | addKeeper assembled owner ih => exact ⟨ih.once, ih.listed⟩
  | addController assembled ih => exact ⟨ih.once, ih.listed⟩
  | addBranch assembled added ih => exact ih.addBranch added
  | discard assembled id ih => exact ih.discard id

end Enrolled
end System
end TimedDataflow
