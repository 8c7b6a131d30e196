import TimedDataflow.Proofs.Program.Lives
import TimedDataflow.Proofs.Receiver.Lasting
import TimedDataflow.Proofs.System.Staffing

/-! What deeds leave behind: what they end on a receiver, how many processes they leave active,
and whether supervision may end after them.
-/

namespace TimedDataflow

variable {α σ : Type}

-----------------------------------------------------------------------------------------
-- What is over on a receiver
-----------------------------------------------------------------------------------------

namespace System

variable {system : System α} {thread : ThreadId} {action : Action α} {id : ReceiverId}
  {later : Receiver α} {deeds : List (Deed α)}

/-- What is over on a receiver stays over in an action that does not reset it. -/
theorem lasts_acted (noReset : action ≠ .reset id)
    (found : (system.acted thread action).2.receiver? id = some later)
    : ∃ receiver, system.receiver? id = some receiver ∧ receiver.Lasts later := by
  obtain ⟨held, present⟩ := receiver?_eq_some_iff.mp found
  obtain ⟨before, beforeHeld, how⟩ := perform_receiver held
  have lasts : before.Lasts later := by
    rcases how with rfl | ⟨change, changes, rfl⟩ | ⟨slot, -, rfl⟩
    · exact .refl _
    · exact Action.change_lasts changes noReset ⟨before, _, []⟩
    · exact .of_same rfl rfl rfl
  exact ⟨before, receiver?_eq_some_iff.mpr ⟨beforeHeld, lasts.present ▸ present⟩, lasts⟩

/-- It stays over in deeds that do not reset it, by induction on them. -/
theorem lasts_replayed (noReset : ∀ deed ∈ deeds, deed.action ≠ .reset id)
    (found : (system.replayed deeds).receiver? id = some later)
    : ∃ receiver, system.receiver? id = some receiver ∧ receiver.Lasts later := by
  induction deeds generalizing system with
  | nil => exact ⟨later, found, .refl _⟩
  | cons deed rest ih =>
      obtain ⟨first, others⟩ := List.forall_mem_cons.mp noReset
      obtain ⟨between, held, back⟩ := ih others found
      obtain ⟨receiver, known, front⟩ := lasts_acted first held
      exact ⟨receiver, known, front.trans back⟩

/-- A section leaves of its receiver what it made of it. -/
theorem receiver?_section {change : Monitor α → Monitor α}
    (isSection : action.section? = some (id, change))
    (found : (system.acted thread action).2.receiver? id = some later)
    : ∃ monitor, later = (change monitor).receiver := by
  cases known : system.receiver? id with
  | none =>
      have absent : ({ system with acting := thread } : System α).receiver? id = none := known
      rw [acted, perform_section isSection, visited_absent absent, absent] at found
      cases found
  | some receiver =>
      have held := receivers_section known thread isSection
      rw [(receiver?_eq_some_iff.mp found).1] at held
      exact ⟨_, Option.some.inj held⟩

/-- What a section ends on its receiver is over behind it, unless the receiver is reset. -/
theorem lasts_section {change : Monitor α → Monitor α} (done : ⟨thread, action⟩ ∈ deeds)
    (isSection : action.section? = some (id, change))
    (noReset : ∀ deed ∈ deeds, deed.action ≠ .reset id)
    (found : (system.replayed deeds).receiver? id = some later)
    : ∃ monitor, (change monitor).receiver.Lasts later := by
  obtain ⟨front, back, rfl⟩ := List.append_of_mem done
  rw [replayed_append] at found
  have rest : ∀ deed ∈ back, deed.action ≠ .reset id := fun deed member =>
    noReset deed (by simp [member])
  obtain ⟨between, held, lasts⟩ := lasts_replayed rest found
  obtain ⟨monitor, rfl⟩ := receiver?_section isSection held
  exact ⟨monitor, lasts⟩

/-- Once the end of its stream was noted, a receiver has finished. -/
theorem finished_replayed (done : ⟨thread, .finishProducer id⟩ ∈ deeds)
    (noReset : ∀ deed ∈ deeds, deed.action ≠ .reset id)
    (found : (system.replayed deeds).receiver? id = some later)
    : later.queue.finished = true := by
  obtain ⟨monitor, lasts⟩ := lasts_section done rfl noReset found
  exact lasts.finished (by rw [Monitor.receiver_finishProducer]; rfl)

/-- Once it was asked to finish, a receiver is terminated. -/
theorem terminated_replayed (done : ⟨thread, .requestFinish id⟩ ∈ deeds)
    (noReset : ∀ deed ∈ deeds, deed.action ≠ .reset id)
    (found : (system.replayed deeds).receiver? id = some later)
    : later.terminated = true := by
  obtain ⟨monitor, lasts⟩ := lasts_section done rfl noReset found
  exact lasts.terminated (by rw [Monitor.receiver_requestFinish])

end System

-----------------------------------------------------------------------------------------
-- Active processes
-----------------------------------------------------------------------------------------

namespace Action

/-- Whether an action registers a process as active. -/
def enters : Action α → Bool
  | .addActive => true
  | _ => false

/-- Whether an action ends the registration of a process. -/
def departs : Action α → Bool
  | .removeActive => true
  | _ => false

/-- The actions that a process owes to the director: records of its start and its end, and what
bears on the number of active processes.
-/
def isOfficial : Action α → Bool
  | .emit (.processStarted _) | .emit (.processEnded ..) => true
  | .addActive | .removeActive | .restart => true
  | _ => false

end Action

namespace System

variable {system : System α} {deeds : List (Deed α)}

/-- Every process that departs was registered, and the books are not cleared in between. -/
def Counted (system : System α) : List (Deed α) → Prop
  | [] => True
  | deed :: rest =>
      deed.action ≠ .restart
      ∧ (deed.action = .removeActive → 0 < system.director.active)
      ∧ (system.acted deed.thread deed.action).2.Counted rest

/-- How an action bears on the number of active processes. -/
theorem active_acted (thread : ThreadId) {action : Action α} (noRestart : action ≠ .restart)
    (registered : action = .removeActive → 0 < system.director.active)
    : (system.acted thread action).2.director.active + action.departs.toNat
      = system.director.active + action.enters.toNat := by
  by_cases starts : action = .addActive
  · subst starts
    rfl
  · by_cases ends : action = .removeActive
    · subst ends
      have some := registered rfl
      have found : ({ system with acting := thread } : System α).director.active ≠ 0 :=
        some.ne'
      simp only [acted, perform, silently, removeActive, if_neg found, Action.departs,
        Action.enters, Bool.toNat_true, Bool.toNat_false]
      omega
    · have same : (system.acted thread action).2.director.active = system.director.active :=
        active_perform starts ends noRestart
      have neither : action.departs = false ∧ action.enters = false := by
        cases action with
        | addActive => exact absurd rfl starts
        | removeActive => exact absurd rfl ends
        | _ => exact ⟨rfl, rfl⟩
      rw [neither.1, neither.2]
      exact congrArg (· + 0) same

/-- The first of the deeds counts if its action does. -/
theorem countP_actions (kind : Action α → Bool) (deed : Deed α) (rest : List (Deed α))
    : ((deed :: rest).map Deed.action).countP kind
      = (rest.map Deed.action).countP kind + (kind deed.action).toNat := by
  rw [List.map_cons, List.countP_cons]
  cases kind deed.action <;> rfl

/-- The processes that are active after deeds and those that departed in them are those that
were active before and those that entered, by induction on the deeds.
-/
theorem Counted.active (counted : system.Counted deeds)
    : (system.replayed deeds).director.active + (deeds.map Deed.action).countP Action.departs
      = system.director.active + (deeds.map Deed.action).countP Action.enters := by
  induction deeds generalizing system with
  | nil => rfl
  | cons deed rest ih =>
      obtain ⟨noRestart, registered, later⟩ := counted
      have first := active_acted deed.thread noRestart registered
      have others := ih later
      rw [countP_actions, countP_actions]
      simp only [replayed]
      omega

/-- Where no more processes depart than were active at first, every one of them was registered, by
induction on the deeds.
-/
theorem counted_of_le (noRestart : ∀ deed ∈ deeds, deed.action ≠ .restart)
    (enough : (deeds.map Deed.action).countP Action.departs ≤ system.director.active)
    : system.Counted deeds := by
  induction deeds generalizing system with
  | nil => trivial
  | cons deed rest ih =>
      obtain ⟨here, others⟩ := List.forall_mem_cons.mp noRestart
      rw [countP_actions] at enough
      have registered (ends : deed.action = .removeActive) : 0 < system.director.active := by
        rw [ends, Action.departs, Bool.toNat_true] at enough
        omega
      have balance := active_acted deed.thread here registered
      exact ⟨here, registered, ih others (by omega)⟩

/-- Only where no process is active a look for deadlocks says that it was the last one. -/
theorem idle_of_watch {thread : ThreadId} {ended : Bool}
    (answered : (system.acted thread (.watch ended)).1 = .done false)
    : (system.acted thread (.watch ended)).2.director.active = 0 := by
  simp only [acted, perform] at answered ⊢
  split at answered
  case isTrue idle => rwa [if_pos idle]
  case isFalse busy => split at answered <;> cases answered

end System

-----------------------------------------------------------------------------------------
-- Supervision
-----------------------------------------------------------------------------------------

namespace Program

variable {actor : Actor α σ} {thread : ThreadId} {others : Schedule α} {tick last : Nat}
  {system : System α} {deeds : List (Deed α)}

/-- What supervision does once it has looked for a deadlock. -/
def looked : Bool → Program α σ Unit
  | true =>
      (resolveDeadlock >>= fun resolution =>
        pure (Round.again (decide (resolution = .terminated)))).andThen
        (afterRound .supervise .done)
  | false => .done ()

/-- The life of supervision begins with a look for a deadlock. -/
theorem lives_supervise {ended : Bool}
    : Lives actor thread others tick system (run .supervise ended) deeds () last
      ↔ Lives actor thread others tick system (.act (.watch ended) looked) deeds () last := by
  have round
      : (body actor .supervise ended).andThen (afterRound .supervise .done)
        = .act (.watch ended) looked := by
    refine congrArg (Program.act (.watch ended)) (funext fun deadlocked => ?_)
    cases deadlocked <;> rfl
  rw [← round]
  constructor
  · rintro (_ | _ | _ | ⟨rest⟩)
    exact rest
  · exact .call

/-- Supervision that finds no process active ends at once. -/
theorem supervise_ends (actor : Actor α σ) (thread : ThreadId) (ended : Bool)
    (idle : (system.replayed (others tick)).director.active = 0)
    : Lives actor thread others tick system (run .supervise ended)
        (others tick ++ [⟨thread, .watch ended⟩]) () (tick + 1) := by
  have none : (({ system.replayed (others tick) with acting := thread } : System α).perform
      (.watch ended)).1 = .done false := by
    simp [System.perform, idle]
  exact lives_supervise.mpr (.act none (.done ..))

/-- Supervision ends only when no process is active, by induction on the number of deeds: it
goes on with fewer of them after each look.
-/
theorem idle_of_supervise {ended : Bool}
    (lives : Lives actor thread others tick system (run .supervise ended) deeds () last)
    : (system.replayed deeds).director.active = 0 := by
  replace lives := lives_supervise.mp lives
  induction size : deeds.length using Nat.strong_induction_on
    generalizing ended tick system deeds with
  | _ count ih =>
      subst size
      obtain ⟨more, rfl, ⟨reply, answered, rest⟩ | ⟨-, rest⟩⟩ := lives_act lives
      · cases reply with
        | false =>
            obtain ⟨rfl, -, -⟩ := lives_done rest
            rw [System.replayed_append]
            exact System.idle_of_watch answered
        | true =>
            obtain ⟨front, round, middle, back, rfl, resolves, later⟩ := lives_andThen rest
            obtain ⟨_, resolution, _, _, _, _, told⟩ := lives_andThen resolves
            obtain ⟨-, rfl, -⟩ := lives_done told
            have idle := ih back.length (by simp; omega) (lives_supervise.mp later) rfl
            simpa [System.replayed] using idle
      · have idle := ih more.length (by simp; omega) rest rfl
        simpa [System.replayed] using idle

/-- Supervision that finds a process active, but no deadlock, never ends on its own. -/
theorem supervise_waits (actor : Actor α σ) (thread : ThreadId) {ended : Bool}
    (busy : system.director.active ≠ 0) (flows : system.director.isDeadlocked = false)
    : ¬ Lives actor thread (fun _ => []) tick system (run .supervise ended) deeds () last := by
  intro lives
  have waits
      : system.acted thread (.watch ended) = (.suspended, { system with acting := thread }) := by
    simp [System.acted, System.perform, busy, flows]
  cases lives_supervise.mp lives with
  | act answered rest =>
      rw [System.replayed, waits] at answered
      cases answered
  | wait suspended resumes rest =>
      rw [System.replayed, System.replayed, waits] at resumes
      simp [System.mayResume, busy, flows] at resumes

end Program
end TimedDataflow
