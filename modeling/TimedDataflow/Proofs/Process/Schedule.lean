import TimedDataflow.Proofs.Process.Merging

/-! What an actor reads does not depend on the schedule: its calls deliver the merge of what
its inputs accept, token by token, and tell the end of the stream when all of it is there.
-/

namespace TimedDataflow.Reading

variable {α σ : Type} {context : Context} {actor : Actor α σ} {priority : ReceiverId → Int}
  {reading after later : Reading α σ} {stage : Stage α} {intake : Intake α}
  {delivered : List (Arrival α)}

/-- The token that an answer delivered, with the index of its input. -/
def delivery? : Except Error (Nat × Stamped α) × Time → Option (Nat × Stamped α)
  | (.ok delivery, _) => some delivery
  | (.error _, _) => none

/-- The tokens delivered so far. -/
def deliveries (reading : Reading α σ) : List (Nat × Stamped α) :=
  reading.answers.filterMap delivery?

/-- A call has answered that the stream is over. -/
def Over (reading : Reading α σ) : Prop :=
  ∃ time, (.error .terminated, time) ∈ reading.answers

/-- Steps of producers. -/
abbrev Feeding (actor : Actor α σ) (context : Context)
    : Reading α σ → Reading α σ → Prop :=
  Reaches actor context fun system action => action.Feeds context system

-----------------------------------------------------------------------------------------
-- Readings in order
-----------------------------------------------------------------------------------------

/-- A reading in order at a stage of its call: the merge is in progress, all that it
delivered was answered or is about to be, and nothing comes after the end of the stream.
-/
structure OrderedAt (context : Context) (priority : ReceiverId → Int)
    (reading : Reading α σ) (stage : Stage α) (intake : Intake α)
    (delivered : List (Arrival α))
    : Prop where
  at_ : At context reading stage intake
  merges : intake.Merges context priority delivered reading.accepted
  call : stage.Merges context intake
  told : delivered.map (Intake.told context) = reading.deliveries ++ stage.pending
  last : reading.Over → intake.Inactive context ∧ stage.pending = []

/-- A reading in order, at whatever stage. -/
def Ordered (context : Context) (priority : ReceiverId → Int) (reading : Reading α σ)
    : Prop :=
  ∃ stage intake delivered, OrderedAt context priority reading stage intake delivered

/-- Tokens that were delivered stay delivered, and none follows the end of the stream. -/
structure Grown (reading later : Reading α σ) : Prop where
  longer : reading.deliveries <+: later.deliveries
  ended : reading.Over → later.Over ∧ later.deliveries = reading.deliveries

/-- A reading has grown by nothing. -/
theorem Grown.refl (reading : Reading α σ) : reading.Grown reading :=
  ⟨List.prefix_refl _, fun ended => ⟨ended, rfl⟩⟩

/-- Growth adds up. -/
theorem Grown.trans (front : reading.Grown after) (back : after.Grown later)
    : reading.Grown later := by
  refine ⟨front.longer.trans back.longer, ?_⟩
  intro ended
  obtain ⟨between, same⟩ := front.ended ended
  obtain ⟨still, last⟩ := back.ended between
  exact ⟨still, last.trans same⟩

/-- Without new answers a reading has not grown. -/
theorem Grown.of_same (answers : after.answers = reading.answers) : reading.Grown after := by
  have same : after.deliveries = reading.deliveries := by
    rw [deliveries, answers, deliveries]
  refine ⟨same ▸ List.prefix_refl _, ?_⟩
  rintro ⟨time, member⟩
  exact ⟨⟨time, answers ▸ member⟩, same⟩

/-- A step of the thread keeps a reading in order: an answer that it returns is the next
token of the merge, or tells the end when every input is inactive.
-/
theorem OrderedAt.read (ordered : OrderedAt context priority reading stage intake delivered)
    : (reading.read actor context).Ordered context priority
      ∧ reading.Grown (reading.read actor context) := by
  obtain ⟨at_, merges, stageMerges, told, last⟩ := ordered
  have result : ReadResult context reading intake (reading.read actor context) stage :=
    at_.read
  generalize reading.read actor context = after at result
  cases result with
  | @moved _ next later moves laterAt answers accepted =>
      obtain ⟨more, going, nextMerges, pending, still⟩ :=
        merges.moves at_.shown at_.indexed stageMerges moves
      have grown : reading.Grown after := .of_same answers
      have same : after.deliveries = reading.deliveries := by
        rw [deliveries, answers, deliveries]
      refine
        ⟨⟨next, later, delivered ++ more, laterAt, accepted ▸ going, nextMerges, ?_, ?_⟩,
          grown⟩
      · rw [List.map_append, told, same, List.append_assoc, pending]
      · rintro ⟨time, member⟩
        exact still (last ⟨time, answers ▸ member⟩).1
  | returned answer laterAt answers accepted =>
      have longer : after.deliveries = reading.deliveries ++ (Stage.answered answer).pending := by
        rw [deliveries, answers, List.filterMap_append]
        cases answer <;> rfl
      have whole : delivered.map (Intake.told context) = after.deliveries ++ [] := by
        rw [told, longer, List.append_nil]
      refine
        ⟨⟨.searching, intake, delivered, laterAt, accepted ▸ merges, trivial, whole, ?_⟩,
          longer ▸ List.prefix_append .., ?_⟩
      · rintro ⟨time, member⟩
        refine ⟨?_, rfl⟩
        rw [answers, List.mem_append, List.mem_singleton] at member
        rcases member with old | new
        · exact (last ⟨time, old⟩).1
        · cases new
          exact stageMerges rfl
      · rintro ⟨time, member⟩
        refine ⟨⟨time, answers ▸ List.mem_append_left _ member⟩, ?_⟩
        rw [longer, (last ⟨time, member⟩).2, List.append_nil]

/-- Producers keep a reading in order: what they get accepted waits behind all that was
delivered.
-/
theorem OrderedAt.meanwhile
    (ordered : OrderedAt context priority reading stage intake delivered) (party : ThreadId)
    {action : Action α} (feeds : action.Feeds context reading.system)
    : (reading.meanwhile party action).Ordered context priority
      ∧ reading.Grown (reading.meanwhile party action) := by
  obtain ⟨at_, merges, stageMerges, told, last⟩ := ordered
  have shown := at_.acting party
  have acting : action.Feeds context { reading.system with acting := party } :=
    ⟨⟨feeds.spares, feeds.open_⟩, feeds.noPriority, feeds.noRelease, feeds.noStop⟩
  obtain ⟨going, onward⟩ := merges.acted shown acting
  refine ⟨⟨stage, intake.acted context action, delivered,
    at_.meanwhile party feeds.spares, going,
    merges.stage_acted shown acting at_.indexed stageMerges, told, ?_⟩, .of_same rfl⟩
  intro ended
  exact ⟨onward.inactive (last ended).1, (last ended).2⟩

/-- Whatever steps follow, a reading stays in order and only grows, by induction on the
steps.
-/
theorem Ordered.reaches (ordered : reading.Ordered context priority)
    (reached : Feeding actor context reading later)
    : later.Ordered context priority ∧ reading.Grown later := by
  induction reached with
  | refl => exact ⟨ordered, .refl reading⟩
  | @tail between after _ step ih =>
      obtain ⟨⟨stage, intake, delivered, between⟩, grown⟩ := ih
      cases step with
      | read able =>
          obtain ⟨still, more⟩ := between.read
          exact ⟨still, grown.trans more⟩
      | meanwhile party action feeds =>
          obtain ⟨still, more⟩ := between.meanwhile party feeds
          exact ⟨still, grown.trans more⟩

/-- What a reading in order delivered is an initial segment of the merge, and all of it
once the end of the stream was told.
-/
theorem Ordered.prefix_merged (ordered : reading.Ordered context priority)
    : let merge := (Arrival.merged context priority reading.accepted).map (Intake.told context)
      reading.deliveries <+: merge ∧ (reading.Over → reading.deliveries = merge) := by
  obtain ⟨stage, intake, delivered, at_, merges, stageMerges, told, last⟩ := ordered
  obtain ⟨front, whole⟩ := merges.prefix_merged fun id => at_.shown.named
  have answered : reading.deliveries <+: delivered.map (Intake.told context) :=
    told ▸ List.prefix_append ..
  refine ⟨answered.trans (front.map _), ?_⟩
  intro ended
  obtain ⟨inactive, nothing⟩ := last ended
  rw [nothing, List.append_nil] at told
  rw [← told, whole inactive]

-----------------------------------------------------------------------------------------
-- All schedules
-----------------------------------------------------------------------------------------

/-- The priorities of the receivers of a system. -/
def priorities (system : System α) (id : ReceiverId) : Int :=
  ((system.receiver? id).map Receiver.priority).getD 0

/-- A reading of prepared inputs starts in order. -/
theorem ordered_start {system ready : System α} (unused : context.Unused system)
    (prepared : Program.Runs actor (Program.prepare context) system (.ok ()) ready)
    (reader : ThreadId)
    : (start context ready reader : Reading α σ).Ordered context (priorities ready) := by
  obtain ⟨intake, shown, fresh⟩ := Intake.fresh_of_prepare unused prepared
  have ranks (id : ReceiverId) (member : id ∈ context.inputs)
      : (intake.receiver id).priority = priorities ready id := by
    rw [priorities, shown.receiver? member]
    rfl
  exact ⟨.searching, intake, [], ⟨rfl, shown, trivial⟩, fresh.merges ranks, trivial, rfl,
    nofun⟩

/-- What an actor reads does not depend on the schedule. Its inputs are prepared, and
producers do whatever they like up to the end of their streams; `accepted` is any
interleaving of what each input accepted over the whole run. Then the tokens delivered at
any time are an initial segment of the merge of `accepted`, and the whole merge once the
end of the stream was told.
-/
theorem delivers_merge {system ready : System α} (unused : context.Unused system)
    (prepared : Program.Runs actor (Program.prepare context) system (.ok ()) ready)
    (reader : ThreadId)
    (reached : Feeding actor context (start context ready reader) reading)
    (onward : Feeding actor context reading later) {accepted : List (Arrival α)}
    (same
      : ∀ id ∈ context.inputs,
          Arrival.ofInput id accepted = Arrival.ofInput id later.accepted)
    : let merge :=
        (Arrival.merged context (priorities ready) accepted).map (Intake.told context)
      reading.deliveries <+: merge ∧ (reading.Over → reading.deliveries = merge) := by
  obtain ⟨ordered, -⟩ := (ordered_start unused prepared reader).reaches reached
  obtain ⟨last, grown⟩ := ordered.reaches onward
  obtain ⟨front, whole⟩ := last.prefix_merged
  rw [Arrival.merged_congr same]
  refine ⟨grown.longer.trans front, ?_⟩
  intro ended
  obtain ⟨still, unchanged⟩ := grown.ended ended
  exact unchanged.symm.trans (whole still)

/-- Two tokens with equal stamps for the merging actor, the one for the second input first. -/
def rivals : Reading Nat Unit :=
  ((start Merging.context Merging.ready .main).meanwhile .main
    (.put ⟨1⟩ (.data 8) (.instant ⟨0x3ff0000000000000⟩) .process)).meanwhile .main
    (.put ⟨0⟩ (.data 7) (.instant ⟨0x3ff0000000000000⟩) .process)

/-- Both inputs are finished, too. -/
def settled : Reading Nat Unit :=
  (rivals.meanwhile .main (.finishProducer ⟨0⟩)).meanwhile .main (.finishProducer ⟨1⟩)

/-- The merging actor after its thread read to the end of the stream. -/
def drained : Reading Nat Unit :=
  Nat.repeat (Reading.read Merging.idle Merging.context) 14 settled

/-- Both tokens reach the merging actor in the order of its inputs, and then the end. -/
theorem delivers_merge_drained
    : let one : Time := .instant ⟨0x3ff0000000000000⟩
      let accepted : List (Arrival Nat) :=
        [(⟨0⟩, ⟨.data 7, one⟩), (⟨1⟩, ⟨.data 8, one⟩)]
      drained.Over
      ∧ drained.accepted = accepted.reverse
      ∧ drained.deliveries = [(0, ⟨.data 7, one⟩), (1, ⟨.data 8, one⟩)]
      ∧ drained.deliveries
        = (Arrival.merged Merging.context (priorities Merging.ready) accepted).map
            (Intake.told Merging.context) := by
  intro one accepted
  have put (reading : Reading Nat Unit) (id : ReceiverId) (value : Nat)
      (open_
        : ∀ receiver, reading.system.receiver? id = some receiver
            → receiver.queue.finished = false)
      : Feeding Merging.idle Merging.context reading
          (reading.meanwhile .main (.put id (.data value) one .process)) := by
    refine .single (.meanwhile .main _ ⟨⟨rfl, ?_⟩, nofun, nofun, nofun⟩)
    intro input member time asked
    cases asked
    exact open_
  have finish (reading : Reading Nat Unit) (id : ReceiverId)
      : Feeding Merging.idle Merging.context reading
          (reading.meanwhile .main (.finishProducer id)) :=
    .single (.meanwhile .main _ ⟨⟨rfl, nofun⟩, nofun, nofun, nofun⟩)
  have rivalsReached
      : Feeding Merging.idle Merging.context (start Merging.context Merging.ready .main)
          rivals := by
    refine (put _ ⟨1⟩ 8 ?_).trans (put _ ⟨0⟩ 7 ?_)
    · intro receiver found
      cases found
      rfl
    · intro receiver found
      cases found
      rfl
  have settledReached := rivalsReached.trans ((finish rivals ⟨0⟩).trans (finish _ ⟨1⟩))
  have drainedReached
      : Feeding Merging.idle Merging.context (start Merging.context Merging.ready .main)
          drained :=
    settledReached.trans (reaches_reads 14 (by decide))
  have ended : drained.Over := ⟨one, by decide⟩
  have accepted_eq : drained.accepted = accepted.reverse := rfl
  have same (id : ReceiverId) (member : id ∈ Merging.context.inputs)
      : Arrival.ofInput id accepted = Arrival.ofInput id drained.accepted := by
    rw [accepted_eq]
    rcases List.mem_cons.mp member with rfl | member
    · rfl
    · rw [List.mem_singleton.mp member]
      rfl
  refine ⟨ended, accepted_eq, rfl, ?_⟩
  exact (delivers_merge Merging.unused Merging.prepared .main drainedReached .refl same).2 ended

end TimedDataflow.Reading
