import Mathlib.Data.List.Nodup
import Mathlib.Logic.ExistsUnique
import Mathlib.Logic.Relation
import TimedDataflow.Proofs.Keeper.Standings

/-! The turn of a keeper goes to one receiver, whatever was asked of the keeper before. What it
answers depends on the standings alone, not on the order in which it took them up or in which
it stores them now.
-/

namespace TimedDataflow

namespace Standing

/-- One standing is ahead of another: it is earlier, or at the same time it did not yield
while the other did, or has the higher priority, or the lower number.
-/
def Ahead (left right : Standing) : Prop :=
  left.time < right.time
  ∨ left.time = right.time
    ∧ (left.yielded = false ∧ right.yielded = true
      ∨ left.yielded = right.yielded
        ∧ (right.priority < left.priority
          ∨ right.priority = left.priority ∧ left.receiver.number < right.receiver.number))

/-- Ranking before is being ahead. -/
theorem rank_eq_lt_iff_ahead {left right : Standing}
    : left.rank right = .lt ↔ left.Ahead right := by
  have same : left.time = right.time ↔ left.time.rank = right.time.rank :=
    ⟨congrArg Time.rank, fun equal => Time.rank_injective equal⟩
  have yields : left.yielded.toNat < right.yielded.toNat
      ↔ left.yielded = false ∧ right.yielded = true := by
    cases left.yielded <;> cases right.yielded <;> decide
  have ties : left.yielded.toNat = right.yielded.toNat ↔ left.yielded = right.yielded := by
    cases left.yielded <;> cases right.yielded <;> decide
  rw [rank_eq_lt_iff, Ahead, Time.lt_def, same, yields, ties]

/-- Without repetition, in order of rank, the first has a time of its own just when it alone is
not later than any other.
-/
theorem Sorted.first_time_lt_iff {first second : Standing} {rest : List Standing}
    (sorted : Sorted (first :: second :: rest)) (distinct : (first :: second :: rest).Nodup)
    : first.time < second.time
      ↔ ∃! standing,
          standing ∈ first :: second :: rest
          ∧ ∀ other ∈ first :: second :: rest, standing.time ≤ other.time := by
  obtain ⟨behindFirst, tail⟩ := List.pairwise_cons.mp sorted
  obtain ⟨behindSecond, -⟩ := List.pairwise_cons.mp tail
  have onward {earlier later : Standing} (behind : later.rank earlier ≠ .lt)
      : earlier.time ≤ later.time :=
    not_lt.mp fun before => behind (rank_eq_lt_of_time_lt before)
  have least : ∀ other ∈ first :: second :: rest, first.time ≤ other.time :=
    List.forall_mem_cons.mpr ⟨le_refl _, fun other held => onward (behindFirst other held)⟩
  have next : ∀ other ∈ second :: rest, second.time ≤ other.time :=
    List.forall_mem_cons.mpr ⟨le_refl _, fun other held => onward (behindSecond other held)⟩
  constructor
  · intro before
    refine ⟨first, ⟨List.mem_cons_self, least⟩, ?_⟩
    rintro standing ⟨held, early⟩
    rcases List.mem_cons.mp held with same | behind
    · exact same
    · exact absurd (before.trans_le (next standing behind))
        (not_lt.mpr (early first List.mem_cons_self))
  · rintro ⟨standing, -, alone⟩
    by_contra notBefore
    have secondLeast : ∀ other ∈ first :: second :: rest, second.time ≤ other.time :=
      List.forall_mem_cons.mpr ⟨not_lt.mp notBefore, next⟩
    have one := alone first ⟨List.mem_cons_self, least⟩
    have other := alone second ⟨List.mem_cons_of_mem _ List.mem_cons_self, secondLeast⟩
    rw [one, ← other] at distinct
    exact (List.nodup_cons.mp distinct).1 List.mem_cons_self

end Standing

namespace Keeper

variable {η : Type} {keeper left right updated : Keeper η}

-----------------------------------------------------------------------------------------
-- What may be asked of a keeper
-----------------------------------------------------------------------------------------

/-- One thing that is done with a keeper. Whatever is only asked of it may store the standings
anew, in the order of their ranks.
-/
inductive Step : Keeper η → Keeper η → Prop where
  | update {keeper updated : Keeper η} {standing : Standing}
      (taken : keeper.update standing = .ok updated)
      : Step keeper updated
  | evaluate {keeper after : Keeper η} {standing : Standing} {turn : Turn}
      (judged : keeper.evaluate standing = .ok (turn, after))
      : Step keeper after
  | resort (keeper : Keeper η) : Step keeper keeper.resort
  | advance (keeper : Keeper η) (time : Time) : Step keeper (keeper.advance time)
  | addOutput (keeper : Keeper η) (output : η) : Step keeper (keeper.addOutput output)
  | addInput (keeper : Keeper η) (receiver : ReceiverId) (input : η)
      : Step keeper (keeper.addInput receiver input)
  | passTurn (keeper : Keeper η) (changed : ReceiverId)
      : Step keeper (keeper.passTurn changed).2

/-- The keeper comes about by steps from a new one. -/
def Reachable (keeper : Keeper η) : Prop :=
  ∃ owner, Relation.ReflTransGen Step (new owner) keeper

/-- A turn that is passed leaves the standings alone. -/
@[simp]
theorem standings_passTurn (keeper : Keeper η) (changed : ReceiverId)
    : (keeper.passTurn changed).2.standings = keeper.standings := by
  unfold passTurn
  split
  · rfl
  · split <;> rfl

/-- A standing that is judged was taken up, and the turn is that of the keeper then. -/
theorem evaluate_eq_ok {standing : Standing} {turn : Turn} {after : Keeper η}
    (judged : keeper.evaluate standing = .ok (turn, after))
    : ∃ updated,
        keeper.update standing = .ok updated
        ∧ after.standings = updated.standings
        ∧ turn = updated.turn standing := by
  unfold evaluate at judged
  cases taken : keeper.update standing with
  | error error =>
      rw [taken] at judged
      exact nomatch judged
  | ok updated =>
      rw [taken] at judged
      obtain ⟨rfl, rfl⟩ := Prod.mk.inj (Except.ok.inj judged)
      exact ⟨updated, rfl, rfl, rfl⟩

/-- No step repeats a receiver. -/
theorem Unique.step (unique : left.Unique) (step : Step left right) : right.Unique := by
  cases step with
  | update taken => exact unique.update taken
  | evaluate judged =>
      obtain ⟨updated, taken, same, -⟩ := evaluate_eq_ok judged
      rw [Unique, same]
      exact unique.update taken
  | resort =>
      exact ((Standing.ranked_perm left.standings).map Standing.receiver).nodup_iff.mpr unique
  | advance time =>
      rw [Unique, standings_advance]
      exact unique
  | addOutput output => exact unique
  | addInput receiver input => exact unique
  | passTurn changed =>
      rw [Unique, standings_passTurn]
      exact unique

/-- A keeper never knows two standings of one receiver, by induction on its steps. -/
theorem Reachable.unique (reachable : keeper.Reachable) : keeper.Unique := by
  obtain ⟨owner, steps⟩ := reachable
  induction steps with
  | refl => exact List.nodup_nil
  | tail _ step ih => exact ih.step step

-----------------------------------------------------------------------------------------
-- Keepers with the same standings
-----------------------------------------------------------------------------------------

/-- Without repeated receivers the standings are those that are found. -/
theorem Unique.mem_iff (unique : keeper.Unique) {standing : Standing}
    : standing ∈ keeper.standings ↔ keeper.find? standing.receiver = some standing :=
  ⟨find?_of_mem unique, mem_of_find?⟩

/-- Without repeated receivers a standing is told by its receiver. -/
theorem Unique.eq_of_receiver (unique : keeper.Unique) {first second : Standing}
    (one : first ∈ keeper.standings) (other : second ∈ keeper.standings)
    (same : first.receiver = second.receiver)
    : first = second := by
  have found := unique.mem_iff.mp one
  rw [same, unique.mem_iff.mp other] at found
  exact (Option.some.inj found).symm

/-- The same standings are found when the same are stored, in whatever order. -/
theorem find?_congr (leftUnique : left.Unique) (rightUnique : right.Unique)
    (same : ∀ standing, standing ∈ left.standings ↔ standing ∈ right.standings)
    (receiver : ReceiverId)
    : left.find? receiver = right.find? receiver := by
  apply Option.ext
  intro standing
  constructor
  · intro found
    have member := (same standing).mp (mem_of_find? found)
    rw [← find?_receiver found]
    exact find?_of_mem rightUnique member
  · intro found
    have member := (same standing).mpr (mem_of_find? found)
    rw [← find?_receiver found]
    exact find?_of_mem leftUnique member

/-- Keepers that find the same standings rank them the same: two orders by rank of distinct
receivers are one.
-/
theorem ranked_congr (leftUnique : left.Unique) (rightUnique : right.Unique)
    (same : ∀ receiver, left.find? receiver = right.find? receiver)
    : left.ranked = right.ranked := by
  have members (standing : Standing)
      : standing ∈ left.standings ↔ standing ∈ right.standings := by
    rw [leftUnique.mem_iff, rightUnique.mem_iff, same]
  have stored : left.standings.Perm right.standings :=
    (List.perm_ext_iff_of_nodup (List.Nodup.of_map _ leftUnique)
      (List.Nodup.of_map _ rightUnique)).mpr members
  have reordered : left.ranked.Perm right.ranked :=
    ((Standing.ranked_perm _).trans stored).trans (Standing.ranked_perm _).symm
  apply reordered.eq_of_pairwise _ (Standing.sorted_ranked _) (Standing.sorted_ranked _)
  intro first second one other behind before
  have firstMember := (Standing.ranked_perm _).mem_iff.mp one
  have secondMember := (members second).mpr ((Standing.ranked_perm _).mem_iff.mp other)
  by_contra differ
  rcases Standing.rank_connected fun equal =>
      differ (leftUnique.eq_of_receiver firstMember secondMember equal) with ahead | ahead
  · exact before ahead
  · exact behind ahead

/-- The turn of a standing depends on the ranking only. -/
theorem turn_congr (same : left.ranked = right.ranked) (standing : Standing)
    : left.turn standing = right.turn standing := by
  rw [turn, turn, head?, head?, same]

/-- Two keepers answer alike whatever they are asked of their standings. -/
structure Alike (left right : Keeper η) : Prop where
  ranked : left.ranked = right.ranked
  nextTime : left.nextTime = right.nextTime
  hasSingleMinimum : left.hasSingleMinimum = right.hasSingleMinimum
  highest : left.highest? = right.highest?
  verdict : ∀ standing,
    (left.evaluate standing).map Prod.fst = (right.evaluate standing).map Prod.fst

/-- Keepers that find the same standings still do so when both take up another one, or both
refuse it for the same reason.
-/
theorem update_congr (same : ∀ receiver, left.find? receiver = right.find? receiver)
    (standing : Standing)
    : (∃ one other,
        left.update standing = .ok one
        ∧ right.update standing = .ok other
        ∧ ∀ receiver, one.find? receiver = other.find? receiver)
      ∨ ∃ error,
          left.update standing = .error error ∧ right.update standing = .error error := by
  cases taken : left.update standing with
  | ok one =>
      have onward := update_isOk_iff.mp ⟨one, taken⟩
      rw [same] at onward
      obtain ⟨other, alsoTaken⟩ := update_isOk_iff.mpr onward
      refine Or.inl ⟨one, other, rfl, alsoTaken, fun receiver => ?_⟩
      rw [find?_update taken, find?_update alsoTaken, same]
  | error error =>
      obtain ⟨known, found, back, rfl⟩ := update_error taken
      refine Or.inr ⟨_, rfl, ?_⟩
      rw [same] at found
      simp only [update, found, back, if_true]

/-- Keepers that find the same standings answer alike. -/
theorem alike_of_find? (leftUnique : left.Unique) (rightUnique : right.Unique)
    (same : ∀ receiver, left.find? receiver = right.find? receiver)
    : Alike left right := by
  have ranking := ranked_congr leftUnique rightUnique same
  refine ⟨ranking, ?_, ?_, ?_, ?_⟩
  · rw [nextTime, nextTime, head?, head?, ranking]
  · rw [hasSingleMinimum, hasSingleMinimum, ranking]
  · rw [highest?, highest?, head?, head?, ranking]
  · intro standing
    rcases update_congr same standing with
      ⟨one, other, taken, alsoTaken, still⟩ | ⟨error, refused, alsoRefused⟩
    · have turns := turn_congr
        (ranked_congr (leftUnique.update taken) (rightUnique.update alsoTaken) still) standing
      rw [evaluate, evaluate, taken, alsoTaken]
      exact congrArg Except.ok turns
    · rw [evaluate, evaluate, refused, alsoRefused]

-----------------------------------------------------------------------------------------
-- The four turns
-----------------------------------------------------------------------------------------

/-- The first of the ranking is inactive only when all standings are. -/
theorem head?_inactive_iff {head : Standing} (first : keeper.head? = some head)
    : head.time.isInactive = false
      ↔ ∃ standing ∈ keeper.standings, standing.time ≠ .inactive := by
  have inactive : head.time.isInactive = false ↔ head.time ≠ .inactive := by
    simp [Time.isInactive]
  rw [inactive]
  constructor
  · exact fun active => ⟨head, mem_of_head? first, active⟩
  · rintro ⟨standing, member, active⟩ ended
    have late : head.time ≤ standing.time := head?_time_le first member
    rw [ended] at late
    exact active (le_antisymm (Time.le_inactive _) late)

/-- A receiver has to wait when some other one is earlier. -/
theorem turn_eq_wait_iff {standing : Standing}
    : keeper.turn standing = .wait
      ↔ (∃ other ∈ keeper.standings, other.time ≠ .inactive)
        ∧ ∃ other ∈ keeper.standings, other.time < standing.time := by
  unfold turn
  split
  case h_1 none =>
      rw [head?_eq_none_iff.mp none]
      simp
  case h_2 head first =>
      have earlier : head.time < standing.time
          ↔ ∃ other ∈ keeper.standings, other.time < standing.time := by
        constructor
        · exact fun before => ⟨head, mem_of_head? first, before⟩
        · rintro ⟨other, member, before⟩
          exact lt_of_le_of_lt (head?_time_le first member) before
      rw [← head?_inactive_iff first, ← earlier]
      cases head.time.isInactive with
      | true => simp
      | false =>
          simp only [Bool.false_eq_true, if_false, true_and]
          split
          case isTrue before => simp [before]
          case isFalse notBefore => split <;> simp [notBefore]

/-- A receiver loses a tie when it is not late and some other one ranks before it. -/
theorem turn_eq_yield_iff (unique : keeper.Unique) {standing : Standing}
    (known : keeper.find? standing.receiver = some standing)
    : keeper.turn standing = .yield
      ↔ (∃ other ∈ keeper.standings, other.time ≠ .inactive)
        ∧ (∀ other ∈ keeper.standings, standing.time ≤ other.time)
        ∧ ∃ other ∈ keeper.standings, other.rank standing = .lt := by
  have member : standing ∈ keeper.standings := mem_of_find? known
  cases first : keeper.head? with
  | none =>
      rw [head?_eq_none_iff.mp first] at member
      cases member
  | some head =>
      have headMember := mem_of_head? first
      have late : ¬ head.time < standing.time
          ↔ ∀ other ∈ keeper.standings, standing.time ≤ other.time := by
        rw [not_lt]
        exact ⟨fun bound other held => bound.trans (head?_time_le first held),
          fun bounds => bounds head headMember⟩
      have ahead : head.receiver ≠ standing.receiver
          ↔ ∃ other ∈ keeper.standings, other.rank standing = .lt := by
        constructor
        · intro differ
          exact ⟨head, headMember,
            (Standing.rank_connected differ).resolve_right (rank_head? first member)⟩
        · rintro ⟨other, held, before⟩ same
          rw [← unique.eq_of_receiver headMember member same] at before
          exact rank_head? first held before
      rw [← head?_inactive_iff first, ← late, ← ahead]
      simp only [turn, first]
      cases head.time.isInactive with
      | true => simp
      | false =>
          simp only [Bool.false_eq_true, if_false, true_and]
          split
          case isTrue before => simp [before]
          case isFalse notBefore => split <;> simp_all

/-- A receiver has the turn just when it ranks before all others and somebody is active. -/
theorem turn_eq_ready_iff (unique : keeper.Unique) {standing : Standing}
    (known : keeper.find? standing.receiver = some standing)
    : keeper.turn standing = .ready
      ↔ (∃ other ∈ keeper.standings, other.time ≠ .inactive)
        ∧ ∀ other ∈ keeper.standings,
            other.receiver ≠ standing.receiver → standing.rank other = .lt := by
  have member : standing ∈ keeper.standings := mem_of_find? known
  constructor
  · intro ready
    obtain ⟨active, before⟩ := turn_ready unique known ready
    exact ⟨⟨standing, member, active⟩, before⟩
  · rintro ⟨⟨other, held, active⟩, before⟩
    refine turn_eq_ready unique member (fun ended => active ?_) before
    by_cases same : other.receiver = standing.receiver
    · rw [unique.eq_of_receiver held member same, ended]
    · have late : standing.time ≤ other.time :=
        Standing.time_le_of_rank (before other held same)
      rw [ended] at late
      exact le_antisymm (Time.le_inactive _) late

/-- What a turn says of the standing that it was given for, among all those of the keeper. -/
structure Judged (keeper : Keeper η) (standing : Standing) (turn : Turn) : Prop where
  finished : turn = .finished ↔ ∀ other ∈ keeper.standings, other.time = .inactive
  wait : turn = .wait
    ↔ (∃ other ∈ keeper.standings, other.time ≠ .inactive)
      ∧ ∃ other ∈ keeper.standings, other.time < standing.time
  yield : turn = .yield
    ↔ (∃ other ∈ keeper.standings, other.time ≠ .inactive)
      ∧ (∀ other ∈ keeper.standings, standing.time ≤ other.time)
      ∧ ∃ other ∈ keeper.standings, other.Ahead standing
  ready : turn = .ready
    ↔ (∃ other ∈ keeper.standings, other.time ≠ .inactive)
      ∧ ∀ other ∈ keeper.standings,
          other.receiver ≠ standing.receiver → standing.Ahead other

/-- The turn of a known standing judges it. -/
theorem judged_turn (unique : keeper.Unique) {standing : Standing}
    (known : keeper.find? standing.receiver = some standing)
    : keeper.Judged standing (keeper.turn standing) where
  finished := turn_eq_finished_iff
  wait := turn_eq_wait_iff
  yield := by simp only [turn_eq_yield_iff unique known, Standing.rank_eq_lt_iff_ahead]
  ready := by simp only [turn_eq_ready_iff unique known, Standing.rank_eq_lt_iff_ahead]

/-- What is judged is stored, and judged among all that is stored then. -/
theorem judged_evaluate (unique : keeper.Unique) {standing : Standing} {turn : Turn}
    {after : Keeper η} (judged : keeper.evaluate standing = .ok (turn, after))
    : (∀ receiver,
        after.find? receiver
        = if receiver = standing.receiver then some standing else keeper.find? receiver)
      ∧ after.Judged standing turn := by
  obtain ⟨updated, taken, same, rfl⟩ := evaluate_eq_ok judged
  have found (receiver : ReceiverId) : after.find? receiver = updated.find? receiver := by
    rw [find?, find?, same]
  have known : updated.find? standing.receiver = some standing := by
    rw [find?_update taken, if_pos rfl]
  have turned := judged_turn (unique.update taken) known
  refine ⟨fun receiver => (found receiver).trans (find?_update taken receiver), ?_⟩
  constructor
  · rw [same]
    exact turned.finished
  · rw [same]
    exact turned.wait
  · rw [same]
    exact turned.yield
  · rw [same]
    exact turned.ready

-----------------------------------------------------------------------------------------
-- The one that has the turn
-----------------------------------------------------------------------------------------

/-- A stored standing that is judged again gets the turn that it has. -/
theorem evaluate_stored (unique : keeper.Unique) {standing : Standing}
    (member : standing ∈ keeper.standings)
    : ∃ after, keeper.evaluate standing = .ok (keeper.turn standing, after) := by
  have known := find?_of_mem unique member
  obtain ⟨updated, taken⟩ := update_isOk_iff.mpr fun other found => by
    rw [known] at found
    exact (congrArg Standing.time (Option.some.inj found)).ge
  have same (receiver : ReceiverId) : updated.find? receiver = keeper.find? receiver := by
    rw [find?_update taken]
    split
    case isTrue own => rw [own, known]
    case isFalse => rfl
  have turned := turn_congr (ranked_congr (unique.update taken) unique same) standing
  rw [evaluate, taken, ← turned]
  exact ⟨_, rfl⟩

/-- While somebody is active, the first of the ranking has the turn and nobody else. -/
theorem turn_eq_ready_iff_head (unique : keeper.Unique) {head standing : Standing}
    (first : keeper.head? = some head)
    (active : ∃ other ∈ keeper.standings, other.time ≠ .inactive)
    (member : standing ∈ keeper.standings)
    : keeper.turn standing = .ready ↔ standing = head := by
  have headMember := mem_of_head? first
  rw [turn_eq_ready_iff unique (find?_of_mem unique member)]
  constructor
  · rintro ⟨-, before⟩
    by_contra differ
    have other : head.receiver ≠ standing.receiver := fun same =>
      differ (unique.eq_of_receiver member headMember same.symm)
    exact rank_head? first member (before head headMember other)
  · rintro rfl
    refine ⟨active, fun other held differ => ?_⟩
    exact (Standing.rank_connected (Ne.symm differ)).resolve_right (rank_head? first held)

/-- There is a single minimum just when one standing alone is not later than any other: the
second of the ranking is the earliest behind the first.
-/
theorem hasSingleMinimum_iff (unique : keeper.Unique)
    : keeper.hasSingleMinimum = true
      ↔ ∃! standing,
          standing ∈ keeper.standings
          ∧ ∀ other ∈ keeper.standings, standing.time ≤ other.time := by
  have sorted := Standing.sorted_ranked keeper.standings
  have distinct : keeper.ranked.Nodup :=
    (Standing.ranked_perm _).nodup_iff.mpr (List.Nodup.of_map _ unique)
  have members (standing : Standing)
      : standing ∈ keeper.standings ↔ standing ∈ keeper.ranked :=
    (Standing.ranked_perm _).mem_iff.symm
  simp only [members]
  change Standing.Sorted keeper.ranked at sorted
  unfold hasSingleMinimum
  generalize keeper.ranked = order at sorted distinct
  match order with
  | [] => simp [ExistsUnique]
  | [only] => simp [ExistsUnique]
  | first :: second :: rest =>
      rw [decide_eq_true_iff]
      exact sorted.first_time_lt_iff distinct

-----------------------------------------------------------------------------------------
-- Standings in whatever order
-----------------------------------------------------------------------------------------

/-- Standings of receivers that are new to the keeper are all taken up, one behind the other,
by induction on them.
-/
theorem foldlM_update {standings : List Standing}
    (fresh : ((keeper.standings ++ standings).map Standing.receiver).Nodup)
    : standings.foldlM update keeper
      = .ok { keeper with standings := keeper.standings ++ standings } := by
  induction standings generalizing keeper with
  | nil =>
      rw [List.append_nil]
      rfl
  | cons standing rest ih =>
      have unknown : keeper.find? standing.receiver = none := by
        rw [find?, List.find?_eq_none]
        intro other held same
        rw [List.map_append, List.nodup_append] at fresh
        exact fresh.2.2 _ (List.mem_map_of_mem held) _ (List.mem_map_of_mem List.mem_cons_self)
          (of_decide_eq_true same)
      have taken : keeper.update standing
          = .ok { keeper with standings := keeper.standings ++ [standing] } := by
        rw [update, unknown]
      have onward : ((keeper.standings ++ [standing] ++ rest).map Standing.receiver).Nodup := by
        rwa [List.append_assoc, List.singleton_append]
      rw [List.foldlM_cons, taken]
      refine (ih onward).trans ?_
      rw [List.append_assoc, List.singleton_append]

/-- Standings that a keeper takes up one after the other are steps. -/
theorem steps_foldlM_update {standings : List Standing}
    (taken : standings.foldlM update keeper = .ok updated)
    : Relation.ReflTransGen Step keeper updated := by
  induction standings generalizing keeper with
  | nil =>
      cases taken
      exact .refl
  | cons standing rest ih =>
      rw [List.foldlM_cons] at taken
      cases first : keeper.update standing with
      | error error =>
          rw [first] at taken
          exact nomatch taken
      | ok next =>
          rw [first] at taken
          exact .head (.update first) (ih taken)

/-- Keepers that take up the same standings of distinct receivers, in any two orders, answer
alike.
-/
theorem foldlM_update_perm (owner : ActorId) {first second : List Standing}
    (distinct : (first.map Standing.receiver).Nodup) (reordered : first.Perm second)
    : ∃ left right : Keeper η,
        first.foldlM update (new owner) = .ok left
        ∧ second.foldlM update (new owner) = .ok right
        ∧ left.Reachable
        ∧ right.Reachable
        ∧ Alike left right := by
  have alsoDistinct : (second.map Standing.receiver).Nodup :=
    (reordered.map Standing.receiver).nodup_iff.mp distinct
  have one : first.foldlM update (new owner : Keeper η)
      = .ok { new owner with standings := [] ++ first } :=
    foldlM_update distinct
  have other : second.foldlM update (new owner : Keeper η)
      = .ok { new owner with standings := [] ++ second } :=
    foldlM_update alsoDistinct
  refine ⟨_, _, one, other, ⟨owner, steps_foldlM_update one⟩,
    ⟨owner, steps_foldlM_update other⟩, ?_⟩
  exact alike_of_find? distinct alsoDistinct
    (find?_congr distinct alsoDistinct fun standing => reordered.mem_iff)

-----------------------------------------------------------------------------------------
-- One receiver at a time
-----------------------------------------------------------------------------------------

/-- A keeper grants the turn to exactly one receiver, whatever was done with it before. It
knows one standing of each receiver. A standing that it judges takes the place of the
receiver's earlier one, and the turn says how it stands among all. Unless all are inactive,
just one of the stored standings has the turn, that of the receiver that the keeper names as
the highest. There is a single minimum when just one standing is not later than any other. All
answers are those of every other keeper with the same standings, so standings of distinct
receivers may be taken up in any order.
-/
theorem turn_goes_to_one_receiver (reachable : keeper.Reachable)
    : (keeper.standings.map Standing.receiver).Nodup
      ∧ (∀ standing turn after, keeper.evaluate standing = .ok (turn, after)
          → (∀ receiver,
              after.find? receiver
              = if receiver = standing.receiver then some standing
                else keeper.find? receiver)
            ∧ after.Judged standing turn)
      ∧ ((∃ standing ∈ keeper.standings, standing.time ≠ .inactive)
          → ∃ first ∈ keeper.standings,
              keeper.highest? = some first.receiver
              ∧ ∀ standing ∈ keeper.standings,
                  (∃ after, keeper.evaluate standing = .ok (.ready, after))
                  ↔ standing = first)
      ∧ (keeper.hasSingleMinimum = true
          ↔ ∃! standing,
              standing ∈ keeper.standings
              ∧ ∀ other ∈ keeper.standings, standing.time ≤ other.time)
      ∧ (∀ other : Keeper η, other.Reachable
          → (∀ standing, standing ∈ keeper.standings ↔ standing ∈ other.standings)
          → Alike keeper other)
      ∧ ∀ (owner : ActorId) (first second : List Standing),
          (first.map Standing.receiver).Nodup
          → first.Perm second
          → ∃ left right : Keeper η,
              first.foldlM update (new owner) = .ok left
              ∧ second.foldlM update (new owner) = .ok right
              ∧ left.Reachable
              ∧ right.Reachable
              ∧ Alike left right := by
  have unique := reachable.unique
  refine ⟨unique, fun _ _ _ => judged_evaluate unique, ?_, hasSingleMinimum_iff unique, ?_,
    fun owner _ _ => foldlM_update_perm owner⟩
  · rintro ⟨active, held, started⟩
    cases first : keeper.head? with
    | none =>
        rw [head?_eq_none_iff.mp first] at held
        cases held
    | some head =>
        refine ⟨head, mem_of_head? first, ?_, fun standing member => ?_⟩
        · rw [highest?, first, Option.map_some]
        · rw [← turn_eq_ready_iff_head unique first ⟨active, held, started⟩ member]
          obtain ⟨after, judged⟩ := evaluate_stored unique member
          rw [judged]
          simp
  · intro other alsoReachable same
    exact alike_of_find? unique alsoReachable.unique
      (find?_congr unique alsoReachable.unique same)

/-- A keeper with two receivers that are tied at zero, and one that is over. -/
def tied : Keeper Nat :=
  { new ⟨0⟩ with
    standings :=
      [⟨⟨1⟩, .zero, 5, false⟩, ⟨⟨3⟩, .inactive, 9, false⟩,
        ⟨⟨2⟩, .zero, 10, false⟩] }

/-- The tie goes to the higher priority, though that receiver was taken up last. The other one
yields, and nobody else has the turn.
-/
theorem tied_turn_goes_to_the_higher_priority
    : tied.Reachable
      ∧ (∃ standing ∈ tied.standings, standing.time ≠ .inactive)
      ∧ tied.highest? = some ⟨2⟩
      ∧ (∃ first ∈ tied.standings,
          ∀ standing ∈ tied.standings,
            (∃ after, tied.evaluate standing = .ok (.ready, after)) ↔ standing = first)
      ∧ ∃ after,
          tied.evaluate ⟨⟨1⟩, .zero, 5, false⟩ = .ok (.yield, after)
          ∧ after.Judged ⟨⟨1⟩, .zero, 5, false⟩ .yield := by
  have taken : tied.standings.foldlM update (new ⟨0⟩) = .ok tied := rfl
  have reachable : tied.Reachable := ⟨⟨0⟩, steps_foldlM_update taken⟩
  have active : ∃ standing ∈ tied.standings, standing.time ≠ .inactive := by decide
  obtain ⟨-, judging, granting, -⟩ := turn_goes_to_one_receiver reachable
  obtain ⟨first, held, -, alone⟩ := granting active
  obtain ⟨after, judged⟩ : ∃ after,
      tied.evaluate ⟨⟨1⟩, .zero, 5, false⟩ = .ok (.yield, after) := ⟨_, rfl⟩
  exact ⟨reachable, active, by decide, ⟨first, held, alone⟩,
    after, judged, (judging _ _ _ judged).2⟩

end Keeper
end TimedDataflow
