import Mathlib.Data.Set.List
import TimedDataflow.Trace.Cursor
import TimedDataflow.Proofs.Trace.Payloads

/-! Cursors on any bytes, also on such as no payload has. A cursor reads what is left of its
bytes, whether its position stands in front of a field or inside of one that could not be
read, and it never leaves them.
-/

namespace TimedDataflow.Trace

-----------------------------------------------------------------------------------------
-- The bytes that are left
-----------------------------------------------------------------------------------------

/-- A look ahead finds the first of the bytes that are left, if there are so many. -/
theorem between?_ahead {bytes : List UInt8} {start : Nat} (width : Nat)
    (inside : start ≤ bytes.length)
    : between? bytes start (start + width)
      = if width ≤ (bytes.drop start).length then some ((bytes.drop start).take width)
        else none := by
  have ahead : bytes.extract start (start + width) = (bytes.drop start).take width := by
    rw [List.extract_eq_take_drop, Nat.add_sub_cancel_left]
  have enough : start ≤ start + width ∧ start + width ≤ bytes.length
      ↔ width ≤ (bytes.drop start).length := by
    rw [List.length_drop]
    omega
  simp only [between?, ahead, enough]

namespace Field

/-- A text is cut off where the first zero is found, by induction on the bytes. -/
theorem cutAtNul_eq (bytes : List UInt8)
    : cutAtNul bytes
      = (bytes.findIdx? (· = 0)).map fun stop => (bytes.take stop, bytes.drop (stop + 1)) := by
  induction bytes with
  | nil => rfl
  | cons byte rest ih =>
      by_cases zero : byte = 0
      · simp [cutAtNul, List.findIdx?_cons, zero]
      · simp [cutAtNul, List.findIdx?_cons, zero, ih, Function.comp_def]

/-- A value is read as its layout says. -/
theorem readValue_eq (format : UInt8) (bytes : List UInt8)
    : readValue format bytes
      = match Layout.ofFormat? format with
        | some (.fixed width make) => readFixed width make bytes
        | some .text => readText bytes
        | none => (.error .unknownFormat, bytes) := by
  unfold readValue Layout.ofFormat?
  split <;> simp only [*]

-----------------------------------------------------------------------------------------
-- Fields that a walk comes upon
-----------------------------------------------------------------------------------------

/-- What is wrong with the first field is wrong with them all. -/
theorem readAll_of_failed {bytes rest : List UInt8} {malformation : Malformation}
    (step : next? bytes = some (.error malformation, rest))
    : readAll bytes = .error malformation := by
  rw [readAll]
  split
  · rename_i none
    cases step.symm.trans none
  · rename_i failed
    cases step.symm.trans failed
    rfl
  · rename_i found
    cases step.symm.trans found

/-- Nothing is left to read only where there is no byte. -/
theorem eq_nil_of_next? {bytes : List UInt8} (ended : next? bytes = none) : bytes = [] := by
  cases bytes with
  | nil => rfl
  | cons format rest => cases ended

/-- All fields are read just when a walk over the bytes comes upon them and nothing else, by
induction on the walk.
-/
theorem readAll_eq_ok_iff {bytes : List UInt8} {fields : List Field}
    : readAll bytes = .ok fields ↔ walk bytes = fields.map .ok := by
  fun_induction walk bytes generalizing fields with
  | case1 bytes ended =>
      obtain rfl := eq_nil_of_next? ended
      rw [readAll_nil, Except.ok.injEq, List.nil_eq, List.nil_eq, List.map_eq_nil_iff]
  | case2 bytes result rest step ih =>
      cases result with
      | error malformation =>
          rw [readAll_of_failed step]
          cases fields <;> simp
      | ok field =>
          rw [readAll_of_next? step]
          cases fields with
          | nil => cases readAll rest <;> simp [Except.map]
          | cons first others =>
              rw [List.map_cons, List.cons.injEq, ← ih]
              cases readAll rest <;> simp [Except.map]

/-- Results are those of fields just when none of them is a failure. -/
theorem exists_eq_map_ok_iff (results : List (Except Malformation Field))
    : (∃ fields : List Field, results = fields.map .ok)
      ↔ ∀ malformation, .error malformation ∉ results := by
  have listed : results ∈ Set.range (List.map Except.ok)
      ↔ ∀ result ∈ results, result ∈ Set.range Except.ok := by
    rw [Set.range_list_map]
    rfl
  simp only [Set.mem_range, eq_comm (b := results)] at listed
  rw [listed]
  constructor
  · intro each malformation held
    obtain ⟨field, same⟩ := each _ held
    cases same
  · intro none result held
    cases result with
    | error malformation => exact absurd held (none malformation)
    | ok field => exact ⟨field, rfl⟩

end Field

namespace Cursor

/-- The bytes that were not read. -/
def unread (cursor : Cursor) : List UInt8 := cursor.bytes.drop cursor.position

@[simp]
theorem unread_skip (cursor : Cursor) (count : Nat)
    : (cursor.skip count).unread = cursor.unread.drop count := by
  simp [unread, List.drop_drop]

@[simp]
theorem length_unread (cursor : Cursor)
    : cursor.unread.length = cursor.bytes.length - cursor.position := List.length_drop

variable {cursor after : Cursor} {answer : Answer}

-----------------------------------------------------------------------------------------
-- One value
-----------------------------------------------------------------------------------------

/-- A cursor comes to what is read from the bytes that it left unread. It ends up in front of
those that are left then, and where it was if nothing could be read.
-/
structure Follows (cursor : Cursor) (read : Except Malformation Field × List UInt8)
    (outcome : Answer × Cursor)
    : Prop where
  answered : outcome.1 = read.1.map some
  left : outcome.2.unread = read.2
  kept : outcome.2.bytes = cursor.bytes
  onward : cursor.position ≤ outcome.2.position
  inside : outcome.2.position ≤ cursor.bytes.length
  failed : ∀ malformation, read.1 = .error malformation → outcome.2 = cursor

/-- Where nothing can be read, a cursor stays. -/
theorem Follows.stay (inside : cursor.position ≤ cursor.bytes.length)
    (malformation : Malformation)
    : cursor.Follows (.error malformation, cursor.unread) (.error malformation, cursor) where
  answered := rfl
  left := rfl
  kept := rfl
  onward := Nat.le_refl _
  inside := inside
  failed _ _ := rfl

/-- Where there are bytes enough for a field, a cursor goes behind it. -/
theorem Follows.skip {count : Nat} (enough : count ≤ cursor.unread.length) (field : Field)
    (inside : cursor.position ≤ cursor.bytes.length)
    : cursor.Follows (.ok field, cursor.unread.drop count)
        (.ok (some field), cursor.skip count) where
  answered := rfl
  left := cursor.unread_skip count
  kept := rfl
  onward := Nat.le_add_right _ _
  inside := by
    rw [length_unread] at enough
    rw [position_skip]
    omega
  failed _ same := nomatch same

/-- A value of fixed width is taken as it is read. -/
theorem takeFixed_follows (inside : cursor.position ≤ cursor.bytes.length) (width : Nat)
    (make : Nat → Field)
    : cursor.Follows (Field.readFixed width make cursor.unread)
        (cursor.takeFixed width make) := by
  have ahead := between?_ahead width inside
  rw [← unread] at ahead
  rw [takeFixed, Field.readFixed, ahead, List.length_take]
  by_cases enough : width ≤ cursor.unread.length
  · rw [if_pos enough, if_pos (Nat.min_eq_left enough)]
    exact Follows.skip enough _ inside
  · rw [if_neg enough, if_neg fun short => enough (by omega)]
    exact Follows.stay inside _

/-- A text is taken as it is read, and no look on the way is outside of the bytes. -/
theorem takeText?_follows (inside : cursor.position ≤ cursor.bytes.length)
    : ∃ outcome,
        cursor.takeText? = some outcome
        ∧ cursor.Follows (Field.readText cursor.unread) outcome := by
  have whole : between? cursor.bytes cursor.position cursor.bytes.length
      = some cursor.unread := by
    have ahead := between?_ahead (cursor.bytes.length - cursor.position) inside
    rw [Nat.add_sub_cancel' inside, ← unread, ← length_unread, if_pos (Nat.le_refl _),
      List.take_length] at ahead
    exact ahead
  rw [takeText?, whole, Field.readText, Field.cutAtNul_eq]
  simp only [Option.bind_some]
  cases found : cursor.unread.findIdx? (· = 0) with
  | none => exact ⟨_, rfl, Follows.stay inside _⟩
  | some stop =>
      have enough : stop < cursor.unread.length := (List.findIdx?_eq_some_iff_getElem.mp found).1
      have text : between? cursor.unread 0 stop = some (cursor.unread.take stop) := by
        have ahead := between?_ahead stop (Nat.zero_le cursor.unread.length)
        rwa [Nat.zero_add, List.drop_zero, if_pos enough.le] at ahead
      simp only [text, Option.map_some]
      exact ⟨_, rfl, Follows.skip enough _ inside⟩

/-- A value is taken as it is read, by cases of its layout. -/
theorem takeValue?_follows (inside : cursor.position ≤ cursor.bytes.length) (format : UInt8)
    : ∃ outcome,
        cursor.takeValue? format = some outcome
        ∧ cursor.Follows (Field.readValue format cursor.unread) outcome := by
  rw [takeValue?, Field.readValue_eq]
  rcases Layout.ofFormat? format with _ | ⟨width, make⟩ | _
  · exact ⟨_, rfl, Follows.stay inside _⟩
  · exact ⟨_, rfl, takeFixed_follows inside width make⟩
  · exact takeText?_follows inside

-----------------------------------------------------------------------------------------
-- One call
-----------------------------------------------------------------------------------------

/-- What a call does to a cursor inside of its bytes: at their end nothing, and otherwise it
answers as a field is read from those that are left.
-/
inductive Step (cursor : Cursor) : Answer → Cursor → Prop
  | ended (nothing : Field.next? cursor.unread = none)
    (here : cursor.position = cursor.bytes.length)
    : cursor.Step (.ok none) cursor
  | read {result : Except Malformation Field} {after : Cursor}
    (found : Field.next? cursor.unread = some (result, after.unread))
    (kept : after.bytes = cursor.bytes) (onward : cursor.position < after.position)
    (inside : after.position ≤ cursor.bytes.length)
    (failed : ∀ malformation, result = .error malformation → after = cursor.skip 1)
    : cursor.Step (result.map some) after

/-- Inside of its bytes, a cursor has an answer to each call. -/
theorem next?_step (inside : cursor.position ≤ cursor.bytes.length)
    : ∃ answer after, cursor.next? = some (answer, after) ∧ cursor.Step answer after := by
  rw [next?]
  cases found : cursor.bytes[cursor.position]? with
  | none =>
      have beyond := List.getElem?_eq_none_iff.mp found
      have nothing : cursor.unread = [] := List.drop_eq_nil_of_le beyond
      exact ⟨_, _, rfl, .ended (nothing ▸ rfl) (Nat.le_antisymm inside beyond)⟩
  | some format =>
      obtain ⟨before, held⟩ := List.getElem?_eq_some_iff.mp found
      have first : cursor.unread = format :: (cursor.skip 1).unread := by
        rw [unread, List.drop_eq_getElem_cons before, held]
        rfl
      have behind : (cursor.skip 1).position ≤ (cursor.skip 1).bytes.length := before
      obtain ⟨⟨answer, after⟩, taken, follows⟩ := takeValue?_follows behind format
      refine ⟨answer, after, taken, ?_⟩
      have answered : answer = _ := follows.answered
      rw [answered]
      refine .read ?_ follows.kept follows.onward follows.inside follows.failed
      rw [first, Field.next?]
      exact congrArg some (Prod.ext rfl follows.left.symm)

/-- What a call does, as far as the position goes. -/
structure Advances (cursor : Cursor) (answer : Answer) (after : Cursor) : Prop where
  /-- The bytes stay what they are. -/
  kept : after.bytes = cursor.bytes
  /-- The position never gets behind their end. -/
  inside : after.position ≤ cursor.bytes.length
  /-- The end is told there and nowhere else. -/
  ended : answer = .ok none ↔ cursor.position = cursor.bytes.length
  /-- Any other answer uses up bytes. -/
  onward : answer ≠ .ok none → cursor.position < after.position
  /-- Whatever is wrong with a field, its format byte alone is used up. -/
  failed : ∀ malformation, answer = .error malformation → after = cursor.skip 1

/-- What becomes of a field is not the end. -/
theorem map_some_ne_end (result : Except Malformation Field) : result.map some ≠ .ok none := by
  cases result <;> simp [Except.map]

/-- Each step is one onwards, or the end. -/
theorem Step.advances (step : cursor.Step answer after) : cursor.Advances answer after := by
  cases step with
  | ended _ here =>
      exact ⟨rfl, here.le, iff_of_true rfl here, fun other => absurd rfl other, nofun⟩
  | @read result _ found kept onward inside failed =>
      refine ⟨kept, inside, ?_, fun _ => onward, fun malformation same => ?_⟩
      · exact iff_of_false (map_some_ne_end _) (by omega)
      · cases result with
        | error other => exact failed other rfl
        | ok field => cases same

-----------------------------------------------------------------------------------------
-- Any number of calls
-----------------------------------------------------------------------------------------

/-- The answers to some calls, one after the other, whatever is wrong with a field, and the
cursor then.
-/
def calls? (cursor : Cursor) : Nat → Option (List Answer × Cursor)
  | 0 => some ([], cursor)
  | count + 1 =>
      cursor.next?.bind fun (answer, after) =>
        (after.calls? count).map fun (answers, last) => (answer :: answers, last)

/-- One call and then others. -/
theorem calls?_succ {count : Nat} (call : cursor.next? = some (answer, after))
    : cursor.calls? (count + 1)
      = (after.calls? count).map fun (answers, last) => (answer :: answers, last) := by
  rw [calls?, call]
  rfl

/-- All calls are answered inside of the bytes, by induction on their number. Until the end is
told, the position goes up with each of them.
-/
theorem calls?_inside (count : Nat) (inside : cursor.position ≤ cursor.bytes.length)
    : ∃ answers last,
        cursor.calls? count = some (answers, last)
        ∧ last.bytes = cursor.bytes
        ∧ last.position ≤ cursor.bytes.length
        ∧ (.ok none ∈ answers ∨ cursor.position + count ≤ last.position) := by
  induction count generalizing cursor with
  | zero => exact ⟨[], cursor, rfl, rfl, inside, .inr (Nat.le_refl _)⟩
  | succ count ih =>
      obtain ⟨answer, after, call, does⟩ := next?_step inside
      have advances := does.advances
      obtain ⟨answers, last, others, kept, bound, told⟩ :=
        ih (advances.kept ▸ advances.inside)
      rw [advances.kept] at kept bound
      refine ⟨answer :: answers, last, ?_, kept, bound, ?_⟩
      · rw [calls?_succ call, others]
        rfl
      · by_cases ended : answer = .ok none
        · exact .inl (ended ▸ List.mem_cons_self)
        · have onward := advances.onward ended
          rcases told with before | before
          · exact .inl (List.mem_cons_of_mem _ before)
          · exact .inr (by omega)

-----------------------------------------------------------------------------------------
-- The whole walk
-----------------------------------------------------------------------------------------

/-- Where nothing is left to read, the end is told. -/
theorem next?_of_none (inside : cursor.position ≤ cursor.bytes.length)
    (nothing : Field.next? cursor.unread = none)
    : cursor.next? = some (.ok none, cursor) ∧ cursor.position = cursor.bytes.length := by
  obtain ⟨answer, after, call, does⟩ := next?_step inside
  cases does with
  | ended _ here => exact ⟨call, here⟩
  | read found => cases nothing.symm.trans found

/-- Where a field is left to read, what becomes of it is told, and the cursor gets behind it. -/
theorem next?_of_some {result : Except Malformation Field} {rest : List UInt8}
    (inside : cursor.position ≤ cursor.bytes.length)
    (step : Field.next? cursor.unread = some (result, rest))
    : ∃ after,
        cursor.next? = some (result.map some, after)
        ∧ after.unread = rest
        ∧ after.bytes = cursor.bytes
        ∧ cursor.position < after.position
        ∧ after.position ≤ cursor.bytes.length := by
  obtain ⟨answer, after, call, does⟩ := next?_step inside
  cases does with
  | ended nothing => cases nothing.symm.trans step
  | read found kept onward bound =>
      cases step.symm.trans found
      exact ⟨after, call, rfl, kept, onward, bound⟩

/-- Calls come upon what a walk over the unread bytes does, one result after the other, and
then upon the end, by induction on the walk.
-/
theorem calls?_walk (inside : cursor.position ≤ cursor.bytes.length)
    : cursor.calls? ((Field.walk cursor.unread).length + 1)
        = some ((Field.walk cursor.unread).map (·.map some) ++ [.ok none],
          ⟨cursor.bytes, cursor.bytes.length⟩)
      ∧ cursor.position + (Field.walk cursor.unread).length ≤ cursor.bytes.length := by
  generalize left : cursor.unread = bytes
  fun_induction Field.walk bytes generalizing cursor with
  | case1 bytes nothing =>
      obtain ⟨call, here⟩ := next?_of_none inside (left ▸ nothing)
      rw [List.length_nil, calls?_succ call, ← here]
      exact ⟨rfl, Nat.le_refl _⟩
  | case2 bytes result rest step ih =>
      obtain ⟨after, call, behind, kept, onward, bound⟩ := next?_of_some inside (left ▸ step)
      obtain ⟨others, bounded⟩ := ih (kept ▸ bound) behind
      rw [kept] at others bounded
      rw [List.length_cons, calls?_succ call, others]
      exact ⟨rfl, by omega⟩

/-- How all fields are taken depends on what is answered first. -/
theorem fields?_of_next? (call : cursor.next? = some (answer, after))
    : cursor.fields?
      = match answer with
        | .error malformation => some (.error malformation)
        | .ok none => some (.ok [])
        | .ok (some field) => after.fields?.map fun rest => rest.map (field :: ·) := by
  rw [fields?]
  split <;> rename_i found <;> cases call.symm.trans found <;> rfl

/-- All fields are taken as they are read from the unread bytes, by induction on the reading. -/
theorem fields?_eq (inside : cursor.position ≤ cursor.bytes.length)
    : cursor.fields? = some (Field.readAll cursor.unread) := by
  generalize left : cursor.unread = bytes
  fun_induction Field.readAll bytes generalizing cursor with
  | case1 bytes nothing => exact fields?_of_next? (next?_of_none inside (left ▸ nothing)).1
  | case2 bytes malformation rest step =>
      obtain ⟨after, call, -⟩ := next?_of_some inside (left ▸ step)
      exact fields?_of_next? call
  | case3 bytes field rest step ih =>
      obtain ⟨after, call, behind, kept, -, bound⟩ := next?_of_some inside (left ▸ step)
      have others := ih (kept ▸ bound) behind
      have parted : cursor.fields? = after.fields?.map fun rest => rest.map (field :: ·) :=
        fields?_of_next? call
      rw [parted, others, Option.map_some]

/-- What becomes of a cursor that is called until the end, or asked for all fields at once. -/
structure RunsOut (cursor : Cursor) : Prop where
  /-- The calls come upon the results of a walk over the unread bytes, and then tell the end. -/
  reached
    : cursor.calls? ((Field.walk cursor.unread).length + 1)
      = some ((Field.walk cursor.unread).map (·.map some) ++ [.ok none],
        ⟨cursor.bytes, cursor.bytes.length⟩)
  /-- There are no more results than bytes left. -/
  bounded : cursor.position + (Field.walk cursor.unread).length ≤ cursor.bytes.length
  /-- All fields at once are what is read from the unread bytes. -/
  answered : cursor.fields? = some (Field.readAll cursor.unread)
  /-- They are these just when the walk comes upon them, one after the other, and nothing else. -/
  fields
    : ∀ fields,
        cursor.fields? = some (.ok fields) ↔ Field.walk cursor.unread = fields.map .ok
  /-- They are there just when no call up to the end fails. -/
  succeeds
    : (∃ fields, cursor.fields? = some (.ok fields))
      ↔ ∀ malformation, .error malformation ∉ Field.walk cursor.unread

/-- A cursor inside of its bytes comes to their end. -/
theorem runsOut (inside : cursor.position ≤ cursor.bytes.length) : cursor.RunsOut := by
  have answered := fields?_eq inside
  have fields (fields : List Field)
      : cursor.fields? = some (.ok fields) ↔ Field.walk cursor.unread = fields.map .ok := by
    rw [answered, Option.some_inj, Field.readAll_eq_ok_iff]
  obtain ⟨reached, bounded⟩ := calls?_walk inside
  refine ⟨reached, bounded, answered, fields, ?_⟩
  simp only [fields]
  exact Field.exists_eq_map_ok_iff _

-----------------------------------------------------------------------------------------
-- Any bytes
-----------------------------------------------------------------------------------------

/-- Whatever its bytes are, a new cursor answers any number of calls, each from where the one
before left it, whether that one failed or not: no look is outside of the bytes, and the
position never gets behind their end. The next call gets onwards unless it tells the end, which
it does just at the end of the bytes, and a call that fails uses up the format byte alone. The
end is told by one call more than there are bytes, if not before. All fields that are left are
given just when no call up to the end fails, and they are those that the calls come upon.
-/
theorem reads_on_to_the_end (bytes : List UInt8) (count : Nat)
    : ∃ answers cursor,
        (new bytes).calls? count = some (answers, cursor)
        ∧ cursor.bytes = bytes
        ∧ cursor.position ≤ bytes.length
        ∧ (bytes.length < count → .ok none ∈ answers)
        ∧ (∃ answer after, cursor.next? = some (answer, after) ∧ cursor.Advances answer after)
        ∧ cursor.RunsOut := by
  have start : (new bytes).position ≤ (new bytes).bytes.length := Nat.zero_le _
  obtain ⟨answers, cursor, made, kept, inside, told⟩ := calls?_inside count start
  have within : cursor.position ≤ cursor.bytes.length := kept ▸ inside
  obtain ⟨answer, after, call, does⟩ := next?_step within
  have ended (enough : bytes.length < count) : .ok none ∈ answers := by
    refine told.resolve_right fun before => ?_
    have each : count ≤ cursor.position := Nat.zero_add count ▸ before
    exact absurd (each.trans inside) (Nat.not_le.mpr enough)
  exact ⟨answers, cursor, made, kept, inside, ended, ⟨answer, after, call, does.advances⟩,
    runsOut within⟩

/-- A number that is cut off is given up behind its format byte, and the next call reads on inside
of it.
-/
example
    : (new [0x05, 1, 2]).calls? 4
      = some ([.error .truncatedField, .ok (some (.u8 2)), .ok none, .ok none],
        ⟨[0x05, 1, 2], 3⟩) := by
  rfl

end Cursor
end TimedDataflow.Trace
