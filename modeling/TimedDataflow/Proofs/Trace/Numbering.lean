import Mathlib.Data.List.Forall2
import Mathlib.Data.List.Induction
import TimedDataflow.Trace.Tracer
import TimedDataflow.Proofs.Trace.Frames

/-! Calls on a tracer, one after another. Each call whose payload is not too long takes the next
number and hands the backend one frame, whether that is written or not. What a memory keeps is
read back as the records of the calls that succeeded.
-/

namespace TimedDataflow.Trace

variable {β : Type}

-----------------------------------------------------------------------------------------
-- Calls
-----------------------------------------------------------------------------------------

/-- The ways to a tracer. Its handles ask for a record with or without a time stamp, its hooks for
either. A handle, its clones and the hooks that are made from them all lead to the same tracer.
-/
inductive Route where
  | emit
  | emitWithTimestamp
  | hook (stamped : Bool)
deriving DecidableEq

/-- Whether a time stamp is asked for. -/
def Route.stamped : Route → Bool
  | emit => false
  | emitWithTimestamp => true
  | hook stamped => stamped

/-- What is told of a record: a hook keeps it to itself. -/
def Route.tell (route : Route) (record : Record) : Option Record :=
  match route with
  | hook _ => none
  | _ => some record

/-- One call, so long after the tracer was made. -/
structure Call where
  route : Route
  kind : UInt8
  payload : List UInt8
  now : Elapsed
deriving DecidableEq

namespace TracerSettings

/-- Whether the record of a call carries a time stamp. -/
def stamps (settings : TracerSettings) (call : Call) : Bool :=
  settings.timestamps && call.route.stamped

/-- The calls whose payload is not too long. -/
def attempts (settings : TracerSettings) (calls : List Call) : List Call :=
  calls.filter fun call => call.payload.length ≤ settings.maxPayload

/-- The record of a call under a number. -/
def record (settings : TracerSettings) (number : Nat) (call : Call) : Record where
  seq := .ofNat number
  kind := call.kind
  timestamp := if settings.stamps call then some call.now else none
  payload := call.payload

/-- Those calls with their numbers, from one. -/
def numbered (settings : TracerSettings) (calls : List Call) : List (Call × Nat) :=
  (settings.attempts calls).zipIdx 1

/-- Their records. -/
def records (settings : TracerSettings) (calls : List Call) : List Record :=
  (settings.numbered calls).map fun (call, number) => settings.record number call

/-- A call more is numbered behind the others, if its payload is not too long. -/
theorem numbered_concat (settings : TracerSettings) (calls : List Call) (call : Call)
    : settings.numbered (calls ++ [call])
      = settings.numbered calls
        ++ if call.payload.length ≤ settings.maxPayload then
            [(call, (settings.attempts calls).length + 1)]
          else [] := by
  by_cases fits : call.payload.length ≤ settings.maxPayload <;>
    simp [numbered, attempts, fits, List.zipIdx_append, Nat.add_comm]

/-- Each stands in the place of its number. -/
theorem number_of_numbered {settings : TracerSettings} {calls : List Call} {index : Nat}
    {entry : Call × Nat} (held : (settings.numbered calls)[index]? = some entry)
    : entry.2 = index + 1 := by
  rw [numbered, List.getElem?_zipIdx] at held
  obtain ⟨call, -, rfl⟩ := Option.map_eq_some_iff.mp held
  exact Nat.add_comm 1 index

end TracerSettings

namespace Tracer

/-- The record that is written for a call, or what is wrong. -/
def attempt (write : Backend β) (tracer : Tracer β) (call : Call)
    : Except TraceError Record × Tracer β :=
  tracer.record write call.kind call.payload call.route.stamped call.now

/-- Carries out a call. -/
def serve (write : Backend β) (tracer : Tracer β) (call : Call)
    : Except TraceError (Option Record) × Tracer β :=
  let (result, after) := tracer.attempt write call
  (result.map call.route.tell, after)

/-- The tracer after some calls. -/
def after (write : Backend β) (tracer : Tracer β) (calls : List Call) : Tracer β :=
  calls.foldl (fun current call => (current.serve write call).2) tracer

/-- The calls that succeed, each with the record that is written for it. -/
def written (write : Backend β) (tracer : Tracer β) : List Call → List (Call × Record)
  | [] => []
  | call :: rest =>
      match (tracer.attempt write call).1 with
      | .error _ => (tracer.serve write call).2.written write rest
      | .ok record => (call, record) :: (tracer.serve write call).2.written write rest

/-- One call more. -/
theorem after_concat (write : Backend β) (tracer : Tracer β) (calls : List Call) (call : Call)
    : tracer.after write (calls ++ [call])
      = ((tracer.after write calls).serve write call).2 := by
  rw [after, List.foldl_append]
  rfl

/-- The last call succeeds behind those that did before, by induction on the calls before. -/
theorem written_concat (write : Backend β) (tracer : Tracer β) (calls : List Call) (call : Call)
    : tracer.written write (calls ++ [call])
      = tracer.written write calls ++ (tracer.after write calls).written write [call] := by
  induction calls generalizing tracer with
  | nil => rfl
  | cons first rest ih =>
      simp only [List.cons_append, written, ih]
      cases (tracer.attempt write first).1 <;> rfl

-----------------------------------------------------------------------------------------
-- One call
-----------------------------------------------------------------------------------------

variable {write : Backend β} {tracer : Tracer β} {call : Call}

/-- A call whose payload is too long is refused, and changes nothing. -/
theorem attempt_of_long (long : tracer.settings.maxPayload < call.payload.length)
    : tracer.attempt write call = (.error (.payloadTooLarge call.payload.length), tracer) := by
  rw [attempt, record, if_pos long]

/-- Any other call takes the next number and hands one frame to the backend. It succeeds unless
the backend fails.
-/
theorem attempt_of_fits {number : Nat} (fits : call.payload.length ≤ tracer.settings.maxPayload)
    (numbered : tracer.seq = .ofNat number)
    : let record := tracer.settings.record (number + 1) call
      let outcome := write tracer.backend (Frame.encode record)
      tracer.attempt write call
        = (match outcome.2 with
            | some error => .error error
            | none => .ok record,
          ⟨tracer.settings, record.seq, outcome.1⟩) := by
  intro record outcome
  have next : tracer.seq + 1 = record.seq := by
    rw [numbered]
    exact (UInt8.ofNat_add number 1).symm
  have made
      : (⟨record.seq, call.kind,
            if tracer.settings.timestamps && call.route.stamped then some call.now else none,
            call.payload⟩ : Record)
        = record := rfl
  rw [attempt, Tracer.record, if_neg (Nat.not_lt.mpr fits)]
  simp only [next, made, outcome]
  obtain ⟨backend, failure⟩ := write tracer.backend (Frame.encode record)
  cases failure <;> rfl

/-- The caller of a payload that is too long learns how long it is. -/
theorem serve_of_long (long : tracer.settings.maxPayload < call.payload.length)
    : tracer.serve write call = (.error (.payloadTooLarge call.payload.length), tracer) := by
  rw [serve, attempt_of_long long]
  rfl

/-- The caller of an attempt learns what the backend said. -/
theorem serve_of_fits {number : Nat} (fits : call.payload.length ≤ tracer.settings.maxPayload)
    (numbered : tracer.seq = .ofNat number)
    : let record := tracer.settings.record (number + 1) call
      let outcome := write tracer.backend (Frame.encode record)
      tracer.serve write call
        = (match outcome.2 with
            | some error => .error error
            | none => .ok (call.route.tell record),
          ⟨tracer.settings, record.seq, outcome.1⟩) := by
  intro record outcome
  rw [serve, attempt_of_fits fits numbered]
  simp only [outcome]
  obtain ⟨backend, failure⟩ := write tracer.backend (Frame.encode record)
  cases failure <;> rfl

-----------------------------------------------------------------------------------------
-- Any number of calls
-----------------------------------------------------------------------------------------

/-- The backend is handed some frames, one after the other, whether it takes them or not. -/
def feed (write : Backend β) (backend : β) (frames : List (List UInt8)) : β :=
  frames.foldl (fun current frame => (write current frame).1) backend

/-- What a tracer is after any number of calls, by induction on them from the last one: it has
counted the attempts, and its backend was handed the frames of their records.
-/
theorem after_eq (settings : TracerSettings) (write : Backend β) (start : β) (calls : List Call)
    : (Tracer.new settings start).after write calls
      = ⟨settings, .ofNat (settings.attempts calls).length,
          feed write start ((settings.records calls).map Frame.encode)⟩ := by
  induction calls using List.reverseRecOn with
  | nil => rfl
  | append_singleton before call ih =>
      rw [after_concat, ih, TracerSettings.records, TracerSettings.records,
        TracerSettings.numbered_concat]
      change (attempt write _ call).2 = _
      by_cases fits : call.payload.length ≤ settings.maxPayload
      · rw [attempt_of_fits fits rfl]
        simp [TracerSettings.attempts, TracerSettings.record, feed, fits]
      · rw [attempt_of_long (Nat.not_le.mp fits)]
        simp [TracerSettings.attempts, fits]

/-- A frame of a record that is made for a call is read back as the record by whoever knows whether
it is stamped.
-/
theorem decode_record (settings : TracerSettings) (number : Nat) (call : Call)
    : Frame.decode (settings.stamps call) (Frame.encode (settings.record number call))
      = .ok (settings.record number call).received := by
  have stamped
      : (settings.record number call).timestamp.isSome = settings.stamps call := by
    unfold TracerSettings.record
    cases settings.stamps call <;> rfl
  rw [← stamped]
  exact Frame.decode_encode _

-----------------------------------------------------------------------------------------
-- Memory
-----------------------------------------------------------------------------------------

/-- A memory keeps what it is handed, by induction on the frames. -/
theorem feed_memory (memory : Memory) (frames : List (List UInt8))
    : (feed Memory.write memory frames).frames.toList = memory.frames.toList ++ frames := by
  induction frames generalizing memory with
  | nil => simp [feed]
  | cons frame rest ih =>
      change (feed Memory.write (Memory.write memory frame).1 rest).frames.toList = _
      rw [ih]
      simp [Memory.write]

/-- With a memory every attempt succeeds, by induction on the calls from the last one. -/
theorem written_memory (settings : TracerSettings) (calls : List Call)
    : (Tracer.new settings Memory.empty).written Memory.write calls
      = (settings.numbered calls).map fun (call, number) =>
          (call, settings.record number call) := by
  induction calls using List.reverseRecOn with
  | nil => rfl
  | append_singleton before call ih =>
      rw [written_concat, ih, after_eq, written, TracerSettings.numbered_concat]
      by_cases fits : call.payload.length ≤ settings.maxPayload
      · rw [attempt_of_fits fits rfl]
        simp [TracerSettings.attempts, fits, Memory.write, written]
      · rw [attempt_of_long (Nat.not_le.mp fits)]
        simp [fits, written]

/-- What a memory keeps are the frames of the records that were written. -/
theorem frames_memory (settings : TracerSettings) (calls : List Call)
    : ((Tracer.new settings Memory.empty).after Memory.write calls).backend.frames.toList
      = ((Tracer.new settings Memory.empty).written Memory.write calls).map fun entry =>
          Frame.encode entry.2 := by
  rw [after_eq, feed_memory, written_memory, TracerSettings.records]
  simp [Memory.empty]

/-- Whatever the backend makes of its frames, a call whose payload is too long is refused and
changes nothing. The n-th of all other calls takes the number n, modulo 256, and hands the
backend one frame, that of its record, whether the backend then fails or not; the backend is
handed nothing else. A memory keeps one frame for each call that succeeds, which are all of
those others; in their order, the frames are read back as the records that were written, with
the time stamp that the call asked for and the settings allow, numbered one by one from one.
-/
theorem numbers_every_attempt (settings : TracerSettings) (write : Backend β) (start : β)
    : (∀ (before : List Call) (call : Call),
        let tracer := (Tracer.new settings start).after write before
        let number := (settings.attempts before).length + 1
        let record := settings.record number call
        let outcome := write tracer.backend (Frame.encode record)
        record.seq.toNat = number % 256
        ∧ (settings.maxPayload < call.payload.length
          → tracer.serve write call
            = (.error (.payloadTooLarge call.payload.length), tracer))
        ∧ (call.payload.length ≤ settings.maxPayload
          → tracer.serve write call
            = (match outcome.2 with
                | some error => .error error
                | none => .ok (call.route.tell record),
              ⟨settings, record.seq, outcome.1⟩)))
      ∧ (∀ calls : List Call,
          ((Tracer.new settings start).after write calls).backend
          = feed write start ((settings.records calls).map Frame.encode))
      ∧ ∀ calls : List Call,
          let tracer := Tracer.new settings Memory.empty
          let written := tracer.written Memory.write calls
          written.map Prod.fst = settings.attempts calls
          ∧ List.Forall₂
              (fun frame entry =>
                Frame.decode (settings.stamps entry.1) frame = .ok entry.2.received)
              (tracer.after Memory.write calls).backend.frames.toList written
          ∧ ∀ (index : Nat) (entry : Call × Record),
              written[index]? = some entry → entry.2.seq.toNat = (index + 1) % 256 := by
  refine ⟨fun before call => ?_, fun calls => ?_, fun calls => ?_⟩
  · intro tracer number record outcome
    have counted : tracer.settings = settings
        ∧ tracer.seq = .ofNat (settings.attempts before).length := by
      simp only [tracer, after_eq, and_self]
    refine ⟨UInt8.toNat_ofNat', fun long => serve_of_long (counted.1 ▸ long), fun fits => ?_⟩
    have served : tracer.serve write call = _ := serve_of_fits (counted.1 ▸ fits) counted.2
    rw [counted.1] at served
    exact served
  · rw [after_eq]
  · intro tracer written
    have made
        : written = (settings.numbered calls).map fun (call, number) =>
            (call, settings.record number call) := written_memory settings calls
    refine ⟨?_, ?_, fun index entry held => ?_⟩
    · rw [made, List.map_map]
      exact List.zipIdx_map_fst 1 _
    · rw [frames_memory, List.forall₂_map_left_iff, List.forall₂_same]
      intro entry held
      have member : entry ∈ written := held
      rw [made] at member
      obtain ⟨⟨call, number⟩, -, rfl⟩ := List.mem_map.mp member
      exact decode_record settings number call
    · rw [made, List.getElem?_map] at held
      obtain ⟨numbered, found, rfl⟩ := Option.map_eq_some_iff.mp held
      rw [← TracerSettings.number_of_numbered found]
      exact UInt8.toNat_ofNat'

/-- Where two bytes are allowed, a payload of three is refused, and the call behind it gets the
first number. Its frame is the only one that the memory keeps.
-/
theorem numbers_every_attempt_refused
    : let long : Call := ⟨.emit, 16, [1, 2, 3], ⟨0, 0⟩⟩
      let short : Call := ⟨.emitWithTimestamp, 17, [0x7E], ⟨2, 0⟩⟩
      let record : Record := ⟨1, 17, some ⟨2, 0⟩, [0x7E]⟩
      let tracer := Tracer.new ⟨2, true⟩ Memory.empty
      tracer.serve Memory.write long = (.error (.payloadTooLarge 3), tracer)
      ∧ (tracer.after Memory.write [long]).serve Memory.write short
        = (.ok (some record), ⟨⟨2, true⟩, 1, ⟨#[Frame.encode record]⟩⟩) := by
  intro long short record tracer
  have each := (numbers_every_attempt ⟨2, true⟩ Memory.write Memory.empty).1
  have refused := (each [] long).2.1 (by decide)
  exact ⟨refused, (each [long] short).2.2 (by decide)⟩

end Tracer
end TimedDataflow.Trace
