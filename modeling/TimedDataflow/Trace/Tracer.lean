import TimedDataflow.Trace.Frame

/-! Tracers: numbered records, framed and handed to a backend that may fail. -/

namespace TimedDataflow.Trace

/-- Payloads longer than `maxPayload` are refused, and records are stamped only where
`timestamps` allows it.
-/
structure TracerSettings where
  maxPayload : Nat
  timestamps : Bool
deriving DecidableEq

/-- The number of the last record and the state of the backend. -/
structure Tracer (β : Type) where
  settings : TracerSettings
  seq : UInt8
  backend : β

/-- Hands one frame to a backend and says what went wrong, if anything did. -/
abbrev Backend (β : Type) : Type := β → List UInt8 → β × Option TraceError

namespace Tracer

variable {β : Type}

def new (settings : TracerSettings) (backend : β) : Tracer β := ⟨settings, 0, backend⟩

/-- Writes one record. Numbers start at one and wrap; a failed write uses up its number,
a refused payload does not. `now` is the time since the tracer was made.
-/
def record (write : Backend β) (tracer : Tracer β) (kind : UInt8) (payload : List UInt8)
    (stamped : Bool) (now : Elapsed)
    : Except TraceError Record × Tracer β :=
  if tracer.settings.maxPayload < payload.length then
    (.error (.payloadTooLarge payload.length), tracer)
  else
    let timestamp := if tracer.settings.timestamps && stamped then some now else none
    let record : Record := ⟨tracer.seq + 1, kind, timestamp, payload⟩
    match write tracer.backend (Frame.encode record) with
    | (backend, some error) => (.error error, { tracer with seq := record.seq, backend })
    | (backend, none) => (.ok record, { tracer with seq := record.seq, backend })

end Tracer

/-- A backend that keeps every frame, in order. -/
structure Memory where
  frames : Array (List UInt8)
deriving DecidableEq

def Memory.empty : Memory := ⟨#[]⟩

def Memory.write : Backend Memory := fun memory frame =>
  (⟨memory.frames.push frame⟩, none)

/-- A backend with room for so many more bytes. -/
structure Disk where
  room : Nat
  written : Array UInt8
deriving DecidableEq

def Disk.ofSize (room : Nat) : Disk := ⟨room, #[]⟩

/-- A frame that does not fit is cut off and the write fails. -/
def Disk.write : Backend Disk := fun disk frame =>
  let taken := frame.take disk.room
  (⟨disk.room - taken.length, disk.written ++ taken⟩,
    if disk.room < frame.length then some (.backend "disk full") else none)

end TimedDataflow.Trace
