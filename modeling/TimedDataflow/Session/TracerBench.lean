import TimedDataflow.Trace.Tracer

/-! A tracer driven alone, with frames kept in memory or written to a small disk. -/

namespace TimedDataflow

/-- Where the frames of a tracer on the bench go. -/
inductive FrameStore where
  | memory (frames : Trace.Memory)
  | disk (disk : Trace.Disk)

def FrameStore.write : Trace.Backend FrameStore := fun store frame =>
  match store with
  | .memory kept =>
      let (after, error) := kept.write frame
      (.memory after, error)
  | .disk device =>
      let (after, error) := device.write frame
      (.disk after, error)

/-- The frames kept in memory. -/
def FrameStore.frames : FrameStore → Array (List UInt8)
  | .memory kept => kept.frames
  | .disk _ => #[]

abbrev TracerBench : Type := Trace.Tracer FrameStore

/-- One record to write, so many times over. A hooked call does not tell the record. -/
structure TracerCall where
  kind : UInt8
  payload : List UInt8
  stamped : Bool
  hooked : Bool
  times : Nat
deriving DecidableEq

/-- What a call brought about: the last record or error, and the frames it added. -/
structure TracerAnswer where
  last : Option (Except Trace.TraceError Trace.Record)
  frames : Array (List UInt8)

namespace TracerBench

open Trace (Tracer TraceError Record)

/-- Writes a record some times over, at the moment the tracer was made. -/
def repeated (call : TracerCall)
    : Nat → Option (Except TraceError Record) → TracerBench
      → Option (Except TraceError Record) × TracerBench
  | 0, last, bench => (last, bench)
  | more + 1, _, bench =>
      let (result, after) :=
        Tracer.record FrameStore.write bench call.kind call.payload call.stamped ⟨0, 0⟩
      repeated call more (some result) after

def perform (bench : TracerBench) (call : TracerCall) : TracerAnswer × TracerBench :=
  let known := bench.backend.frames.size
  let (last, after) := repeated call call.times none bench
  (⟨last, after.backend.frames.extract known after.backend.frames.size⟩, after)

end TracerBench
end TimedDataflow
