import TimedDataflow.Keeper

/-! A keeper driven alone, with stand-ins for the receivers around it. -/

namespace TimedDataflow

/-- A stand-in for an output. It takes every null or none, and remembers the times of
those it took.
-/
structure Sink where
  id : ReceiverId
  accepts : Bool
  times : List Time
  present : Bool
deriving DecidableEq

/-- A stand-in for an input. It counts how often its reader was woken. -/
structure Waker where
  wakes : Nat
  present : Bool
deriving DecidableEq

/-- A keeper that knows its outputs and inputs by their places on the bench. -/
structure KeeperBench where
  keeper : Keeper Nat
  sinks : Array Sink
  wakers : Array Waker

/-- What can be asked of a keeper alone. -/
inductive BenchCall where
  | update (standing : Standing)
  | evaluate (standing : Standing)
  | advance (time : Time)
  | resort
  | nulls (except : Option ReceiverId)
  | wakeAfter (changed : ReceiverId)
  | addSink (id : ReceiverId) (accepts : Bool)
  | dropSink (place : Nat)
  | addWaker (id : ReceiverId)
  | dropWaker (place : Nat)

inductive BenchAnswer where
  | nothing
  | turn (turn : Turn)
  | count (number : Nat)
  | flag (value : Bool)

namespace KeeperBench

def new (owner : ActorId) : KeeperBench := ⟨Keeper.new owner, #[], #[]⟩

/-- Offers a null to the sinks at the given places and counts those that took it. -/
def offerNulls (bench : KeeperBench) (except : Option ReceiverId) (time : Time)
    : List Nat → Nat × KeeperBench
  | [] => (0, bench)
  | place :: rest =>
      match bench.sinks[place]? with
      | none => bench.offerNulls except time rest
      | some sink =>
          if sink.present && sink.accepts && some sink.id != except then
            let taken :=
              { bench with
                sinks := bench.sinks.modify place fun known =>
                  { known with times := known.times ++ [time] } }
            let (others, after) := taken.offerNulls except time rest
            (others + 1, after)
          else bench.offerNulls except time rest

/-- Wakes the reader at a place, where there still is one. -/
def wake (bench : KeeperBench) : Option Nat → Bool × KeeperBench
  | none => (false, bench)
  | some place =>
      match bench.wakers[place]? with
      | none => (false, bench)
      | some waker =>
          if waker.present then
            (true,
              { bench with
                wakers := bench.wakers.modify place fun known =>
                  { known with wakes := known.wakes + 1 } })
          else (false, bench)

def perform (bench : KeeperBench) : BenchCall → Except Error BenchAnswer × KeeperBench
  | .update standing =>
      match bench.keeper.update standing with
      | .error error => (.error error, bench)
      | .ok keeper => (.ok .nothing, { bench with keeper })
  | .evaluate standing =>
      match bench.keeper.evaluate standing with
      | .error error => (.error error, bench)
      | .ok (turn, keeper) => (.ok (.turn turn), { bench with keeper })
  | .advance time => (.ok .nothing, { bench with keeper := bench.keeper.advance time })
  | .resort => (.ok .nothing, { bench with keeper := bench.keeper.resort })
  | .nulls except =>
      if bench.keeper.currentTime.isFinite then
        let (count, after) :=
          bench.offerNulls except bench.keeper.currentTime bench.keeper.outputs
        (.ok (.count count), after)
      else (.ok (.count 0), bench)
  | .wakeAfter changed =>
      let (input, keeper) := bench.keeper.passTurn changed
      let (woke, after) := { bench with keeper }.wake input
      (.ok (.flag woke), after)
  | .addSink id accepts =>
      (.ok .nothing,
        { bench with
          keeper := bench.keeper.addOutput bench.sinks.size
          sinks := bench.sinks.push ⟨id, accepts, [], true⟩ })
  | .dropSink place =>
      (.ok .nothing,
        { bench with
          sinks := bench.sinks.modify place fun known => { known with present := false } })
  | .addWaker id =>
      (.ok .nothing,
        { bench with
          keeper := bench.keeper.addInput id bench.wakers.size
          wakers := bench.wakers.push ⟨0, true⟩ })
  | .dropWaker place =>
      (.ok .nothing,
        { bench with
          wakers := bench.wakers.modify place fun known => { known with present := false } })

end KeeperBench
end TimedDataflow
