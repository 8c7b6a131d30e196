import TimedDataflow.Operations.Waking

/-! Ending runs and resolving deadlocks. -/

namespace TimedDataflow.Program

variable {α σ : Type}

/-- Asks every receiver to finish, from outside the run. -/
def requestStop : Program α σ Unit := do
  requestFinishes (← perform .beginStop)

/-- What the director sees of each receiver. -/
def sightAll : List ReceiverId → Program α σ (List Sighting)
  | [] => pure []
  | receiver :: rest => do
      let sighting ← perform (.sight receiver)
      return sighting :: (← sightAll rest)

/-- Ends one wait of the kind that was seen. -/
def release (receiver : ReceiverId) (block : Option BlockKind) (time : Time)
    : Program α σ Bool :=
  match block with
  | none => pure false
  | some .read => perform (.releaseRead receiver time)
  | some (.write _) => perform (.releaseWrite receiver)

/-- Releases the receivers that could go on at the time and counts those that did. -/
def releaseAt (time : Time) (sightings : List Sighting)
    : List (ReceiverId × Sighting) → Program α σ Nat
  | [] => pure 0
  | (receiver, sighting) :: rest => do
      let woke ←
        if Sighting.pending sightings sighting = some time then
          release receiver sighting.block time
        else pure false
      let others ← releaseAt time sightings rest
      return (if woke then 1 else 0) + others

/-- Ends the run: every receiver is asked to finish. -/
def endRun (receivers : List ReceiverId) : Program α σ Resolution := do
  perform (.declareReal receivers.length)
  perform (.emit .deadlock)
  requestFinishes receivers
  perform (.emit .terminated)
  return .terminated

/-- Resolves a deadlock. If some blocked receiver could go on at a finite time and the
limit is not reached, time moves to the earliest such time and exactly the receivers that
could go on then are released. Otherwise the run ends.
-/
def resolveDeadlock : Program α σ Resolution := do
  let (receivers, limitReached) ← perform .survey
  let sightings ← sightAll receivers
  match Sighting.earliest sightings with
  | none => endRun receivers
  | some time =>
      if limitReached then
        perform .warnLimit
        endRun receivers
      else
        let released ← releaseAt time sightings (receivers.zip sightings)
        if released = 0 then endRun receivers
        else
          perform (.countDeadlock time released)
          perform (.emit (.timeAdvanced time released))
          return .advanced time

/-- One round of supervision: wait for a deadlock and resolve it. Supervision ends when no
process is active; once the run was ended, deadlocks are left alone.
-/
def superviseRound (ended : Bool) : Program α σ (Round Bool Unit) := do
  if ← perform (.watch ended) then
    let resolution ← resolveDeadlock
    return .again (resolution = .terminated)
  else return .ended ()

end TimedDataflow.Program
