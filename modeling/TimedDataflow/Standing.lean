import TimedDataflow.Time

/-! The standing of a receiver among the receivers of one actor. -/

namespace TimedDataflow

/-- What an actor's keeper knows of one receiver. A receiver has yielded when it gave up
its ties after a deadlock release.
-/
structure Standing where
  receiver : ReceiverId
  time : Time
  priority : Int
  yielded : Bool
deriving DecidableEq

namespace Standing

/-- Earlier times come first, then receivers that did not yield, then higher priorities,
then lower numbers.
-/
def rank (left right : Standing) : Ordering :=
  (compare left.time right.time).then
    ((compare left.yielded right.yielded).then
      ((compare right.priority left.priority).then
        (compare left.receiver.number right.receiver.number)))

/-- Puts a standing behind those that rank before it. -/
def insertRanked (standing : Standing) : List Standing → List Standing
  | [] => [standing]
  | other :: rest =>
      if other.rank standing = .lt then other :: standing.insertRanked rest
      else standing :: other :: rest

/-- Standings in order of rank. Those of equal rank keep their order. -/
def ranked : List Standing → List Standing
  | [] => []
  | standing :: rest => standing.insertRanked (ranked rest)

end Standing
end TimedDataflow
