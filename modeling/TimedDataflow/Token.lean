import TimedDataflow.Time

/-! Tokens and their time stamps. -/

namespace TimedDataflow

/-- What travels between processes. A null carries no value; it only tells its reader
that time has moved on.
-/
inductive Token (α : Type) where
  | data (value : α)
  | null
deriving DecidableEq

namespace Token

variable {α : Type}

def isNull : Token α → Bool
  | data _ => false
  | null => true

def value? : Token α → Option α
  | data value => some value
  | null => none

end Token

/-- A token with the time at which it takes effect. -/
structure Stamped (α : Type) where
  token : Token α
  time : Time
deriving DecidableEq

end TimedDataflow
