-- The guard around a call: it ends with its answer, at its deadline, or when
-- the caller gives up, whichever comes first.
import FeedSearch.Fetch.Adapter

namespace FeedSearch.Fetch

/-! ## Ends -/

/-- When the caller gives up: never, before the call, or some milliseconds after its start. -/
inductive Cancel where
  | never
  | already
  | after (millis : Nat)
  deriving DecidableEq, Repr

/-- How a call ends. -/
inductive Outcome where
  | records (records : List Record)
  | failure (cause : FailureCause)
  | crash
  deriving DecidableEq, Repr

def Outcome.ofAnswer : Answer → Outcome
  | .records rs => .records rs
  | .failure chain => .failure (.provider chain)
  | .crash => .crash

def Outcome.isCrash : Outcome → Bool
  | .crash => true
  | _ => false

def Outcome.isRecords : Outcome → Bool
  | .records _ => true
  | _ => false

/-- Whether a time comes no later than another that may never come. -/
def noLater (d : Nat) : Option Nat → Bool
  | none => true
  | some c => d ≤ c

/-- The milliseconds until the caller gives up. -/
def Cancel.time? : Cancel → Option Nat
  | .never => none
  | .already => some 0
  | .after millis => some millis

/-- When the caller gives up, seen some milliseconds later. -/
def Cancel.later (millis : Nat) : Cancel → Cancel
  | .never => .never
  | .already => .already
  | .after limit => .after (limit - millis)

/-- When the caller gives up a wait, if there is one and it does no later than the wait ends. -/
def Cancel.during? (cancel : Cancel) (wait : Nat) : Option Nat :=
  cancel.time?.filter fun limit => 0 < wait && limit ≤ wait

/-! ## The guard -/

/-- What comes at the limit, or before it when the caller gives up. -/
def giveUp (deadline : Time.Span) (cancel : Cancel) : Nat × Outcome :=
  let limit := deadline.ceilMillis
  match cancel.time? with
  | some c => if c < limit then (c, .failure .cancelled) else (limit, .failure (.timedOut deadline))
  | none => (limit, .failure (.timedOut deadline))

/-- When and how a call ends. The deadline has whole milliseconds. An answer that comes at the very
moment of the deadline or of giving up still counts, and so does the deadline before giving up. A
call that was given up before it started is not made. -/
def guardCall (deadline : Time.Span) (cancel : Cancel) (reply : Reply) : Nat × Outcome :=
  match cancel with
  | .already => (0, .failure .cancelled)
  | _ =>
    match reply.delay with
    | some d =>
      if d ≤ deadline.ceilMillis && noLater d cancel.time? then (d, .ofAnswer reply.answer)
      else giveUp deadline cancel
    | none => giveUp deadline cancel

end FeedSearch.Fetch
