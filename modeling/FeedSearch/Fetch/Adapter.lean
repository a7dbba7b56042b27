-- Adapters: how a provider answers the calls that are made to it. An adapter
-- may also answer from a script.
import FeedSearch.Content.Record
import FeedSearch.Fetch.Failure

namespace FeedSearch.Fetch

/-! ## Calls and replies -/

/-- One call to a provider: how many calls came before it, what is asked for, and the time of
day. -/
structure Call where
  index : Nat
  query : String
  kind : Option Kind
  wall : Time.Moment
  deriving DecidableEq, Repr

/-- The call, with the time of day some milliseconds later. -/
def Call.later (c : Call) (millis : Nat) : Call :=
  { c with wall := c.wall.plusNanos (1000000 * millis) }

/-- What a call gives if it is left to run to its end. -/
inductive Answer where
  | records (records : List Record)
  | failure (chain : List String)
  | crash
  deriving DecidableEq, Repr

/-- An answer and the milliseconds until it is there; without them it never is. `parsed` says that
a payload has been read on the way. -/
structure Reply where
  delay : Option Nat
  answer : Answer
  parsed : Bool
  deriving DecidableEq, Repr

structure Adapter where
  name : String
  reply : Call → Reply

/-! ## Scripts -/

/-- What a scripted adapter does on a call. -/
inductive Behavior where
  | records (records : List Record)
  | fail (chain : List String)
  | hang
  | crash
  deriving DecidableEq, Repr

/-- A behavior and the milliseconds before it. -/
structure Scene where
  delay : Nat
  behavior : Behavior
  deriving DecidableEq, Repr

/-- The scene of a call: one for each call, the last again and again. -/
def sceneAt (script : List Scene) (index : Nat) : Scene :=
  (script[index]?).getD (script.getLast?.getD ⟨0, .hang⟩)

/-- The reply of a scene. Records of another kind than the wanted one are left out, unless the kind
is ignored. -/
def Scene.reply (scene : Scene) (ignoreKind : Bool) (kind : Option Kind) : Reply :=
  match scene.behavior with
  | .records records =>
    let wanted := if ignoreKind then records else records.filter (·.kind.passes kind)
    { delay := some scene.delay, answer := .records wanted, parsed := false }
  | .fail chain => { delay := some scene.delay, answer := .failure chain, parsed := false }
  | .crash => { delay := some scene.delay, answer := .crash, parsed := false }
  | .hang => { delay := none, answer := .records [], parsed := false }

/-- The adapter that plays a script; `start` calls came before its first scene. -/
def Adapter.scripted (name : String) (script : List Scene) (ignoreKind : Bool) (start : Nat) :
    Adapter where
  name
  reply call := (sceneAt script (call.index - start)).reply ignoreKind call.kind

end FeedSearch.Fetch
