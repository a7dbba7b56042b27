-- The breakers of all providers, by name. A breaker is made when its name is
-- first asked for, and stays.
import FeedSearch.Breaker

namespace FeedSearch

/-! ## Breakers by name -/

/-- Breakers in the order in which they were made. -/
structure Breakers where
  config : BreakerConfig
  entries : List (String × Breaker)
  deriving Repr

/-- The state of one breaker, for show. -/
structure BreakerSnapshot where
  provider : String
  state : BreakerState
  failures : Nat
  deriving DecidableEq, Repr

namespace Breakers

def empty (config : BreakerConfig) : Breakers := { config, entries := [] }

def find? (bs : Breakers) (name : String) : Option Breaker := bs.entries.lookup name

def size (bs : Breakers) : Nat := bs.entries.length

/-- Adds a new breaker unless there is one of that name. -/
def insertNew (bs : Breakers) (name : String) : Breakers :=
  match bs.find? name with
  | some _ => bs
  | none => { bs with entries := bs.entries ++ [(name, .fresh)] }

/-- The breaker of a name: it is looked up first, and made if it is not there. -/
def ensure (bs : Breakers) (name : String) : Breaker × Breakers :=
  match bs.find? name with
  | some b => (b, bs)
  | none =>
    let bs := bs.insertNew name
    ((bs.find? name).getD .fresh, bs)

/-- Changes the breaker of a name, if there is one. -/
def modify (bs : Breakers) (name : String) (f : Breaker → Breaker) : Breakers :=
  { bs with entries := bs.entries.map fun e => if e.1 == name then (e.1, f e.2) else e }

/-- The states of all breakers, by name. -/
def snapshots (bs : Breakers) : List BreakerSnapshot :=
  let all := bs.entries.map fun (name, b) =>
    { provider := name, state := b.state, failures := b.failures : BreakerSnapshot }
  all.mergeSort fun a b => !(b.provider < a.provider)

/-- Asks whether a call of a provider may start. -/
def enter (bs : Breakers) (name : String) (now : Instant) : Bool × Breakers :=
  let (b, bs) := bs.ensure name
  let (admitted, b) := b.enter bs.config now
  (admitted, bs.modify name fun _ => b)

def onFailure (bs : Breakers) (name : String) (now : Instant) : Breakers :=
  bs.modify name (·.onFailure bs.config now)

def onSuccess (bs : Breakers) (name : String) : Breakers := bs.modify name Breaker.onSuccess

/-- Resets the breaker of a name, and says whether there is one. -/
def reset (bs : Breakers) (name : String) : Bool × Breakers :=
  ((bs.find? name).isSome, bs.modify name Breaker.reset)

end Breakers

end FeedSearch
