-- Content records: what providers deliver and the store keeps.
import FeedSearch.Time.Moment

namespace FeedSearch

/-! ## Kinds -/

inductive Kind where
  | video
  | text
  deriving DecidableEq, Repr, Inhabited

def Kind.name : Kind → String
  | .video => "video"
  | .text => "text"

/-- Whether a record of kind `k` passes a filter; no filter lets every kind pass. -/
def Kind.passes (k : Kind) (filter : Option Kind) : Bool := filter.all (· == k)

/-! ## Scores -/

/-- A floating-point number, by its 64 bits. -/
structure Score where
  bits : UInt64
  deriving DecidableEq, Repr, Inhabited

namespace Score

def zero : Score := ⟨0⟩

def ofFloat (f : Float) : Score := ⟨f.toBits⟩

def toFloat (s : Score) : Float := Float.ofBits s.bits

/-- Neither infinite nor no number. -/
def isFinite (s : Score) : Bool := Number.isFinite s.bits

/-- The place of a score in the total order of floating-point numbers: negative numbers run
backwards and lie below the positive ones, zero with a minus sign just below zero. -/
def rank (s : Score) : Int :=
  let n : Int := s.bits.toNat
  if Number.hasMinus s.bits then Number.signSize - 1 - n else n

end Score

/-! ## Records -/

/-- A unit of content. `id` is given by the store and by nothing else. -/
structure Record where
  id : Option Int
  providerId : String
  provider : String
  title : String
  kind : Kind
  views : UInt64
  likes : UInt64
  readingTime : UInt64
  reactions : UInt64
  score : Score
  createdAt : Time.Moment
  deriving DecidableEq, Repr, Inhabited

/-- A text that nobody has seen yet. -/
def Record.unseen (provider providerId title : String) : Record where
  id := none
  providerId
  provider
  title
  kind := .text
  views := 0
  likes := 0
  readingTime := 0
  reactions := 0
  score := .zero
  createdAt := ⟨0, 0⟩

/-- What identifies a record across fetches: its provider and its name there. -/
structure NaturalKey where
  providerId : String
  provider : String
  deriving DecidableEq, Repr

def Record.naturalKey (r : Record) : NaturalKey := ⟨r.providerId, r.provider⟩

end FeedSearch
