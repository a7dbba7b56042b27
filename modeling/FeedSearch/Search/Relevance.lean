-- Relevance of a record: its popularity, how recent it is and how well it was
-- received, added up. The formula is written over any arithmetic.
import FeedSearch.Content.Record

namespace FeedSearch.Search

open Time

/-! ## The formula -/

/-- Numbers with the operations that the formula needs. -/
structure Arithmetic (R : Type) where
  ofCount : UInt64 → R
  add : R → R → R
  mul : R → R → R
  div : R → R → R

namespace Arithmetic

variable {R : Type} (a : Arithmetic R)

/-- What the popularity of a video is multiplied by. -/
def videoBoost : R := a.div (a.ofCount 3) (a.ofCount 2)

/-- Views and likes of a video, reading time and reactions of a text. -/
def popularity (r : Record) : R :=
  match r.kind with
  | .video =>
    a.mul (a.add (a.div (a.ofCount r.views) (a.ofCount 1000))
      (a.div (a.ofCount r.likes) (a.ofCount 100))) a.videoBoost
  | .text => a.add (a.ofCount r.readingTime) (a.div (a.ofCount r.reactions) (a.ofCount 50))

/-- The nanoseconds of some days. -/
def daysInNanos (days : Nat) : Int := days * secondsPerDay * nanosPerSecond

/-- Points for an age: five within 7 days, three within 30, one within 90. -/
def recencyPoints (age : Int) : UInt64 :=
  if age ≤ daysInNanos 7 then 5
  else if age ≤ daysInNanos 30 then 3
  else if age ≤ daysInNanos 90 then 1
  else 0

def recency (r : Record) (now : Moment) : R :=
  a.ofCount (recencyPoints (now.sinceNanos r.createdAt))

/-- Likes for each view of a video, reactions for the reading time of a text; zero without views
or without reading time. -/
def quality (r : Record) : R :=
  match r.kind with
  | .video =>
    if r.views == 0 then a.ofCount 0
    else a.mul (a.div (a.ofCount r.likes) (a.ofCount r.views)) (a.ofCount 10)
  | .text =>
    if r.readingTime == 0 then a.ofCount 0
    else a.mul (a.div (a.ofCount r.reactions) (a.ofCount r.readingTime)) (a.ofCount 5)

def relevance (r : Record) (now : Moment) : R :=
  a.add (a.add (a.popularity r) (a.recency r now)) (a.quality r)

end Arithmetic

/-! ## Scores -/

/-- Arithmetic on floating-point numbers. -/
def floats : Arithmetic Float where
  ofCount := UInt64.toFloat
  add := (· + ·)
  mul := (· * ·)
  div := (· / ·)

/-- A way to score a record at a moment. -/
abbrev Scorer := Record → Moment → Score

def relevanceScorer : Scorer := fun r now => Score.ofFloat (floats.relevance r now)

/-- Gives every record the same score. -/
def constantScorer (s : Score) : Scorer := fun _ _ => s

end FeedSearch.Search
