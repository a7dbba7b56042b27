-- Values of TOML, and the tables of a document under construction: which keys
-- may still be added where.
import FeedSearch.Number.Numeral

namespace FeedSearch.Toml

/-! ## Values -/

/-- How a table has come about: on the way to a deeper header, by a dotted key, by a header of its
own, or written out in place. -/
inductive Origin where
  | passing
  | dotted
  | header
  | inline
  deriving DecidableEq, Repr

/-- A value. A list is open if headers add its elements. A number with a point may be too large for
its 64 bits. -/
inductive Value where
  | text (s : String)
  | integer (n : Int)
  | float (bits : UInt64)
  | hugeFloat
  | truth (b : Bool)
  | moment
  | list (isOpen : Bool) (items : List Value)
  | table (origin : Origin) (members : List (String × Value))

abbrev Members := List (String × Value)

/-! ## Members -/

namespace Members

def has (ms : Members) (key : String) : Bool := (ms.lookup key).isSome

/-- Gives a key another value. -/
def replace (ms : Members) (key : String) (v : Value) : Members :=
  ms.map fun m => if m.1 == key then (key, v) else m

/-- Adds a key that is not there yet. -/
def add (ms : Members) (key : String) (v : Value) : Option Members :=
  if ms.has key then none else some (ms ++ [(key, v)])

/-- The members by key. -/
def sorted (ms : Members) : Members := ms.mergeSort fun a b => !(b.1 < a.1)

/-- A change of the members of a table, which may depend on how the table has come about. -/
abbrev Change := Origin → Members → Option Members

/-- Whether a path may enter a table: dotted keys enter only what no header has defined. -/
def mayEnter (isDotted : Bool) : Origin → Bool
  | .passing => true
  | .dotted => true
  | .header => !isDotted
  | .inline => false

/-- Changes the table at the end of a path. Tables on the way are made where there are none; an open
list leads to its last element. -/
def changeAt (isDotted : Bool) (change : Change) : List String → Change
  | [], origin, ms => change origin ms
  | key :: path, _, ms =>
    match ms.lookup key with
    | none => do
      let fresh := if isDotted then .dotted else .passing
      let inner ← changeAt isDotted change path fresh []
      return ms ++ [(key, .table fresh inner)]
    | some (.table origin inner) =>
      if mayEnter isDotted origin then do
        let inner ← changeAt isDotted change path origin inner
        return ms.replace key (.table origin inner)
      else none
    | some (.list true items) =>
      match items.getLast? with
      | some (.table origin inner) => do
        let inner ← changeAt isDotted change path origin inner
        return ms.replace key (.list true (items.dropLast ++ [.table origin inner]))
      | _ => none
    | _ => none

/-- Gives a value to a dotted key of a table. A key with dots does not reach into tables that have
come about in another way, and a plain key does not add to a table made by dots. -/
def assign (path : List String) (key : String) (v : Value) : Change :=
  changeAt true
    (fun origin ms => if (origin == .dotted) == path.isEmpty then none else ms.add key v) path

/-- Opens the table of a header. It must be new, or so far only a way to deeper headers. -/
def openTable (path : List String) (key : String) : Change :=
  changeAt false
    (fun _ ms =>
      match ms.lookup key with
      | some (.table .passing inner) => some (ms.replace key (.table .header inner))
      | _ => ms.add key (.table .header []))
    path

/-- Opens one more element of the list of a header. -/
def openElement (path : List String) (key : String) : Change :=
  changeAt false
    (fun _ ms =>
      match ms.lookup key with
      | some (.list true items) =>
        some (ms.replace key (.list true (items ++ [.table .header []])))
      | _ => ms.add key (.list true [.table .header []]))
    path

end Members

end FeedSearch.Toml
