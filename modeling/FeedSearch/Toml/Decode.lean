-- Reading the members of a TOML document as data of a known shape. Keys are
-- visited in their order by name; the first mismatch is the result.
import FeedSearch.Shape.Mismatch
import FeedSearch.Toml.Document

namespace FeedSearch.Toml

open Shape

/-! ## Mismatches -/

abbrev Decoder (α : Type) := Value → Except Mismatch α

def tooLargeInteger : Mismatch := .other "integer value was too large"

def tooLargeFloat : Mismatch := .other "floating-point value was too large"

/-- Whether a number has 64 bits, with a sign or without one. -/
def fits64 (n : Int) : Bool := Number.fitsSigned n || (0 ≤ n && n ≤ Number.maxCount)

/-- Whether a number has 128 bits, with a sign or without one. -/
def fits128 (n : Int) : Bool := -(Number.signSize128 : Int) ≤ n && n < 2 * Number.signSize128

/-- What is said of a whole number where something else is expected. -/
def refuseInteger {α : Type} (expected : String) (n : Int) : Except Mismatch α :=
  if fits64 n then .error (.wrongType (.integer n) expected)
  else if fits128 n then .error (.wrongType (.wideInteger n) expected)
  else .error tooLargeInteger

/-- What is said of a value of another kind than the expected one. Moments pass for tables. -/
def refuse {α : Type} (expected : String) : Value → Except Mismatch α
  | .text s => .error (.wrongType (.text s) expected)
  | .integer n => refuseInteger expected n
  | .float bits => .error (.wrongType (.float bits) expected)
  | .hugeFloat => .error tooLargeFloat
  | .truth b => .error (.wrongType (.truth b) expected)
  | .moment => .error (.wrongType .table expected)
  | .list _ _ => .error (.wrongType .list expected)
  | .table _ _ => .error (.wrongType .table expected)

/-! ## Values without parts -/

def decodeText : Decoder String
  | .text s => .ok s
  | v => refuse "a string" v

/-- A count up to `most`; `expected` names its type. -/
def decodeCount (most : Nat) (expected : String) : Decoder Nat
  | .integer n =>
    if 0 ≤ n ∧ n ≤ most then .ok n.toNat
    else if fits64 n then .error (.wrongValue (.integer n) expected)
    else refuseInteger expected n
  | v => refuse expected v

def decodeCount64 : Decoder UInt64 := fun v =>
  (decodeCount Number.maxCount "u64" v).map Nat.toUInt64

def decodeCount32 : Decoder UInt32 := fun v =>
  (decodeCount Number.maxCount32 "u32" v).map Nat.toUInt32

def decodeSize : Decoder Nat := decodeCount Number.maxCount "usize"

/-! ## Variants -/

/-- The name of a kind of value. -/
def Value.kindName : Value → String
  | .text _ => "string"
  | .integer _ => "integer"
  | .float _ => "float"
  | .hugeFloat => "float"
  | .truth _ => "boolean"
  | .moment => "datetime"
  | .list _ _ => "array"
  | .table _ _ => "table"

def variantOf {α : Type} (variants : List (String × α)) (name : String) : Except Mismatch α :=
  match variants.lookup name with
  | some a => .ok a
  | none => .error (.unknownVariant name (variants.map (·.1)))

/-- The contents of a variant that has none. -/
def decodeNothing : Decoder Unit
  | .list _ items => if items.isEmpty then .ok () else .error (.other "expected empty array")
  | .table _ ms => if ms.isEmpty then .ok () else .error (.other "expected empty table")
  | v => .error (.other ("expected table, found " ++ v.kindName))

/-- A variant without contents: its name, or a table of its name alone. -/
def decodeVariant {α : Type} (variants : List (String × α)) : Decoder α
  | .text name => variantOf variants name
  | .table _ [] => .error (.other "wanted exactly 1 element, found 0 elements")
  | .table _ [(name, v)] => do
    let a ← variantOf variants name
    decodeNothing v
    return a
  | .table _ _ => .error (.other "wanted exactly 1 element, more than 1 element")
  | _ => .error (.other "wanted string or table")

/-! ## Lists and values that do not count -/

def decodeList {α : Type} (decode : Decoder α) : Decoder (List α)
  | .list _ items => items.mapM decode
  | v => refuse "a sequence" v

mutual

/-- What is wrong with a value that nobody wants: a number that is too large for everybody. -/
def Value.ignoredFault? : Value → Option Mismatch
  | .integer n => if fits128 n then none else some tooLargeInteger
  | .hugeFloat => some tooLargeFloat
  | .list _ items => ignoredItems? items
  | .table _ ms => ignoredMembers? ms
  | _ => none

def ignoredItems? : List Value → Option Mismatch
  | [] => none
  | v :: rest => v.ignoredFault?.or (ignoredItems? rest)

def ignoredMembers? : List (String × Value) → Option Mismatch
  | [] => none
  | (_, v) :: rest => v.ignoredFault?.or (ignoredMembers? rest)

end

/-! ## Structures -/

/-- A field of a structure under construction. Without a value it may lack, or must be given. -/
structure Slot (σ : Type) where
  name : String
  mayLack : Bool
  fill : Value → σ → Except Mismatch σ

def Slot.of {σ α : Type} (name : String) (mayLack : Bool) (decode : Decoder α)
    (set : α → σ → σ) : Slot σ where
  name
  mayLack
  fill v s := (decode v).map (set · s)

/-- A structure: its title in messages, its fields in order, the start, and the end. -/
structure Layout (σ α : Type) where
  title : String
  slots : List (Slot σ)
  empty : σ
  build : σ → Except Mismatch α

/-- Reads one member. -/
def fillMember {σ : Type} (slots : List (Slot σ)) (s : σ) (member : String × Value) :
    Except Mismatch σ :=
  match slots.find? (·.name == member.1) with
  | some slot => slot.fill member.2 s
  | none =>
    match member.2.ignoredFault? with
    | some m => .error m
    | none => .ok s

/-- Reads fields in order from the items of a list; items beyond the fields do not count. -/
def fillItems {σ : Type} (expected : String) (count : Nat) :
    List (Slot σ) → List Value → σ → Except Mismatch σ
  | [], _, s => .ok s
  | slot :: slots, v :: items, s => do fillItems expected (count + 1) slots items (← slot.fill v s)
  | slot :: slots, [], s =>
    if slot.mayLack then fillItems expected (count + 1) slots [] s
    else .error (.wrongLength count expected)

def decodeMembers {σ α : Type} (layout : Layout σ α) (ms : Members) : Except Mismatch α := do
  let s ← ms.sorted.foldlM (fillMember layout.slots) layout.empty
  layout.build s

/-- Reads a table by names, or a list by the order of fields. A moment is a table of names that
nobody knows. -/
def decodeStruct {σ α : Type} (layout : Layout σ α) : Decoder α
  | .table _ ms => decodeMembers layout ms
  | .moment => layout.build layout.empty
  | .list _ items => do
    let count := layout.slots.length
    let expected := "struct " ++ layout.title ++ " with " ++ toString count ++ " elements"
    let s ← fillItems expected 0 layout.slots items layout.empty
    layout.build s
  | v => refuse ("struct " ++ layout.title) v

end FeedSearch.Toml
