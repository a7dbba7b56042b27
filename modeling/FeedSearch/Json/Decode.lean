-- Reading a JSON tree as data of a known shape, in the order in which the text
-- stands. The first fault on the way is the result.
import FeedSearch.Json.Node

namespace FeedSearch.Json

/-! ## Failures -/

/-- A fault, or a mismatch that shows once the list or object around it has been left; reading
stands at `offset` when it is found. -/
inductive Failure where
  | located (f : Fault)
  | floating (m : Shape.Mismatch) (offset : Nat)

/-- Where a reader stands: the text, and how many more lists and objects it may enter. -/
structure Reader where
  text : List Char
  depth : Nat

/-- The most lists and objects that a strict reader enters. -/
def maxDepth : Nat := 127

abbrev Decoder (α : Type) := Reader → Node → Except Failure α

def fail {α : Type} (cause : Cause) (offset : Nat) : Except Failure α :=
  .error (.located ⟨cause, offset⟩)

def mismatch {α : Type} (m : Shape.Mismatch) (offset : Nat) : Except Failure α :=
  fail (.mismatch m) offset

/-- A strict reader's view of a part. -/
def locate {α : Type} : Except Fault α → Except Failure α
  | .ok a => .ok a
  | .error f => .error (.located f)

def Ending.check : Ending → Except Failure Unit
  | .closed _ => .ok ()
  | .broken b => .error (.located b.strict)

/-! ## Values without parts -/

/-- What is said of a node of another kind than the expected one. -/
def refuse {α : Type} (expected : String) : Node → Except Failure α
  | .text _ stop s => do
    let t ← locate s.strict
    mismatch (.wrongType (.text t) expected) stop
  | .plain _ stop v => do
    let v ← locate v.strict
    mismatch (.wrongType v.found expected) stop
  | .list start _ _ => mismatch (.wrongType .list expected) start
  | .object start _ _ => mismatch (.wrongType .table expected) start
  | .absent b => .error (.located b.strict)

/-- A count of 64 bits. -/
def decodeCount (expected : String) : Decoder Nat := fun _ node =>
  match node with
  | .plain _ stop ⟨.ok (.number (.count n)), _⟩ =>
    if n ≤ Number.maxCount then .ok n else mismatch (.wrongValue (.integer n) expected) stop
  | .plain _ stop ⟨.ok (.number (.negative n)), _⟩ =>
    mismatch (.wrongValue (.integer n) expected) stop
  | node => refuse expected node

/-- A signed number of 64 bits. -/
def decodeSigned : Decoder Int := fun _ node =>
  match node with
  | .plain _ stop ⟨.ok (.number (.count n)), _⟩ =>
    if n < Number.signSize then .ok n else mismatch (.wrongValue (.integer n) "i64") stop
  | .plain _ _ ⟨.ok (.number (.negative n)), _⟩ => .ok n
  | node => refuse "i64" node

def decodeFloat : Decoder Float := fun _ node =>
  match node with
  | .plain _ _ ⟨.ok (.number n), _⟩ => .ok n.toFloat
  | node => refuse "f64" node

def decodeText : Decoder String := fun _ node =>
  match node with
  | .text _ _ s => locate s.strict
  | node => refuse "a string" node

/-- A text that is read further; `read` says what is wrong with it. -/
def decodeTextAs {α : Type} (expected : String) (read : String → Except Shape.Mismatch α) :
    Decoder α := fun _ node =>
  match node with
  | .text _ stop s => do
    let t ← locate s.strict
    match read t with
    | .ok a => .ok a
    | .error m => mismatch m stop
  | node => refuse expected node

/-! ## Places in the text -/

/-- The text from an offset on, blanks left out, and the offset of what follows them. -/
def skipGaps (offset here : Nat) : List Char → Nat × List Char
  | [] => (here, [])
  | c :: rest =>
    if here < offset then skipGaps offset (here + c.utf8Size) rest
    else if isGap c then skipGaps offset (here + 1) rest
    else (here, c :: rest)

/-! ## Options and lists -/

/-- Null stands for no value. A word that starts like null has to be null. -/
def decodeOption {α : Type} (decode : Decoder α) : Decoder (Option α) := fun r node =>
  match node with
  | .plain _ _ ⟨.ok .null, _⟩ => .ok none
  | .plain start _ ⟨.error f, _⟩ =>
    if (skipGaps start 0 r.text).2.head? == some 'n' then .error (.located f)
    else (decode r node).map some
  | node => (decode r node).map some

/-- The reader inside a list or an object that starts at `start`. -/
def Reader.enter (r : Reader) (start : Nat) : Except Failure Reader :=
  match r.depth with
  | 0 => fail .tooDeep (start + 1)
  | depth + 1 => .ok { r with depth }

def decodeList {α : Type} (decode : Decoder α) : Decoder (List α) := fun r node =>
  match node with
  | .list start items ending => do
    let inner ← r.enter start
    let values ← items.mapM (decode inner)
    ending.check
    return values
  | node => refuse "a sequence" node

/-! ## Variants -/

/-- The variant of a name. -/
def variantOf {α : Type} (variants : List (String × α)) (name : String) : Except Shape.Mismatch α :=
  match variants.lookup name with
  | some a => .ok a
  | none => .error (.unknownVariant name (variants.map (·.1)))

/-- Null, and nothing else. -/
def decodeNull : Decoder Unit := fun _ node =>
  match node with
  | .plain _ _ ⟨.ok .null, _⟩ => .ok ()
  | node => refuse "unit" node

/-- What may follow the only member of an object: its end. -/
def endOfOnly (rest : List (Key × Node)) (ending : Ending) : Except Failure Unit :=
  match rest, ending with
  | [], .closed _ => .ok ()
  | [], .broken b =>
    if b.strict.cause == .endInObject then .error (.located b.strict)
    else fail .valueExpected b.strict.offset
  | (key, _) :: _, _ => fail .valueExpected key.start

/-- A variant without contents: its name, or an object with its name and null. -/
def decodeVariant {α : Type} (variants : List (String × α)) : Decoder α := fun r node =>
  match node with
  | .text .. => decodeTextAs "" (variantOf variants) r node
  | .object start members ending => do
    let inner ← r.enter start
    match members with
    | [] => do
      ending.check
      fail .valueExpected ending.stop
    | (key, value) :: rest => do
      let name ← locate key.name
      match variantOf variants name with
      | .error m => mismatch m key.stop
      | .ok a => do
        decodeNull inner value
        endOfOnly rest ending
        return a
  | .plain start _ _ => fail .valueExpected (start + 1)
  | .list start _ _ => fail .valueExpected (start + 1)
  | .absent b => .error (.located b.strict)

/-! ## Values of any shape -/

def faultOf? {α : Type} : Except Fault α → Option Fault
  | .ok _ => none
  | .error f => some f

def Ending.strictFault? : Ending → Option Fault
  | .closed _ => none
  | .broken b => some b.strict

mutual

/-- The first fault that a strict reader sees in a node that it reads whatever its shape. -/
def Node.strictFault? (depth : Nat) : Node → Option Fault
  | .text _ _ s => faultOf? s.strict
  | .plain _ _ v => faultOf? v.strict
  | .list start items ending =>
    match depth with
    | 0 => some ⟨.tooDeep, start + 1⟩
    | depth + 1 => (itemsFault? depth items).or ending.strictFault?
  | .object start members ending =>
    match depth with
    | 0 => some ⟨.tooDeep, start + 1⟩
    | depth + 1 => (membersFault? depth members).or ending.strictFault?
  | .absent b => some b.strict

def itemsFault? (depth : Nat) : List Node → Option Fault
  | [] => none
  | item :: items => (item.strictFault? depth).or (itemsFault? depth items)

def membersFault? (depth : Nat) : List (Key × Node) → Option Fault
  | [] => none
  | (key, value) :: members =>
    ((faultOf? key.name).or (value.strictFault? depth)).or (membersFault? depth members)

end

/-- Reads a node whatever its shape, then takes what it wants of it. What it does not want is a
mismatch that shows further out. -/
def decodeAny {α : Type} (unwanted : Shape.Mismatch) (take : Node → Option α) : Decoder α :=
  fun r node =>
    match node.strictFault? r.depth with
    | some f => .error (.located f)
    | none =>
      match take node with
      | some a => .ok a
      | none => .error (.floating unwanted node.stop)

/-! ## Structures -/

/-- A field of a structure under construction. In the list form a field that `mayLack` may be
missing at the end. -/
structure Slot (σ : Type) where
  name : String
  mayLack : Bool
  isFilled : σ → Bool
  fill : Reader → Node → σ → Except Failure σ

def Slot.of {σ α : Type} (name : String) (mayLack : Bool) (decode : Decoder α)
    (get : σ → Option α) (set : α → σ → σ) : Slot σ where
  name
  mayLack
  isFilled s := (get s).isSome
  fill r node s := (decode r node).map (set · s)

/-- How a structure is built: its title in messages, its fields in order, and what the filled
fields give. -/
structure Layout (σ α : Type) where
  title : String
  slots : List (Slot σ)
  empty : σ
  build : σ → Except Shape.Mismatch α

/-- Where a reader stands that tries to leave an object from an offset on. -/
def leaveObject (text : List Char) (offset : Nat) : Nat :=
  match skipGaps offset 0 text with
  | (here, '\x7d' :: _) => here + 1
  | (here, _) => here

/-- Where a reader stands that tries to leave a list from an offset on. -/
def leaveList (text : List Char) (offset : Nat) : Nat :=
  match skipGaps offset 0 text with
  | (here, ']' :: _) => here + 1
  | (here, ',' :: _) => (skipGaps (here + 1) 0 text).1
  | (here, _) => here

/-- Locates a mismatch where the reader has left the list or object around it. -/
def settle {α : Type} (leave : Nat → Nat) : Except Failure α → Except Failure α
  | .error (.floating m offset) => mismatch m (leave offset)
  | r => r

/-- Reads one member: a known field is filled once, anything else is passed over. -/
def fillMember {σ : Type} (slots : List (Slot σ)) (r : Reader) (s : σ) (member : Key × Node) :
    Except Failure σ := do
  let name ← locate member.1.name
  match slots.find? (·.name == name) with
  | some slot =>
    if slot.isFilled s then .error (.floating (.duplicateField name) member.1.stop)
    else slot.fill r member.2 s
  | none =>
    match member.2.lenientFault? with
    | some f => .error (.located f)
    | none => .ok s

/-- Reads the fields in order from the items of a list. `count` fields stand before these. -/
def fillItems {σ : Type} (expected : String) (r : Reader) (ending : Ending) (count : Nat) :
    List (Slot σ) → List Node → σ → Except Failure (List Node × σ)
  | [], items, s => .ok (items, s)
  | slot :: slots, item :: items, s => do
    fillItems expected r ending (count + 1) slots items (← slot.fill r item s)
  | slot :: slots, [], s => do
    ending.check
    if slot.mayLack then fillItems expected r ending (count + 1) slots [] s
    else .error (.floating (.wrongLength count expected) (ending.stop - 1))

/-- The offset at which the first octet of a node shows. -/
def Node.shown : Node → Nat
  | .text start _ _ => start + 1
  | .plain start _ _ => start + 1
  | .list start _ _ => start + 1
  | .object start _ _ => start + 1
  | .absent b => b.strict.offset

/-- The end of a list all of whose fields have been read: nothing may be left. -/
def endOfItems (left : List Node) (ending : Ending) : Except Failure Unit :=
  match left, ending with
  | [], .closed _ => .ok ()
  | [], .broken b =>
    if b.strict.cause == .endInList then .error (.located b.strict)
    else fail .trailingCharacters b.strict.offset
  | .absent b :: _, _ =>
    if b.strict.cause == .trailingComma then .error (.located b.strict)
    else fail .trailingCharacters b.strict.offset
  | item :: _, _ => fail .trailingCharacters item.shown

/-- A mismatch found at an offset. -/
def float {α : Type} (offset : Nat) : Except Shape.Mismatch α → Except Failure α
  | .ok a => .ok a
  | .error m => .error (.floating m offset)

/-- Reads an object by field names, or a list by the order of fields. -/
def decodeStruct {σ α : Type} (layout : Layout σ α) : Decoder α := fun r node =>
  let count := layout.slots.length
  let expected := "struct " ++ layout.title
  match node with
  | .object start members ending => do
    let inner ← r.enter start
    settle (leaveObject r.text) do
      let s ← members.foldlM (fillMember layout.slots inner) layout.empty
      ending.check
      float (ending.stop - 1) (layout.build s)
  | .list start items ending => do
    let inner ← r.enter start
    let expected :=
      if count == 1 then expected ++ " with 1 element"
      else expected ++ " with " ++ toString count ++ " elements"
    settle (leaveList r.text) do
      let (left, s) ← fillItems expected inner ending 0 layout.slots items layout.empty
      endOfItems left ending
      float (ending.stop - 1) (layout.build s)
  | node => refuse expected node

/-! ## Documents -/

/-- Reads a whole text; nothing may follow the value. -/
def decode {α : Type} (decoder : Decoder α) (text : String) : Except Fault α :=
  let chars := text.toList
  let document := Document.ofText chars
  match decoder { text := chars, depth := maxDepth } document.root, document.trailing with
  | .ok a, none => .ok a
  | .ok _, some f => .error f
  | .error (.located f), _ => .error f
  | .error (.floating m offset), _ => .error ⟨.mismatch m, offset⟩

end FeedSearch.Json
