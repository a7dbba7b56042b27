-- Hosts of web addresses: names, and the numbers of machines in their two forms.
import FeedSearch.Http.Domain
import FeedSearch.Http.Percent
import FeedSearch.Number.Numeral

namespace FeedSearch.Http

/-- Where a request goes: to a name, or to a number of 32 bits or of eight groups of 16 bits. -/
inductive Host where
  | name (s : String)
  | v4 (number : Nat)
  | v6 (groups : List Nat)
  deriving DecidableEq, Repr

/-- Why a text names no host. -/
inductive HostFault where
  | empty
  | badName
  | badV4
  | badV6
  deriving DecidableEq, Repr

def HostFault.message : HostFault → String
  | .empty => "empty host"
  | .badName => "invalid international domain name"
  | .badV4 => "invalid IPv4 address"
  | .badV6 => "invalid IPv6 address"

namespace Host

/-! ## Numbers of four octets -/

/-- The number that all of some digits of a base write. -/
def digits? (base : Nat) (digits : List Char) : Option Nat :=
  (digits.mapM fun c => (Text.hexValue? c).filter (· < base)).map
    (·.foldl (fun n d => n * base + d) 0)

/-- A part of a number: `0x` marks sixteen as its base, and a zero before digits eight. -/
def part? : List Char → Option Nat
  | [] => none
  | '0' :: 'x' :: digits => digits? 16 digits
  | ['0'] => some 0
  | '0' :: digits => digits? 8 digits
  | digits => digits? 10 digits

/-- The parts between dots; a dot at the end does not count. -/
def dotted (s : List Char) : List (List Char) :=
  let parts := s.splitOn '.'
  if parts.getLast? == some [] then parts.dropLast else parts

/-- Whether a name ends like a number. -/
def endsInNumber (s : List Char) : Bool :=
  match (dotted s).getLast? with
  | some part => (!part.isEmpty && part.all Char.isDigit) || (part? part).isSome
  | none => false

/-- The number of up to four parts. Each but the last is an octet; the last fills the rest. -/
def v4? (s : List Char) : Option Nat := do
  let parts ← (dotted s).mapM part?
  let last ← parts.getLast?
  let octets := parts.dropLast
  let limit := Number.twoTo (8 * (4 - octets.length))
  if octets.length < 4 && last < limit && octets.all (· < 256) then
    some (octets.foldr (fun o (sum, weight) => (sum + o * weight, weight * 256)) (last, limit)).1
  else none

/-! ## Numbers of eight groups -/

/-- A group: one to four digits of base sixteen. -/
def group? (digits : List Char) : Option Nat :=
  if digits.isEmpty || 4 < digits.length then none else digits? 16 digits

/-- An octet without idle zeros. -/
def octet? (digits : List Char) : Option Nat :=
  if digits.length ≠ 1 && digits.head? == some '0' then none
  else (Number.natural? digits).filter (· < 256)

/-- The last group; four octets with dots stand for two groups. -/
def lastGroups? (s : List Char) : Option (List Nat) :=
  if s.contains '.' then
    match (s.splitOn '.').mapM octet? with
    | some [a, b, c, d] => some [a * 256 + b, c * 256 + d]
    | _ => none
  else (group? s).map fun g => [g]

/-- Groups with colons between them. Octets with dots may stand at the end of the last part. -/
def groups? (isLast : Bool) (s : List Char) : Option (List Nat) :=
  if s.isEmpty then some []
  else
    let parts := s.splitOn ':'
    if isLast then do
      let before ← parts.dropLast.mapM group?
      let last ← lastGroups? (← parts.getLast?)
      return before ++ last
    else parts.mapM group?

/-- Splits at the first two colons in a row. -/
def splitColons : List Char → Option (List Char × List Char)
  | ':' :: ':' :: rest => some ([], rest)
  | c :: rest => (splitColons rest).map fun (before, after) => (c :: before, after)
  | [] => none

/-- Eight groups; two colons stand for one group of zeros or more. -/
def v6? (s : List Char) : Option (List Nat) :=
  match splitColons s with
  | none => (groups? true s).filter (·.length == 8)
  | some (before, after) => do
    let before ← groups? false before
    let after ← groups? true after
    let given := before.length + after.length
    if given < 8 then some (before ++ List.replicate (8 - given) 0 ++ after) else none

/-! ## Text -/

/-- The octets of a number. -/
def v4Text (n : Nat) : String :=
  ".".intercalate ([24, 16, 8, 0].map fun place => toString (n / Number.twoTo place % 256))

def groupText (n : Nat) : String := String.ofList (Nat.toDigits 16 n)

/-- How many zeros stand at the front. -/
def zeros (groups : List Nat) : Nat := (groups.takeWhile (· == 0)).length

/-- The groups, the first of the longest runs of two zeros or more left out. -/
def v6Text (groups : List Nat) : String :=
  let runs := (List.range groups.length).map fun i => zeros (groups.drop i)
  let longest := runs.foldl max 0
  let text (gs : List Nat) := ":".intercalate (gs.map groupText)
  if longest < 2 then text groups
  else
    let start := runs.idxOf longest
    text (groups.take start) ++ "::" ++ text (groups.drop (start + longest))

def text : Host → String
  | .name s => s
  | .v4 n => v4Text n
  | .v6 groups => "[" ++ v6Text groups ++ "]"

/-! ## Reading -/

/-- A name, or the number that it looks like. Escapes in it are read first. -/
def ofName (s : List Char) : Except HostFault Host :=
  let letters := Text.Utf8.decodeLossy (unescape (Text.Utf8.encode (String.ofList s)))
  match Domain.ascii? letters.toList with
  | none => .error .badName
  | some [] => .error .empty
  | some sent =>
    if endsInNumber sent then
      match v4? sent with
      | some n => .ok (.v4 n)
      | none => .error .badV4
    else .ok (.name (String.ofList sent))

/-- The host of a text; a number of eight groups stands in brackets. -/
def ofText (s : List Char) : Except HostFault Host :=
  match s with
  | [] => .error .empty
  | '[' :: rest =>
    match (if rest.getLast? == some ']' then v6? rest.dropLast else none) with
    | some groups => .ok (.v6 groups)
    | none => .error .badV6
  | _ => ofName s

/-- Whether a request can be sent there: some marks that a name may hold stand in no request. -/
def isReachable : Host → Bool
  | .name s => s.toList.all fun c => !(['"', '`', '\x7b', '\x7d'].contains c)
  | _ => true

/-- The most characters of a name of a machine, and of each of its parts. -/
def maxName : Nat := 253

def maxLabel : Nat := 63

def isLabelChar (c : Char) : Bool := c.isAlphanum || c == '-' || c == '_'

/-- Whether a machine can have a name: parts of letters, digits, hyphens and low lines, no hyphen at
the front. A dot at the end does not count; alone it is the name above all others. -/
def isMachineName (name : String) : Bool :=
  let s := name.toList
  let labels := dotted s
  s == ['.'] ||
    (s.head? != some '-' && (List.intercalate ['.'] labels).length ≤ maxName &&
      labels.all fun l => !l.isEmpty && l.length ≤ maxLabel && l.all isLabelChar)

end Host

end FeedSearch.Http
