-- Mismatches: well-formed data in which a value of another shape was found
-- than the one that was expected.
import FeedSearch.Number.FloatText
import FeedSearch.Text.Quoted

namespace FeedSearch.Shape

/-- What was found. -/
inductive Found where
  | nothing
  | truth (b : Bool)
  | integer (n : Int)
  /-- A whole number for which 64 bits are too few and 128 bits are enough. -/
  | wideInteger (n : Int)
  | float (bits : UInt64)
  | text (s : String)
  | list
  | table
  deriving DecidableEq, Repr

/-- What is found, in words; `style` says how numbers with a point are written. -/
def Found.describe (style : Number.FloatFormat) : Found → String
  | .nothing => "null"
  | .truth b => "boolean `" ++ (if b then "true" else "false") ++ "`"
  | .integer n => "integer `" ++ toString n ++ "`"
  | .wideInteger n =>
    "integer `" ++ toString n ++ "` as " ++ (if n < Number.signSize128 then "i128" else "u128")
  | .float bits => "floating point `" ++ Number.floatText style bits ++ "`"
  | .text s => "string " ++ Text.quoted s
  | .list => "sequence"
  | .table => "map"

/-- How data and the shape wanted of it differ. -/
inductive Mismatch where
  | wrongType (found : Found) (expected : String)
  | wrongValue (found : Found) (expected : String)
  | wrongLength (length : Nat) (expected : String)
  | missingField (name : String)
  | duplicateField (name : String)
  | unknownVariant (name : String) (known : List String)
  | other (text : String)
  deriving DecidableEq, Repr

/-- The names that would have been right. -/
def knownNames : List String → String
  | [] => "there are no variants"
  | [a] => "expected `" ++ a ++ "`"
  | [a, b] => "expected `" ++ a ++ "` or `" ++ b ++ "`"
  | names => "expected one of " ++ ", ".intercalate (names.map fun n => "`" ++ n ++ "`")

def Mismatch.message (style : Number.FloatFormat) : Mismatch → String
  | .wrongType found expected =>
    "invalid type: " ++ found.describe style ++ ", expected " ++ expected
  | .wrongValue found expected =>
    "invalid value: " ++ found.describe style ++ ", expected " ++ expected
  | .wrongLength n expected => "invalid length " ++ toString n ++ ", expected " ++ expected
  | .missingField name => "missing field `" ++ name ++ "`"
  | .duplicateField name => "duplicate field `" ++ name ++ "`"
  | .unknownVariant name known => "unknown variant `" ++ name ++ "`, " ++ knownNames known
  | .other text => text

end FeedSearch.Shape
