import SvgSkeleton.Binary64
import SvgSkeleton.Text.Character

/-!
JSON values, and the numbers among them. Whole numbers from -2^63 to 2^64 - 1 are kept exactly; all
others are binary64, read digit by digit into a significand of 64 bits and scaled once at the end.
The members of an object stand in the order in which their keys first appeared.
-/

namespace SvgSkeleton.Json

/-! ### Numbers -/

/-- A number as the text wrote it: whole and exact, or a signed binary64 magnitude. -/
inductive Number where
  | whole (value : Int)
  | float (negative : Bool) (magnitude : Binary64)
  deriving DecidableEq, Repr

/-- The number `value * 10 ^ exponent`, as far as the digits read so far give it. -/
structure Significand where
  value : Nat
  exponent : Int
  deriving DecidableEq, Repr

namespace Significand

/-- The digits before the point. The first digit that does not fit into 64 bits and all after it
only raise the exponent. -/
def ofWhole (digits : List Char) : Significand :=
  digits.foldl (fun s c =>
    let v := s.value * 10 + Text.digitValue c
    if s.exponent = 0 ∧ v < 1 <<< 64 then ⟨v, 0⟩ else ⟨s.value, s.exponent + 1⟩) ⟨0, 0⟩

/-- The digits after the point, up to the first that does not fit into 64 bits. -/
def withFraction (s : Significand) : List Char → Significand
  | [] => s
  | c :: r =>
    let v := s.value * 10 + Text.digitValue c
    if v < 1 <<< 64 then withFraction ⟨v, s.exponent - 1⟩ r else s

end Significand

namespace Number

/-- The number `value * 10 ^ exponent` as binary64, or nothing where it is out of range. -/
def ofSignificand (negative : Bool) (s : Significand) : Option Number :=
  ((Binary64.ofNat s.value).bind (·.scale s.exponent)).map (.float negative)

/-- The number written without point and exponent. A minus sign before zero, or before more than
2^63, makes it binary64. -/
def ofInteger (negative : Bool) (s : Significand) : Option Number :=
  if s.exponent = 0 ∧ !negative then some (.whole s.value)
  else if s.exponent = 0 ∧ 0 < s.value ∧ s.value ≤ 1 <<< 63 then some (.whole (-s.value))
  else ofSignificand negative s

/-- The number in plain decimal notation: never an exponent, and no point after a whole value. -/
def text : Number → String
  | .whole value => toString value
  | .float negative magnitude => (if negative then "-" else "") ++ magnitude.text

end Number
end SvgSkeleton.Json

namespace SvgSkeleton

/-! ### Values -/

inductive Json where
  | null
  | bool (value : Bool)
  | number (value : Json.Number)
  | string (value : String)
  | array (items : List Json)
  | object (members : List (String × Json))
  deriving Repr

namespace Json

/-- The members of an object in order. -/
abbrev Members := List (String × Json)

/-- The value under a key. -/
def Members.find? (members : Members) (key : String) : Option Json :=
  members.lookup key

/-- The members with the key set to the value: a key that is there keeps its place. -/
def Members.insert (key : String) (value : Json) : Members → Members
  | [] => [(key, value)]
  | m :: r => if m.1 = key then (key, value) :: r else m :: Members.insert key value r

/-- The keys in order. -/
def Members.keys (members : Members) : List String := members.map (·.1)

/-- What kind of value it is, in words. -/
def describe : Json → String
  | .null => "null"
  | .bool _ => "a boolean"
  | .number _ => "a number"
  | .string _ => "a string"
  | .array _ => "an array"
  | .object _ => "an object"

end Json
end SvgSkeleton
