import SvgSkeleton.Json.Reader
import SvgSkeleton.Text.Unseen

/-!
Reading values that must have a given shape. A value of another shape is a fault, which shows what
was found; a list or an object is not read for that, any other value is.
-/

namespace SvgSkeleton.Json

/-- A number as messages show it. -/
def Number.found : Number → String
  | .whole value => "integer " ++ inGraves (toString value)
  | .float negative magnitude =>
    "floating point " ++ inGraves ((if negative then "-" else "") ++ magnitude.scientificText)

/-- The fault of a value that begins with `s` and is not what was expected. -/
def mismatch {α : Type} {n : Nat} (expected : String) (s : List Char) : Scan α n :=
  let wrong (found : String) (rest : List Char) : Scan α n :=
    faultBehind (.wrongType found expected) rest
  let after (found : String) (word : String) (r : List Char) : Scan α n :=
    match keyword () (r.length + 1) word.toList r (Nat.lt_succ_self _) with
    | .error f => .error f
    | .ok p => wrong found p.rest
  let number (negative : Bool) (r : List Char) : Scan α n :=
    match numberBody negative r with
    | .error f => .error f
    | .ok p => wrong p.value.found p.rest
  match s with
  | [] => fault .endInValue []
  | 'n' :: r => after "null" "ull" r
  | 't' :: r => after "boolean `true`" "rue" r
  | 'f' :: r => after "boolean `false`" "alse" r
  | '-' :: r => number true r
  | '"' :: r =>
    match stringBody r with
    | .error f => .error f
    | .ok p => wrong ("string " ++ Text.quoted p.value) p.rest
  | '[' :: _ => wrong "sequence" s
  | '\x7b' :: _ => wrong "map" s
  | c :: _ => if c.isDigit then number false s else fault .valueExpected s

/-- A string. -/
def stringValue : ValueReader String := fun s =>
  match next? s with
  | some ⟨'"', r, h⟩ => (stringBody r).map (Parsed.below h)
  | _ => mismatch "a string" (skipGap s)

/-- A boolean. -/
def boolValue : ValueReader Bool := fun s =>
  match next? s with
  | some ⟨'t', r, h⟩ => keyword true s.length "rue".toList r h
  | some ⟨'f', r, h⟩ => keyword false s.length "alse".toList r h
  | _ => mismatch "a boolean" (skipGap s)

/-- The natural number that a number is. -/
def naturalOf {n : Nat} (p : Parsed Number n) : Scan Nat n :=
  match p.value with
  | .whole (.ofNat v) => .ok (p.map fun _ => v)
  | .whole v => faultBehind (.wrongValue (Number.whole v).found "usize") p.rest
  | v => faultBehind (.wrongType v.found "usize") p.rest

/-- A whole number that is not negative. -/
def naturalValue : ValueReader Nat := fun s =>
  match next? s with
  | some ⟨'-', r, h⟩ =>
    match numberBody true r with
    | .error f => .error f
    | .ok p => naturalOf (p.below h)
  | some ⟨c, r, h⟩ =>
    if c.isDigit then
      match numberBody false (c :: r) with
      | .error f => .error f
      | .ok p => naturalOf (p.within h)
    else mismatch "usize" (c :: r)
  | none => mismatch "usize" []

/-- A number. -/
def numberValue : ValueReader Number := fun s =>
  match next? s with
  | some ⟨'-', r, h⟩ => (numberBody true r).map (Parsed.below h)
  | some ⟨c, r, h⟩ =>
    if c.isDigit then (numberBody false (c :: r)).map (Parsed.within h)
    else mismatch "a JSON number" (c :: r)
  | none => mismatch "a JSON number" []

/-- A value that may be `null`. -/
def optional {α : Type} (read : ValueReader α) : ValueReader (Option α) := fun s =>
  match next? s with
  | some ⟨'n', r, h⟩ => keyword none s.length "ull".toList r h
  | _ => (read s).map (Parsed.map some)

/-- The number that a text holds. -/
def parseNumber (text : String) : Except SyntaxError Number := whole numberValue text

end SvgSkeleton.Json
