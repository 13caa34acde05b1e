import SvgSkeleton.Json.Scanner
import SvgSkeleton.Json.Value

/-!
Reading a JSON text. Lists and objects may be nested 127 deep; an object that repeats a key keeps
the first place and the last value. `parse` reads one value and nothing after it.
-/

namespace SvgSkeleton.Json

/-- A reader of values, whatever may stand before them. -/
abbrev ValueReader (α : Type) := (s : List Char) → Scan α s.length

/-- The rest of a list, from behind one of its items; `read` holds the items in reverse. -/
def listRest (item : ValueReader Json) (bound : Nat) (read : List Json) (s : List Char)
    (h : s.length < bound) : Scan (List Json) bound :=
  match next? s with
  | none => fault .endInList []
  | some ⟨']', r, hr⟩ => .ok (Parsed.below h ⟨read.reverse, r, hr⟩)
  | some ⟨',', r, hr⟩ =>
    match next? r with
    | none => fault .endInValue []
    | some ⟨']', t, _⟩ => fault .trailingComma (']' :: t)
    | some _ =>
      match item r with
      | .error e => .error e
      | .ok ⟨v, t, ht⟩ =>
        have hts : t.length < s.length := Nat.lt_trans ht hr
        listRest item bound (v :: read) t (Nat.lt_trans hts h)
  | some ⟨c, r, _⟩ => fault .listCommaOrEndExpected (c :: r)
termination_by s.length

/-- A list, from behind its opening bracket. -/
def listBody (item : ValueReader Json) (s : List Char) : Scan (List Json) s.length :=
  match next? s with
  | none => fault .endInList []
  | some ⟨']', r, hr⟩ => .ok ⟨[], r, hr⟩
  | some _ =>
    match item s with
    | .error e => .error e
    | .ok ⟨v, t, ht⟩ => listRest item s.length [v] t ht

/-- A value behind a colon. -/
def valueAfterColon {α : Type} (item : ValueReader α) (s : List Char) : Scan α s.length :=
  match next? s with
  | none => fault .endInObject []
  | some ⟨':', r, hr⟩ => (item r).map (Parsed.below hr)
  | some ⟨c, r, _⟩ => fault .colonExpected (c :: r)

/-- A member of an object, from behind the opening quote of its key. -/
def member {α : Type} (item : ValueReader α) (s : List Char) : Scan (String × α) s.length :=
  match stringBody s with
  | .error e => .error e
  | .ok ⟨key, r, hr⟩ =>
    (valueAfterColon item r).map fun p => (p.map (key, ·)).below hr

/-- The rest of an object, from behind one of its members. What has been made of the members so
far is `done`; `one` reads a member, from behind the opening quote of its key, and goes on. -/
def objectRest {σ : Type} (one : σ → ValueReader σ) (bound : Nat) (done : σ) (s : List Char)
    (h : s.length < bound) : Scan σ bound :=
  match next? s with
  | none => fault .endInObject []
  | some ⟨'\x7d', r, hr⟩ => .ok (Parsed.below h ⟨done, r, hr⟩)
  | some ⟨',', r, hr⟩ =>
    match next? r with
    | none => fault .endInValue []
    | some ⟨'\x7d', t, _⟩ => fault .trailingComma ('\x7d' :: t)
    | some ⟨'"', t, ht⟩ =>
      match one done t with
      | .error e => .error e
      | .ok ⟨more, u, hu⟩ =>
        have hus : u.length < s.length := Nat.lt_trans hu (Nat.lt_trans ht hr)
        objectRest one bound more u (Nat.lt_trans hus h)
    | some ⟨c, t, _⟩ => fault .keyNotString (c :: t)
  | some ⟨c, r, _⟩ => fault .objectCommaOrEndExpected (c :: r)
termination_by s.length

/-- An object, from behind its opening brace. -/
def objectBody {σ : Type} (one : σ → ValueReader σ) (start : σ) (s : List Char) :
    Scan σ s.length :=
  match next? s with
  | none => fault .endInObject []
  | some ⟨'\x7d', r, hr⟩ => .ok ⟨start, r, hr⟩
  | some ⟨'"', r, hr⟩ =>
    match one start r with
    | .error e => .error e
    | .ok ⟨done, t, ht⟩ => objectRest one s.length done t (Nat.lt_trans ht hr)
  | some ⟨c, r, _⟩ => fault .keyNotString (c :: r)

/-- A member of an object, put in after those that are there. -/
def insertMember (item : ValueReader Json) (done : Members) : ValueReader Members := fun s =>
  (member item s).map (Parsed.map fun m => done.insert m.1 m.2)

/-- A value inside which `depth` lists and objects may be nested. -/
def value (depth : Nat) (s : List Char) : Scan Json s.length :=
  match next? s with
  | none => fault .endInValue []
  | some ⟨c, r, h⟩ =>
    match c with
    | 'n' => keyword .null s.length "ull".toList r h
    | 't' => keyword (.bool true) s.length "rue".toList r h
    | 'f' => keyword (.bool false) s.length "alse".toList r h
    | '"' => (stringBody r).map fun p => (p.map .string).below h
    | '-' => (numberBody true r).map fun p => (p.map .number).below h
    | '[' =>
      match depth with
      | 0 => fault .tooDeep (c :: r)
      | depth + 1 => (listBody (value depth) r).map fun p => (p.map .array).below h
    | '\x7b' =>
      match depth with
      | 0 => fault .tooDeep (c :: r)
      | depth + 1 =>
        (objectBody (insertMember (value depth)) [] r).map fun p => (p.map .object).below h
    | c =>
      if c.isDigit then
        (numberBody false (c :: r)).map fun p => (p.map .number).within h
      else fault .valueExpected (c :: r)

/-- How deep lists and objects may be nested. -/
def depthLimit : Nat := 127

/-- A value read by itself from a text: nothing but a gap may follow it. -/
def whole {α : Type} (read : ValueReader α) (text : String) : Except SyntaxError α :=
  let s := text.toList
  match read s with
  | .error f => .error (f.locate s)
  | .ok p =>
    match skipGap p.rest with
    | [] => .ok p.value
    | r => .error (Fault.locate ⟨.trailingCharacters, r, 1⟩ s)

/-- The value that a text holds. -/
def parse (text : String) : Except SyntaxError Json := whole (value depthLimit) text

end SvgSkeleton.Json
