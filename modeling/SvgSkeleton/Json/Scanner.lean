import SvgSkeleton.Json.Fault
import SvgSkeleton.Json.Value

/-!
The words of a JSON text: blanks, the three literal names, strings and numbers. Every scanner
takes the text from where it stands and returns a value with the text that follows it, which is
shorter; a fault carries the text from where it was found.
-/

namespace SvgSkeleton.Json

/-- A value read off the front of a text, and what follows it. -/
structure Parsed (α : Type) (bound : Nat) where
  value : α
  rest : List Char
  shorter : rest.length < bound

namespace Parsed

/-- What is shorter than the one bound is shorter than a larger one. -/
def within {α : Type} {m n : Nat} (h : m ≤ n) (p : Parsed α m) : Parsed α n :=
  ⟨p.value, p.rest, Nat.lt_of_lt_of_le p.shorter h⟩

/-- What is shorter than a shorter text is shorter than the longer one. -/
def below {α : Type} {m n : Nat} (h : m < n) (p : Parsed α m) : Parsed α n :=
  p.within (Nat.le_of_lt h)

def map {α β : Type} {n : Nat} (f : α → β) (p : Parsed α n) : Parsed β n :=
  ⟨f p.value, p.rest, p.shorter⟩

end Parsed

/-- The outcome of scanning a text that is shorter than `bound`, or of that length. -/
abbrev Scan (α : Type) (bound : Nat) := Except Fault (Parsed α bound)

/-- A fault at what is left of the text, with `ahead` bytes of it counted in. -/
def faultAhead {α : Type} {n : Nat} (ahead : Nat) (reason : Reason) (rest : List Char) : Scan α n :=
  .error ⟨reason, rest, ahead⟩

/-- A fault at the next byte, which is counted in. -/
def fault {α : Type} {n : Nat} (reason : Reason) (rest : List Char) : Scan α n :=
  faultAhead 1 reason rest

/-- A fault of what has just been read. -/
def faultBehind {α : Type} {n : Nat} (reason : Reason) (rest : List Char) : Scan α n :=
  faultAhead 0 reason rest

/-- The four characters that may stand between words. -/
def isGap (c : Char) : Bool := c == ' ' || c == '\t' || c == '\n' || c == '\r'

/-- The text without the gap it begins with. -/
def skipGap (s : List Char) : List Char := s.dropWhile isGap

theorem length_dropWhile_le {α : Type} (p : α → Bool) (s : List α) :
    (s.dropWhile p).length ≤ s.length :=
  (List.dropWhile_sublist p).length_le

theorem length_lt_of_skipGap {s r : List Char} {c : Char} (h : skipGap s = c :: r) :
    r.length < s.length := by
  have := length_dropWhile_le isGap s
  rwa [show s.dropWhile isGap = c :: r from h] at this

/-- The first character behind the gap, and what follows it. -/
def next? (s : List Char) : Option (Parsed Char s.length) :=
  match h : skipGap s with
  | [] => none
  | c :: r => some ⟨c, r, length_lt_of_skipGap h⟩

/-- The text after a literal name. -/
def keyword {α : Type} (value : α) (bound : Nat) :
    List Char → (s : List Char) → s.length < bound → Scan α bound
  | [], s, h => .ok ⟨value, s, h⟩
  | _ :: _, [], _ => fault .endInValue []
  | k :: word, c :: r, h =>
    if c = k then keyword value bound word r (by simp only [List.length_cons] at h; omega)
    else fault .identExpected (c :: r)

/-! ### Strings -/

/-- Four hexadecimal digits. A text of fewer bytes ends too early. -/
def hexDigits (s : List Char) : Scan Nat s.length :=
  if byteCount (s.take 4) < 4 then fault .endInString []
  else
    match s with
    | a :: b :: c :: d :: r =>
      match Text.hexValue a, Text.hexValue b, Text.hexValue c, Text.hexValue d with
      | some a, some b, some c, some d =>
        .ok ⟨((a * 16 + b) * 16 + c) * 16 + d, r, by simp only [List.length_cons]; omega⟩
      | _, _, _, _ => faultAhead 4 .invalidEscape (a :: b :: c :: d :: r)
    | s => faultAhead 4 .invalidEscape s

/-- The second half of a surrogate pair whose first half is `high`. -/
def lowSurrogate (high : Nat) (s : List Char) : Scan Char s.length :=
  match s with
  | [] => fault .endInString []
  | '\\' :: [] => fault .endInString []
  | '\\' :: 'u' :: r =>
    match hexDigits r with
    | .error e => .error e
    | .ok ⟨low, t, ht⟩ =>
      if 0xDC00 ≤ low ∧ low ≤ 0xDFFF then
        let code := (high - 0xD800) * 1024 + (low - 0xDC00) + 0x10000
        .ok ⟨Char.ofNat code, t, by simp only [List.length_cons]; omega⟩
      else faultBehind .loneSurrogate t
  | '\\' :: r => fault .hexEscapeCutShort r
  | s => fault .hexEscapeCutShort s

/-- The character that an escape stands for, read from behind the backslash. -/
def escape (s : List Char) : Scan Char s.length :=
  match s with
  | [] => fault .endInString []
  | c :: r =>
    let plain (x : Char) : Scan Char (c :: r).length := .ok ⟨x, r, by simp⟩
    match c with
    | '"' => plain '"'
    | '\\' => plain '\\'
    | '/' => plain '/'
    | 'b' => plain '\x08'
    | 'f' => plain '\x0c'
    | 'n' => plain '\n'
    | 'r' => plain '\r'
    | 't' => plain '\t'
    | 'u' =>
      match hexDigits r with
      | .error e => .error e
      | .ok ⟨code, t, ht⟩ =>
        have ht : t.length < (c :: r).length := Nat.lt_succ_of_lt ht
        if 0xDC00 ≤ code ∧ code ≤ 0xDFFF then faultBehind .loneSurrogate t
        else if 0xD800 ≤ code ∧ code ≤ 0xDBFF then
          (lowSurrogate code t).map (Parsed.below ht)
        else .ok ⟨Char.ofNat code, t, ht⟩
    | _ => fault .invalidEscape (c :: r)

/-- The rest of a string, from behind its opening quote or a later character; `read` holds what
is read of it, in reverse. -/
def stringRest (bound : Nat) (read : List Char) (s : List Char) (h : s.length ≤ bound) :
    Scan String bound :=
  match s with
  | [] => fault .endInString []
  | '"' :: r => .ok ⟨String.ofList read.reverse, r, by simp only [List.length_cons] at h; omega⟩
  | '\\' :: r =>
    match escape r with
    | .error e => .error e
    | .ok ⟨x, t, ht⟩ =>
      stringRest bound (x :: read) t (by simp only [List.length_cons] at h; omega)
  | c :: r =>
    if c.toNat < 0x20 then fault .controlCharacter (c :: r)
    else stringRest bound (c :: read) r (by simp only [List.length_cons] at h; omega)
termination_by s.length

/-- A string, from behind its opening quote. -/
def stringBody (s : List Char) : Scan String s.length :=
  stringRest s.length [] s (Nat.le_refl _)

/-! ### Numbers -/

/-- The number, unless it is out of range; the fault counts all that was read. -/
def inRange {n : Nat} (value : Option Number) (rest : List Char) (h : rest.length < n) :
    Scan Number n :=
  match value with
  | some v => .ok ⟨v, rest, h⟩
  | none => faultBehind .numberOutOfRange rest

/-- The text behind the first digit that takes an exponent over 2^31 - 1. -/
def exponentOverflow? (value : Nat) : List Char → Option (List Char)
  | [] => none
  | c :: r =>
    if c.isDigit then
      let v := value * 10 + Text.digitValue c
      if v < 1 <<< 31 then exponentOverflow? v r else some r
    else none

/-- The digits of an exponent, its sign known. -/
def exponentDigits (negative below : Bool) (sig : Significand) (s : List Char) :
    Scan Number (s.length + 1) :=
  match s with
  | [] => fault .endInValue []
  | c :: r =>
    if !c.isDigit then fault .invalidNumber (c :: r)
    else
      let s := c :: r
      let rest := s.dropWhile Char.isDigit
      have h : rest.length < s.length + 1 := Nat.lt_succ_of_le (length_dropWhile_le Char.isDigit s)
      let value := Text.ofDigits 10 (s.takeWhile Char.isDigit)
      let sig' : Significand :=
        ⟨sig.value, if below then sig.exponent - value else sig.exponent + value⟩
      match exponentOverflow? 0 s with
      | none => inRange (Number.ofSignificand negative sig') rest h
      | some stop =>
        if !below && sig.value != 0 then faultBehind .numberOutOfRange stop
        else .ok ⟨.float negative Binary64.zero, rest, h⟩

/-- An exponent, from behind its letter. -/
def exponentPart (negative : Bool) (sig : Significand) (s : List Char) :
    Scan Number (s.length + 1) :=
  match s with
  | '+' :: r =>
    (exponentDigits negative false sig r).map
      (Parsed.within (by simp only [List.length_cons]; omega))
  | '-' :: r =>
    (exponentDigits negative true sig r).map
      (Parsed.within (by simp only [List.length_cons]; omega))
  | s => exponentDigits negative false sig s

/-- Is it the letter before an exponent? -/
def isExponentMark (c : Char) : Bool := c == 'e' || c == 'E'

/-- The digits behind a decimal point, and an exponent if there is one. -/
def fractionPart (negative : Bool) (sig : Significand) (s : List Char) :
    Scan Number (s.length + 1) :=
  let digits := s.takeWhile Char.isDigit
  let rest := s.dropWhile Char.isDigit
  have h : rest.length ≤ s.length := length_dropWhile_le Char.isDigit s
  let sig := sig.withFraction digits
  match hr : rest, digits with
  | [], [] => fault .endInValue []
  | c :: r, [] => fault .invalidNumber (c :: r)
  | [], _ :: _ => inRange (Number.ofSignificand negative sig) [] (by simp)
  | c :: r, _ :: _ =>
    have h' : r.length + 1 ≤ s.length := h
    if isExponentMark c then
      (exponentPart negative sig r).map (Parsed.within (by omega))
    else
      inRange (Number.ofSignificand negative sig) (c :: r)
        (by simp only [List.length_cons]; omega)

/-- Does the text begin with a digit? -/
def startsWithDigit : List Char → Bool
  | [] => false
  | c :: _ => c.isDigit

/-- A number, from behind its minus sign if it has one. -/
def numberBody (negative : Bool) (s : List Char) : Scan Number s.length :=
  match s with
  | [] => fault .endInValue []
  | c :: r =>
    if !c.isDigit then fault .invalidNumber (c :: r)
    else if c == '0' && startsWithDigit r then fault .invalidNumber r
    else
      let sig := Significand.ofWhole (c :: r.takeWhile Char.isDigit)
      let rest := r.dropWhile Char.isDigit
      have h : rest.length ≤ r.length := length_dropWhile_le Char.isDigit r
      match hr : rest with
      | [] => inRange (Number.ofInteger negative sig) [] (by simp)
      | d :: t =>
        have h' : t.length + 1 ≤ r.length := h
        if d == '.' then
          (fractionPart negative sig t).map
            (Parsed.within (by simp only [List.length_cons]; omega))
        else if isExponentMark d then
          (exponentPart negative sig t).map
            (Parsed.within (by simp only [List.length_cons]; omega))
        else inRange (Number.ofInteger negative sig) (d :: t)
          (by simp only [List.length_cons]; omega)

end SvgSkeleton.Json
