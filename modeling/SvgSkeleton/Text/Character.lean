/-!
Characters and their bytes: white space in the sense of the Unicode property `White_Space`, the
digits with the numbers that they write, and the characters of the names that a manifest may give to
its variables.

A byte sequence that is not UTF-8 can still be shown as text: each longest piece that could begin a
character, and does not become one, is replaced by U+FFFD.
-/

namespace SvgSkeleton.Text

/-! ### Classes of characters -/

/-- The code points with the property `White_Space`, as closed ranges. -/
def blankRanges : List (Nat × Nat) :=
  [(0x09, 0x0D), (0x20, 0x20), (0x85, 0x85), (0xA0, 0xA0), (0x1680, 0x1680), (0x2000, 0x200A),
   (0x2028, 0x2029), (0x202F, 0x202F), (0x205F, 0x205F), (0x3000, 0x3000)]

/-- Does the character have the property `White_Space`? -/
def isBlank (c : Char) : Bool :=
  blankRanges.any fun r => r.1 ≤ c.toNat && c.toNat ≤ r.2

/-- The text without the blanks it begins with. -/
def trimStart (s : List Char) : List Char := s.dropWhile isBlank

/-- The text without the blanks it begins or ends with. -/
def trim (s : List Char) : List Char := (trimStart (trimStart s).reverse).reverse

/-- The value of an ASCII digit. -/
def digitValue (c : Char) : Nat := c.toNat - '0'.toNat

/-- The value of a hexadecimal digit. -/
def hexValue (c : Char) : Option Nat :=
  if c.isDigit then some (digitValue c)
  else if 'a' ≤ c ∧ c ≤ 'f' then some (c.toNat - 'a'.toNat + 10)
  else if 'A' ≤ c ∧ c ≤ 'F' then some (c.toNat - 'A'.toNat + 10)
  else none

/-- The number that ASCII digits write in a base of at most ten. -/
def ofDigits (base : Nat) (digits : List Char) : Nat :=
  digits.foldl (fun n c => n * base + digitValue c) 0

/-- May the character begin a name? -/
def isNameStart (c : Char) : Bool := c.isAlpha || c == '_'

/-- May the character stand inside a name? -/
def isNameChar (c : Char) : Bool := c.isAlphanum || c == '_' || c == '-'

/-- Is the text an ASCII letter or `_`, followed by ASCII letters, digits, `_` and `-`? -/
def isName : List Char → Bool
  | [] => false
  | c :: r => isNameStart c && r.all isNameChar

/-- Is the text a name that a variable may have? -/
def isIdentifier (s : String) : Bool := isName s.toList

/-! ### UTF-8 -/

/-- The bytes of a text. -/
def bytesOf (s : String) : List UInt8 := s.toUTF8.data.toList

/-- The text whose UTF-8 form the bytes are. -/
def decode? (bytes : ByteArray) : Option String := String.fromUTF8? bytes

/-- What may follow the bytes of a character read so far. -/
inductive Pending where
  /-- No character is begun. -/
  | none
  /-- `owed` more bytes are due, the next of them from `low` to `high`; `code` holds the bits
  so far. -/
  | some (owed low high code : Nat)

/-- The characters shown and the state after one more byte, from between characters. -/
def firstByte (b : Nat) : List Char × Pending :=
  if b ≤ 0x7F then ([Char.ofNat b], .none)
  else if 0xC2 ≤ b ∧ b ≤ 0xDF then ([], .some 1 0x80 0xBF (b - 0xC0))
  else if b = 0xE0 then ([], .some 2 0xA0 0xBF 0)
  else if b = 0xED then ([], .some 2 0x80 0x9F 0xD)
  else if 0xE1 ≤ b ∧ b ≤ 0xEF then ([], .some 2 0x80 0xBF (b - 0xE0))
  else if b = 0xF0 then ([], .some 3 0x90 0xBF 0)
  else if 0xF1 ≤ b ∧ b ≤ 0xF3 then ([], .some 3 0x80 0xBF (b - 0xF0))
  else if b = 0xF4 then ([], .some 3 0x80 0x8F 4)
  else (['\uFFFD'], .none)

/-- The characters shown and the state after one more byte. -/
def nextByte (p : Pending) (b : Nat) : List Char × Pending :=
  match p with
  | .none => firstByte b
  | .some owed low high code =>
    if low ≤ b ∧ b ≤ high then
      let code := code * 64 + (b - 0x80)
      if owed ≤ 1 then ([Char.ofNat code], .none) else ([], .some (owed - 1) 0x80 0xBF code)
    else
      let (shown, p) := firstByte b
      ('\uFFFD' :: shown, p)

/-- The bytes as text, with U+FFFD for what is not UTF-8. -/
def decodeLossy (bytes : List UInt8) : String :=
  let (shown, p) := bytes.foldl (fun (shown, p) b =>
    let (new, p) := nextByte p b.toNat
    (new.reverse ++ shown, p)) (([] : List Char), Pending.none)
  match p with
  | .none => String.ofList shown.reverse
  | .some .. => String.ofList ('\uFFFD' :: shown).reverse

end SvgSkeleton.Text
