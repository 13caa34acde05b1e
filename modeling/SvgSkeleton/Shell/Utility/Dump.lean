import SvgSkeleton.Shell.Floating
import SvgSkeleton.Shell.Whole
import SvgSkeleton.Shell.Utility.Options

/-!
`od`: the bytes of files as characters or numbers, in lines of equally many bytes.
-/

namespace SvgSkeleton.Shell.Dump

/-! ### Forms of numbers -/

/-- What some bytes are shown as. -/
inductive Kind where
  | named
  | char
  | signed
  | unsigned
  | octal
  | hexadecimal
  | floating
  deriving DecidableEq

/-- A line for each group of bytes: what they are shown as, how many go together, and do the
characters stand behind? -/
structure Form where
  kind : Kind
  size : Nat
  withText : Bool

/-- How many characters a number of so many bytes takes at most. -/
def Form.width (f : Form) : Nat :=
  let bits := 8 * f.size
  match f.kind with
  | .named | .char => 3
  | .octal => (bits + 2) / 3
  | .hexadecimal => 2 * f.size
  | .unsigned => (Nat.toDigits 10 (1 <<< bits - 1)).length
  | .signed => (Nat.toDigits 10 (1 <<< (bits - 1))).length + 1
  | .floating => if f.size = 4 then 15 else if f.size = 8 then 24 else 29

/-- The names of the characters that are not shown. -/
def charNames : List String :=
  ["nul", "soh", "stx", "etx", "eot", "enq", "ack", "bel", "bs", "ht", "nl", "vt", "ff", "cr",
   "so", "si", "dle", "dc1", "dc2", "dc3", "dc4", "nak", "syn", "etb", "can", "em", "sub", "esc",
   "fs", "gs", "rs", "us", "sp"]

/-- Digits with zeros in front of them. -/
def zeroPadded (width : Nat) (ds : Bytes) : Bytes := List.replicate (width - ds.length) '0' ++ ds

/-- The number that bytes write. -/
def numberOf (bigEndian : Bool) (s : Bytes) : Nat :=
  (if bigEndian then s else s.reverse).foldl (fun n c => n * 256 + c.toNat) 0

/-- The number with a fraction that bits write: how many bits the exponent and the fraction have is
given. -/
def floatingOf (exponentBits fractionBits n : Nat) : Floating :=
  let fraction := n % (1 <<< fractionBits)
  let exponent := n / (1 <<< fractionBits) % (1 <<< exponentBits)
  let negative := n / (1 <<< (fractionBits + exponentBits)) % 2 == 1
  let bias : Int := Int.pow 2 (exponentBits - 1) - 1
  if exponent = (1 <<< exponentBits) - 1 then
    if fraction = 0 then .infinite negative else .undefined negative
  else
    let (m, e) : Nat × Int := if exponent = 0 then (fraction, 1 - bias - fractionBits)
      else (fraction + (1 <<< fractionBits), exponent - bias - fractionBits)
    .finite negative (m * (1 <<< e.toNat)) (1 <<< (-e).toNat)

/-- Do two numbers have one value? -/
def sameValue : Floating → Floating → Bool
  | .finite a n d, .finite b n' d' => a == b && n * d' == n' * d
  | .infinite a, .infinite b => a == b
  | .undefined _, .undefined _ => true
  | _, _ => false

/-- The fewest digits, from some number on, that are read back as a number. -/
def shortest (form : Floating.Form) (x : Floating) : Nat → Nat → Bytes
  | 0, digits => Floating.shown form [] 'g' 0 (some digits) x
  | fuel + 1, digits =>
    let text := Floating.shown form [] 'g' 0 (some digits) x
    if sameValue (Floating.read form text).value x then text else shortest form x fuel (digits + 1)

def singleForm : Floating.Form := ⟨24, -149, 128⟩

/-- Some bytes as a form shows them. -/
def Form.text (f : Form) (bigEndian : Bool) (s : Bytes) : Bytes :=
  let n := numberOf bigEndian s
  match f.kind with
  | .named =>
    let n := n % 128
    if n = 127 then "del".toList else ((charNames[n]?).map String.toList).getD [Char.ofNat n]
  | .char =>
    match n with
    | 0 => ['\\', '0']
    | 7 => ['\\', 'a']
    | 8 => ['\\', 'b']
    | 9 => ['\\', 't']
    | 10 => ['\\', 'n']
    | 11 => ['\\', 'v']
    | 12 => ['\\', 'f']
    | 13 => ['\\', 'r']
    | n => if 32 ≤ n && n < 127 then [Char.ofNat n] else zeroPadded 3 (Nat.toDigits 8 n)
  | .octal => zeroPadded f.width (Nat.toDigits 8 n)
  | .hexadecimal => zeroPadded f.width (Nat.toDigits 16 n)
  | .unsigned => Bytes.ofNat n
  | .signed =>
    let limit := 1 <<< (8 * f.size - 1)
    Bytes.ofInt (if n < limit then n else (n : Int) - 2 * limit)
  | .floating =>
    if f.size = 4 then shortest singleForm (floatingOf 8 23 n) 8 6
    else shortest .double (floatingOf 11 52 n) 8 15

/-! ### Lines -/

/-- The pieces of a text that are so long. -/
def pieces (size : Nat) : Nat → Bytes → List Bytes
  | 0, _ => []
  | fuel + 1, s => if s.isEmpty then [] else s.take size :: pieces size fuel (s.drop size)

/-- A line of bytes in a form, in a field of a width for the whole line. -/
def Form.line (f : Form) (bigEndian : Bool) (perLine blockWidth : Nat) (s : Bytes) : Bytes :=
  let fields := perLine / f.size
  let pad := blockWidth - f.width * fields
  let padAt (i : Nat) : Nat := pad * i / fields
  let groups := pieces f.size (s.length + 1) s
  let shown := groups.zipIdx.flatMap fun (g, i) =>
    let g := g ++ List.replicate (f.size - g.length) '\x00'
    let gap := padAt (fields - i) - padAt (fields - i - 1)
    Bytes.padLeft (gap + f.width) (f.text bigEndian g)
  if f.withText then
    let blank := fields - groups.length
    let missing := blank * f.width + padAt blank
    let readable := s.map fun c => if Quoting.isPrintable c then c else '.'
    shown ++ List.replicate missing ' ' ++ "  >".toList ++ readable ++ ['<']
  else shown

/-- How the place of a line is shown. -/
structure Address where
  base : Nat
  width : Nat

def Address.text (a : Option Address) (n : Nat) : Bytes :=
  match a with
  | none => []
  | some a => zeroPadded a.width (Nat.toDigits a.base n)

structure Style where
  forms : List Form
  address : Option Address
  perLine : Nat
  /-- Are lines left out that are like the one before them? -/
  abbreviates : Bool
  bigEndian : Bool

/-- A line in all forms. -/
def Style.line (style : Style) (place : Nat) (s : Bytes) : Bytes :=
  let blockWidth := (style.forms.map fun f => (f.width + 1) * (style.perLine / f.size)).foldl max 0
  style.forms.zipIdx.flatMap fun (f, i) =>
    let address := Address.text style.address place
    let front := if i = 0 then address else List.replicate address.length ' '
    front ++ f.line style.bigEndian style.perLine blockWidth s ++ ['\n']

/-- All lines. The state is the line before, and was it left out? -/
def Style.lines (style : Style) : Nat → Option Bytes → Bool → List Bytes → List Bytes
  | _, _, _, [] => []
  | place, before, skipped, s :: rest =>
    let next := place + s.length
    if style.abbreviates && before == some s && s.length = style.perLine then
      (if skipped then [] else ["*\n".toList]) ++ style.lines next (some s) true rest
    else style.line place s :: style.lines next (some s) false rest

/-! ### Options -/

/-- What is wrong with a call. -/
inductive Fault where
  | character (c : Char) (text : Bytes)
  | bytes (text : Bytes) (n : Nat) (floats : Bool)
  | radix (c : Char)

def Fault.message : Fault → Bytes
  | .character c text =>
    "invalid character ".toList ++ Quoting.plain [c] ++ " in type string ".toList
      ++ Quoting.plain text
  | .bytes text n floats =>
    "invalid type string ".toList ++ Quoting.plain text
      ++ ";\nthis system doesn't provide a ".toList ++ Bytes.ofNat n
      ++ (if floats then "-byte floating point type" else "-byte integral type").toList
  | .radix c =>
    "invalid output address radix ".toList ++ Quoting.plain [c]
      ++ "; it must be one character from [doxn]".toList

/-- The letters for sizes. -/
def sizeLetter? (floats : Bool) (c : Char) : Option Nat :=
  if floats then
    match c with
    | 'F' => some 4
    | 'D' => some 8
    | 'L' => some 16
    | _ => none
  else
    match c with
    | 'C' => some 1
    | 'S' => some 2
    | 'I' => some 4
    | 'L' => some 8
    | _ => none

/-- The forms that a text names. -/
def formsOf (text : Bytes) : Nat → Bytes → Except Fault (List Form)
  | 0, _ => .ok []
  | _ + 1, [] => .ok []
  | fuel + 1, c :: r => do
    let kind? : Option Kind := match c with
      | 'a' => some .named
      | 'c' => some .char
      | 'd' => some .signed
      | 'u' => some .unsigned
      | 'o' => some .octal
      | 'x' => some .hexadecimal
      | 'f' => some .floating
      | _ => none
    match kind? with
    | none => throw (.character c text)
    | some kind =>
      let (size, r) ←
        if kind = .named || kind = .char then pure (1, r)
        else
          let floats := kind = .floating
          let digits := r.takeWhile Char.isDigit
          match r.head?.bind (sizeLetter? floats) with
          | some n => pure (n, r.drop 1)
          | none =>
            if digits.isEmpty then pure (if floats then 8 else 4, r)
            else
              let n := Text.ofDigits 10 digits
              let known := if floats then [4, 8, 16] else [1, 2, 4, 8]
              if known.contains n then pure (n, r.drop digits.length)
              else throw (.bytes text n floats)
      let (withText, r) := match r with
        | 'z' :: r => (true, r)
        | r => (false, r)
      return ⟨kind, size, withText⟩ :: (← formsOf text fuel r)

/-- The forms that letters of options stand for. -/
def shortForms : List (Char × String) :=
  [('a', "a"), ('b', "o1"), ('c', "c"), ('d', "u2"), ('f', "fF"), ('F', "fD"), ('e', "fD"),
   ('h', "x2"), ('x', "x2"), ('i', "dI"), ('I', "dL"), ('l', "dL"), ('L', "dL"), ('o', "o2"),
   ('B', "o2"), ('s', "d2"), ('D', "u4"), ('O', "o4"), ('H', "x4"), ('X', "x4")]

def endianLetter : Char := Char.ofNat 256
def traditionalLetter : Char := Char.ofNat 257

def options : List OptionForm :=
  [setting 'A' ["address-radix"], setting 'j' ["skip-bytes"], setting 'N' ["read-bytes"],
   setting 't' ["format"], flag 'v' ["output-duplicates"], variant 'w' ["width"],
   setting endianLetter ["endian"], flag traditionalLetter ["traditional"]]
   ++ switches (String.ofList (shortForms.map (·.1)))

/-- The forms that options ask for. -/
def formsFor (a : Arguments) : Except Fault (List Form) := do
  let parts ← a.options.mapM fun o =>
    if o.1 = 't' then formsOf o.2 (o.2.length + 1) o.2
    else
      match shortForms.lookup o.1 with
      | some text => formsOf text.toList 4 text.toList
      | none => .ok []
  let forms := parts.flatten
  return if forms.isEmpty then [⟨.octal, 2, false⟩] else forms

/-- The number of bytes that a text asks for. -/
def count? (s : Bytes) : Option Nat :=
  match s with
  | '0' :: x :: r =>
    if x = 'x' || x = 'X' then
      if r.isEmpty then none
      else r.foldlM (fun n c => (Text.hexValue c).map (n * 16 + ·)) 0
    else if (x :: r).all fun c => '0' ≤ c && c ≤ '7' then some (Text.ofDigits 8 (x :: r))
    else Amount.nat? s
  | s => Amount.nat? s

/-- What all operands hold, whether all can be read, and whether one can be opened. -/
def contents (name : Bytes) (operands : List Bytes) : Shell (Bytes × Bool × Bool) := do
  let operands := if operands.isEmpty then [['-']] else operands
  let parts ← operands.mapM fun path => do
    match ← readOperand path with
    | .ok content => return (content, true, true)
    | .error e =>
      if path = ['-'] then utilityError name ("'standard input': ".toList ++ reasonText e)
      else fileError name path e
      return ([], false, failsLate e)
  return ((parts.map (·.1)).flatten, parts.all (·.2.1), parts.any (·.2.2))

def od : Utility := withOptions options fun name a => do
  let radix := (a.value? 'A').getD ['o']
  let address? : Except Fault (Option Address) := match radix with
    | 'o' :: _ => .ok (some ⟨8, 7⟩)
    | 'd' :: _ => .ok (some ⟨10, 7⟩)
    | 'x' :: _ => .ok (some ⟨16, 6⟩)
    | 'n' :: _ => .ok none
    | c :: _ => .error (.radix c)
    | [] => .error (.radix '\x00')
  match address?, formsFor a with
  | .error fault, _ | _, .error fault =>
    utilityError name fault.message
    return 1
  | .ok address, .ok forms =>
    let number (letter : Char) : Except Bytes (Option Nat) :=
      match a.value? letter with
      | none => .ok none
      | some text =>
        match count? text with
        | some n => .ok (some n)
        | none => .error text
    match number 'j', number 'N' with
    | .error text, _ =>
      utilityError name ("invalid -j argument ".toList ++ Quoting.plain text)
      return 1
    | _, .error text =>
      utilityError name ("invalid -N argument ".toList ++ Quoting.plain text)
      return 1
    | .ok skip, .ok most =>
      let common := (forms.map (·.size)).foldl Nat.lcm 1
      let usual := if common < 16 then common * (16 / common) else common
      let perLine ← match a.value? 'w' with
        | none => pure usual
        | some text =>
          let n := if text.isEmpty then 32 else (Bytes.toNat? text).getD 0
          if n != 0 && n % common = 0 then pure n
          else
            utilityError name ("warning: invalid width ".toList ++ Bytes.ofNat n
              ++ "; using ".toList ++ Bytes.ofNat common ++ " instead".toList)
            pure common
      let (content, whole, opened) ← contents name a.operands
      let skip := skip.getD 0
      if content.length < skip then
        utilityError name "cannot skip past end of combined input".toList
        return 1
      let content := content.drop skip
      let content := match most with
        | some n => content.take n
        | none => content
      let endian := (a.value? endianLetter).getD []
      let style : Style := ⟨forms, address, perLine, !a.has 'v',
        !endian.isEmpty && endian.isPrefixOf "big".toList⟩
      let lines := style.lines skip none false (pieces perLine (content.length + 1) content)
      let last := Address.text address (skip + content.length)
      let ending := if address.isSome && opened then last ++ ['\n'] else []
      write 1 (lines.flatten ++ ending)
      return if whole then 0 else 1

end SvgSkeleton.Shell.Dump
