import SvgSkeleton.Text.Character

/-!
Strings of bytes, as the shell and its utilities see all text. A byte is written as the character
with its code, so that ASCII letters can be matched as such.
-/

namespace SvgSkeleton.Shell

/-- A string of bytes, each of them the character with that code. -/
abbrev Bytes := List Char

/-- The sum of some numbers. -/
def sumOf (ns : List Nat) : Nat := ns.foldl (· + ·) 0

namespace Bytes

def ofByte (b : UInt8) : Char := Char.ofNat b.toNat

def toByte (c : Char) : UInt8 := UInt8.ofNat c.toNat

def ofList (bytes : List UInt8) : Bytes := bytes.map ofByte

def toList (s : Bytes) : List UInt8 := s.map toByte

/-- The UTF-8 form of a text. -/
def ofText (s : String) : Bytes := ofList (Text.bytesOf s)

def ofByteArray (b : ByteArray) : Bytes := ofList b.data.toList

def toByteArray (s : Bytes) : ByteArray := ⟨(toList s).toArray⟩

/-- So many zeros, put together from halves. -/
def zeros (n : Nat) : ByteArray :=
  if n = 0 then .empty
  else
    let half := zeros (n / 2)
    if n % 2 = 0 then half ++ half else (half ++ half).push 0
termination_by n

/-- The text whose UTF-8 form the bytes are, with U+FFFD for what is none. -/
def toText (s : Bytes) : String := Text.decodeLossy (toList s)

/-- The decimal digits of a number. -/
def ofNat (n : Nat) : Bytes := Nat.toDigits 10 n

def ofInt (n : Int) : Bytes := if n < 0 then '-' :: ofNat n.natAbs else ofNat n.natAbs

/-- Is the first string the second one, or does it stand before it in the order of the bytes? -/
def inOrder : Bytes → Bytes → Bool
  | [], _ => true
  | _ :: _, [] => false
  | a :: r, b :: s => a.toNat < b.toNat || (a = b && inOrder r s)

/-- The pieces of a string between the places where a character stands. -/
def splitAt (sep : Char) (s : Bytes) : List Bytes :=
  s.foldr (fun c pieces =>
    if c = sep then [] :: pieces
    else
      match pieces with
      | [] => [[c]]
      | p :: ps => (c :: p) :: ps) [[]]

/-- Lines with their line feeds; the last one may have none. -/
def lines (s : Bytes) : List Bytes :=
  s.foldr (fun c ls =>
    if c = '\n' then [c] :: ls
    else
      match ls with
      | [] => [[c]]
      | l :: ls => (c :: l) :: ls) []

/-- The line without the line feed at its end. -/
def chomp (line : Bytes) : Bytes :=
  match line.reverse with
  | '\n' :: r => r.reverse
  | _ => line

/-- The string without the line feeds at its end. -/
def trimNewlines (s : Bytes) : Bytes := (s.reverse.dropWhile (· == '\n')).reverse

/-- The strings with a separator between them. -/
def join (sep : Bytes) (items : List Bytes) : Bytes := List.intercalate sep items

/-- The number that a string of decimal digits writes; there must be one. -/
def toNat? (s : Bytes) : Option Nat :=
  if s.isEmpty || !s.all Char.isDigit then none else some (Text.ofDigits 10 s)

/-- The number that digits write behind an optional sign. -/
def toInt? (s : Bytes) : Option Int :=
  match s with
  | '-' :: r => (toNat? r).map fun n => -(n : Int)
  | '+' :: r => (toNat? r).map Int.ofNat
  | s => (toNat? s).map Int.ofNat

/-- The string padded on the left up to a width. -/
def padLeft (width : Nat) (s : Bytes) : Bytes := List.replicate (width - s.length) ' ' ++ s

end Bytes

/-- A blank within a line. -/
def isBlankByte (c : Char) : Bool := c == ' ' || c == '\t'

/-- A blank within a text. -/
def isSpaceByte (c : Char) : Bool := c == ' ' || (9 ≤ c.toNat && c.toNat ≤ 13)

/-- A letter of a name, or an underscore. -/
def isNameStart (c : Char) : Bool := c.isAlpha || c == '_'

/-- A letter of a name, a digit, or an underscore. -/
def isNameChar (c : Char) : Bool := c.isAlphanum || c == '_'

/-- Is it a name of a variable? -/
def isName (s : Bytes) : Bool :=
  match s with
  | [] => false
  | c :: r => isNameStart c && r.all isNameChar

/-! ### Noise

Numbers of which nothing is to be expected: each follows from the one before, but it does not show.
-/

namespace Noise

/-- The number behind another one. -/
def next (n : Nat) : Nat := (n * 6364136223846793005 + 1442695040888963407) % (1 <<< 64)

/-- So many bytes, and the number that goes on behind them. -/
def bytes (n seed : Nat) : Bytes × Nat :=
  (List.range n).foldl
    (fun (out, seed) _ => (Char.ofNat ((seed >>> 33) % 256) :: out, next seed)) ([], next seed)

end Noise

end SvgSkeleton.Shell

/-! ### Versions

The order of versions: runs of digits count as numbers, and what stands between them is compared
character by character, letters before other signs. The endings of file names count only where the
names are equal without them.
-/

namespace SvgSkeleton.Shell.Version

/-- The rank of what stands outside of numbers; the end of a text has one as well. -/
def rank : Option Char → Int
  | none => -1
  | some c =>
    if c.isDigit then 0
    else if c.isAlpha then c.toNat
    else if c = '~' then -2
    else c.toNat + 256

/-- Does a text begin with something that is no digit? -/
def startsOutside (s : Bytes) : Bool := s.head?.any fun c => !c.isDigit

/-- The order of the parts in front of numbers, and what follows these parts if they are equal. -/
def outside : Nat → Bytes → Bytes → Ordering × Bytes × Bytes
  | 0, a, b => (.eq, a, b)
  | fuel + 1, a, b =>
    if startsOutside a || startsOutside b then
      match compare (rank a.head?) (rank b.head?) with
      | .eq => outside fuel a.tail b.tail
      | o => (o, a, b)
    else (.eq, a, b)

/-- The order of the numbers at the front of two texts. -/
def numbers (a b : Bytes) : Ordering :=
  let a := (a.takeWhile Char.isDigit).dropWhile (· == '0')
  let b := (b.takeWhile Char.isDigit).dropWhile (· == '0')
  match compare a.length b.length with
  | .eq => if a = b then .eq else if Bytes.inOrder a b then .lt else .gt
  | o => o

/-- The order of two texts in which all characters count. -/
def order : Nat → Bytes → Bytes → Ordering
  | 0, _, _ => .eq
  | fuel + 1, a, b =>
    if a.isEmpty && b.isEmpty then .eq
    else
      match outside (max a.length b.length + 1) a b with
      | (.eq, a, b) =>
        match numbers a b with
        | .eq => order fuel (a.dropWhile Char.isDigit) (b.dropWhile Char.isDigit)
        | o => o
      | (o, _, _) => o

/-- What a text holds behind endings such as `.tar.gz`, each a point and letters or digits. -/
def behindEnding : Nat → Bytes → Bytes
  | fuel + 1, '.' :: c :: r =>
    if c.isAlpha || c = '~' then behindEnding fuel (r.dropWhile fun c => c.isAlphanum || c == '~')
    else '.' :: c :: r
  | _, s => s

/-- How long a name is without its endings. -/
def stemLength : Nat → Nat → Nat → Bytes → Nat
  | 0, _, stem, _ => stem
  | _ + 1, _, stem, [] => stem
  | fuel + 1, i, _, _ :: r =>
    let rest := behindEnding (r.length + 1) r
    let next := i + 1 + (r.length - rest.length)
    stemLength fuel next (i + 1) rest

/-- The name without its endings. -/
def stem (s : Bytes) : Bytes := s.take (stemLength (s.length + 1) 0 0 s)

/-- The rank of a name: the empty one comes first, then those that begin with a point. -/
def nameRank (s : Bytes) : Nat :=
  if s.isEmpty then 0 else if s = ['.'] then 1 else if s = ['.', '.'] then 2
  else if s.head? = some '.' then 3 else 4

/-- The order of file names by their versions. -/
def compareNames (a b : Bytes) : Ordering :=
  match compare (nameRank a) (nameRank b) with
  | .eq =>
    let fuel := a.length + b.length + 1
    let first := order fuel (stem a) (stem b)
    if first != .eq || (stem a = a && stem b = b) then first else order fuel a b
  | o => o

end SvgSkeleton.Shell.Version
