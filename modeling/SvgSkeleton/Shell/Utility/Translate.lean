import SvgSkeleton.Shell.Pattern
import SvgSkeleton.Shell.Utility.Options

/-!
`tr`: characters that are replaced, taken away or written once. A set of characters is written as a
string with ranges, classes and repetitions in it.
-/

namespace SvgSkeleton.Shell

namespace Translate

/-- A piece of a string of characters. -/
inductive Part where
  | char (c : Char)
  | range (low high : Char)
  | named (name : Bytes)
  | equivalent (c : Char)
  /-- A character so many times, or as often as it takes. -/
  | repeated (c : Char) (times : Option Nat)

/-- What is wrong with the strings. -/
inductive Fault where
  | reversed (low high : Char)
  | unknownClass (name : Bytes)
  | noClass
  | noEquivalent
  | longEquivalent (text : Bytes)
  | badTimes (text : Bytes)
  | endlessFirst
  | endlessTwice
  | endlessUnused
  | equivalentSecond
  | classSecond
  | misaligned
  | emptySecond
  | classLast
  | notOne

/-- A character that can be shown. -/
def shown (c : Char) : Bytes := if Quoting.isPrintable c then [c] else Quoting.escape c

def Fault.message : Fault → Bytes
  | .reversed low high => "range-endpoints of '".toList ++ shown low ++ '-' :: shown high
    ++ "' are in reverse collating sequence order".toList
  | .unknownClass name => "invalid character class ".toList ++ Quoting.plain name
  | .noClass => "missing character class name '[::]'".toList
  | .noEquivalent => "missing equivalence class character '[==]'".toList
  | .longEquivalent text =>
    text ++ ": equivalence class operand must be a single character".toList
  | .badTimes text => "invalid repeat count ".toList ++ Quoting.plain text
    ++ " in [c*n] construct".toList
  | .endlessFirst => "the [c*] repeat construct may not appear in string1".toList
  | .endlessTwice => "only one [c*] repeat construct may appear in string2".toList
  | .endlessUnused => "the [c*] construct may appear in string2 only when translating".toList
  | .equivalentSecond =>
    "[=c=] expressions may not appear in string2 when translating".toList
  | .classSecond => ("when translating, the only character classes that may appear in\n"
    ++ "string2 are 'upper' and 'lower'").toList
  | .misaligned => "misaligned [:upper:] and/or [:lower:] construct".toList
  | .emptySecond => "when not truncating set1, string2 must be non-empty".toList
  | .classLast => ("when translating with string1 longer than string2,\n"
    ++ "the latter string must not end with a character class").toList
  | .notOne => ("when translating with complemented character classes,\n"
    ++ "string2 must map all characters in the domain to one").toList

/-! ### Reading -/

/-- The characters of a string, each with a mark if it was written behind a backslash. -/
def unescaped : Nat → Bytes → List (Char × Bool)
  | 0, _ => []
  | _ + 1, [] => []
  | _ + 1, ['\\'] => [('\\', true)]
  | fuel + 1, '\\' :: c :: r =>
    let digits := ((c :: r).take 3).takeWhile fun c => '0' ≤ c && c ≤ '7'
    let digits := if Text.ofDigits 8 digits > 255 then digits.take 2 else digits
    if !digits.isEmpty then
      (Char.ofNat (Text.ofDigits 8 digits), true)
        :: unescaped fuel ((c :: r).drop digits.length)
    else
      let d := match c with
        | 'n' => '\n'
        | 't' => '\t'
        | 'r' => '\r'
        | 'a' => '\x07'
        | 'b' => '\x08'
        | 'f' => '\x0c'
        | 'v' => '\x0b'
        | c => c
      (d, true) :: unescaped fuel r
  | fuel + 1, c :: r => (c, false) :: unescaped fuel r

/-- The text up to a sign and a bracket, and what follows. -/
def upTo (sign : Char) (read : Bytes) :
    List (Char × Bool) → Option (Bytes × List (Char × Bool))
  | (c, false) :: (']', false) :: r =>
    if c = sign then some (read.reverse, r) else upTo sign (c :: read) ((']', false) :: r)
  | (c, _) :: r => upTo sign (c :: read) r
  | [] => none
termination_by s => s.length

/-- A repetition of a character, from behind the opening bracket, and what follows. -/
def repetition? (s : List (Char × Bool)) :
    Except Fault (Option (Part × List (Char × Bool))) :=
  match s with
  | (c, _) :: ('*', false) :: r =>
    let inside := r.takeWhile (· != (']', false))
    if inside.length = r.length then .ok none
    else
      let text := inside.map (·.1)
      let rest := r.drop (inside.length + 1)
      let base := if text.head? = some '0' then 8 else 10
      if text.isEmpty then .ok (some (.repeated c none, rest))
      else if text.all fun d => (Text.hexValue d).any (· < base) then
        let n := Text.ofDigits base text
        .ok (some (.repeated c (if n = 0 then none else some n), rest))
      else .error (.badTimes text)
  | _ => .ok none

/-- Is it a number of times and a closing bracket behind a star? -/
def looksRepeated (s : List (Char × Bool)) : Bool :=
  match s with
  | ('*', false) :: r =>
    (r.dropWhile fun m => m.1.isDigit && !m.2).head? = some (']', false)
  | _ => false

/-- The pieces of a string. -/
def parts : Nat → List (Char × Bool) → Except Fault (List Part)
  | 0, _ => .ok []
  | _ + 1, [] => .ok []
  | fuel + 1, s => do
    let plain : Except Fault (List Part) :=
      match s with
      | (a, _) :: ('-', false) :: (b, _) :: r => do
        if b.toNat < a.toNat then throw (.reversed a b)
        return .range a b :: (← parts fuel r)
      | (a, _) :: r => do return .char a :: (← parts fuel r)
      | [] => .ok []
    let repeated (r : List (Char × Bool)) : Except Fault (List Part) := do
      match ← repetition? r with
      | some (p, r) => return p :: (← parts fuel r)
      | none => plain
    match s with
    | ('[', false) :: (sign, false) :: r =>
      if (sign = ':' || sign = '=') && r.length > 1 then
        match upTo sign [] r with
        | some (name, rest) =>
          if name.isEmpty then throw (if sign = ':' then .noClass else .noEquivalent)
          if sign = ':' then
            if (List.range 256).any fun n => SetItem.inClass name (Char.ofNat n) then
              return .named name :: (← parts fuel rest)
            else if looksRepeated r then repeated ((sign, false) :: r)
            else throw (.unknownClass name)
          else
            match name with
            | [c] => return .equivalent c :: (← parts fuel rest)
            | name =>
              if looksRepeated r then repeated ((sign, false) :: r)
              else throw (.longEquivalent name)
        | none => repeated ((sign, false) :: r)
      else repeated ((sign, false) :: r)
    | ('[', false) :: r => repeated r
    | _ => plain

def partsOf (s : Bytes) : Except Fault (List Part) :=
  let marked := unescaped (s.length + 1) s
  parts (marked.length + 1) marked

/-! ### Sets -/

def allBytes : Bytes := (List.range 256).map Char.ofNat

/-- The characters of a piece; an endless one is as long as is said. -/
def Part.chars (endless : Nat) : Part → Bytes
  | .char c | .equivalent c => [c]
  | .range low high =>
    (List.range (high.toNat + 1 - low.toNat)).map fun k => Char.ofNat (low.toNat + k)
  | .named name => allBytes.filter (SetItem.inClass name)
  | .repeated c times => List.replicate (times.getD endless) c

def charsOf (endless : Nat) (ps : List Part) : Bytes := ps.flatMap (Part.chars endless)

def isEndless : Part → Bool
  | .repeated _ none => true
  | _ => false

/-- The name of a class that changes case. -/
def caseClass? : Part → Option Bytes
  | .named name => if name = "upper".toList || name = "lower".toList then some name else none
  | _ => none

def isNamed : Part → Bool
  | .named _ => true
  | _ => false

def isEquivalent : Part → Bool
  | .equivalent _ => true
  | _ => false

/-- The places at which pieces that change case begin. -/
def casePlaces (endless : Nat) : Nat → List Part → List Nat
  | _, [] => []
  | n, p :: ps =>
    (if (caseClass? p).isSome then [n] else [])
      ++ casePlaces endless (n + (p.chars endless).length) ps

/-- What to do. -/
structure Job where
  deletes : Bool
  squeezes : Bool
  complements : Bool
  truncates : Bool

/-- The two sets that strings write, the second one made as long as it has to be. -/
def sets (job : Job) (first : List Part) (second : Option (List Part)) :
    Except Fault (Bytes × Option Bytes) := do
  if first.any isEndless then throw .endlessFirst
  let plain := charsOf 0 first
  let set1 := if job.complements then allBytes.filter (!plain.contains ·) else plain
  match second with
  | none => return (set1, none)
  | some second =>
    if (second.filter isEndless).length > 1 then throw .endlessTwice
    let given := (charsOf 0 second).length
    let endless := set1.length - given
    let set2 := charsOf endless second
    if job.deletes then
      if second.any isEndless then throw .endlessUnused
      return (set1, some set2)
    if second.any isEquivalent then throw .equivalentSecond
    if second.any fun p => isNamed p && (caseClass? p).isNone then throw .classSecond
    let aligned := (casePlaces endless 0 second).all (casePlaces 0 0 first).contains
    if !job.complements && !aligned then throw .misaligned
    if set1.length > set2.length && !job.truncates then
      if set2.isEmpty then throw .emptySecond
      if (second.getLast?.any isNamed) then throw .classLast
    if job.complements && first.any isNamed && set2.eraseDups.length > 1 then throw .notOne
    if job.truncates then return (set1.take set2.length, some set2)
    else
      let filler := set2.getLast?.getD ' '
      return (set1, some (set2 ++ List.replicate (set1.length - set2.length) filler))

/-- The text with repeated members of a set written once. -/
def squeezed (set : Bytes) : Option Char → Bytes → Bytes
  | _, [] => []
  | last, c :: r =>
    if last = some c && set.contains c then squeezed set last r
    else c :: squeezed set (some c) r

/-- What each byte becomes; the last place of a character in the first set counts. -/
def table (set1 set2 : Bytes) : Array Char :=
  (set1.zip set2).foldl (fun t (a, b) => t.setIfInBounds a.toNat b) allBytes.toArray

/-- What becomes of a text. -/
def apply (job : Job) (set1 : Bytes) (set2 : Option Bytes) (s : Bytes) : Bytes :=
  let isIn (set : Bytes) : Array Bool :=
    set.foldl (fun t c => t.setIfInBounds c.toNat true) (Array.replicate 256 false)
  match job.deletes, set2 with
  | true, set2 =>
    let members := isIn set1
    let left := s.filter fun c => !(members.getD c.toNat false)
    match set2 with
    | some set2 => if job.squeezes then squeezed set2 none left else left
    | none => left
  | false, none => squeezed set1 none s
  | false, some set2 =>
    let t := table set1 set2
    let out := s.map fun c => t.getD c.toNat c
    if job.squeezes then squeezed set2 none out else out

def forms : List OptionForm :=
  [flag 'd' ["delete"], flag 's' ["squeeze-repeats"], flag 'c' ["complement"],
   flag 'C' [], flag 't' ["truncate-set1"]]

end Translate

def tr : Utility := fun name args =>
  match readArguments Translate.forms false (args.length + 1) args with
  | .error fault => misused name fault.message 1
  | .ok a => do
    let job : Translate.Job := ⟨a.has 'd', a.has 's', a.has 'c' || a.has 'C', a.has 't'⟩
    let least := if job.deletes == job.squeezes then 2 else 1
    let most := if job.deletes && !job.squeezes then 1 else 2
    match a.operands with
    | [] => misused name "missing operand".toList 1
    | first :: rest =>
      if rest.length + 1 < least then
        utilityError name ("missing operand after ".toList ++ Quoting.plain first)
        write 2 (if job.squeezes then
          "Two strings must be given when both deleting and squeezing repeats.\n".toList
          else "Two strings must be given when translating.\n".toList)
        tryHelp name
        return 1
      if rest.length + 1 > most then
        utilityError name ("extra operand ".toList ++ Quoting.plain (a.operands.getD most []))
        if rest.length = 1 then
          write 2 ("Only one string may be given when deleting without squeezing "
            ++ "repeats.\n").toList
        tryHelp name
        return 1
      let result := do
        let first ← Translate.partsOf first
        let second ← rest.head?.mapM Translate.partsOf
        Translate.sets job first second
      match result with
      | .error f =>
        utilityError name f.message
        return 1
      | .ok (set1, set2) =>
        if let some e ← inputFault? then
          utilityError name ("read error: ".toList ++ reasonText e)
          return 1
        write 1 (Translate.apply job set1 set2 (← readAll 0))
        return 0

end SvgSkeleton.Shell
