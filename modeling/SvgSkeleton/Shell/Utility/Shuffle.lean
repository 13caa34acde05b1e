import Std.Data.HashMap
import SvgSkeleton.Shell.Utility.Options

/-!
`shuf`: lines in an order that nothing is to be expected of, and some of them only.
-/

namespace SvgSkeleton.Shell.Shuffle

/-! ### Drawing numbers -/

/-- Where numbers are drawn from: bytes, and a number of which nothing is known yet but that it is
at most another one. -/
structure Source where
  left : Bytes
  number : Nat
  most : Nat

namespace Source

/-- The source with bytes taken until its number may be as great as another one; nothing if bytes
are missing. -/
def filled (last : Nat) : Nat → Source → Option Source
  | 0, s => some s
  | fuel + 1, s =>
    if last ≤ s.most then some s
    else match s.left with
      | [] => none
      | c :: left => filled last fuel ⟨left, s.number * 256 + c.toNat, s.most * 256 + 255⟩

/-- Draw a number up to another one, each as likely as any other. Numbers behind the last full turn
are not used, and what is known of them is kept for the next try. -/
def drawUpTo (last : Nat) : Nat → Source → Option (Nat × Source)
  | 0, _ => none
  | fuel + 1, s => do
    let s ← s.filled last 9
    if s.most = last then return (s.number, ⟨s.left, 0, 0⟩)
    let choices := last + 1
    let extra := s.most - last
    let unusable := extra % choices
    let usable := s.most - unusable
    if s.number ≤ usable then
      return (s.number % choices, ⟨s.left, s.number / choices, extra / choices⟩)
    else drawUpTo last fuel ⟨s.left, s.number - usable - 1, unusable - 1⟩

/-- Draw one of so many numbers from zero on. -/
def draw (choices : Nat) (s : Source) : Option (Nat × Source) := s.drawUpTo (choices - 1) 1000

/-- The places that the first of `n` things get when they are put in an order that is drawn: each
changes its place with itself or one behind it. -/
def order (n count : Nat) (s : Source) : Option (List Nat) := do
  let step (state : List Nat × Std.HashMap Nat Nat × Source) (i : Nat) :
      Option (List Nat × Std.HashMap Nat Nat × Source) := do
    let (out, moved, s) := state
    let (k, s) ← s.draw (n - i)
    let j := i + k
    return (moved.getD j j :: out, moved.insert j (moved.getD i i), s)
  let (out, _, _) ← (List.range count).foldlM step ([], ∅, s)
  return out.reverse

/-- So many places among `n`, each drawn anew, latest first, as far as there are bytes. -/
def again (n : Nat) : Nat → List Nat → Source → List Nat × Bool
  | 0, out, _ => (out, true)
  | count + 1, out, s =>
    match s.draw n with
    | none => (out, false)
    | some (k, s) => again n count (k :: out) s

/-- Some of the places among `n`, of which so many are kept: each one behind them may take the place
of one of them. -/
def kept (count n : Nat) (s : Source) : Option (Array Nat × Source) :=
  (List.range (n - count + 1)).foldlM (fun (kept, s) i => do
    let (k, s) ← s.draw (count + i + 1)
    let place := count + i
    return (if k < count && place < n then kept.setIfInBounds k place else kept, s))
    ((List.range (min count n)).toArray, s)

end Source

/-- The numbers of a range that a text writes. -/
def range? (s : Bytes) : Option (Nat × Nat) :=
  let low := s.takeWhile (· != '-')
  match Bytes.toNat? low, Bytes.toNat? (s.drop (low.length + 1)) with
  | some a, some b => if a ≤ b + 1 then some (a, b) else none
  | _, _ => none

def sourceLetter : Char := Char.ofNat 256

def forms : List OptionForm :=
  [flag 'e' ["echo"], setting 'i' ["input-range"], setting 'n' ["head-count"],
   setting 'o' ["output"], flag 'r' ["repeat"], flag 'z' ["zero-terminated"],
   setting sourceLetter ["random-source"]]

/-- How many lines are shown of a row without end. -/
def manyLines : Nat := 20000

/-- Things to be put in another order. -/
structure Items where
  size : Nat
  text : Nat → Bytes
  /-- Is it only known at their end how many there are? -/
  piped : Bool

def Items.ofLines (lines : List Bytes) (piped : Bool) : Items :=
  let row := lines.toArray
  ⟨row.size, fun i => row.getD i [], piped⟩

/-- The places of the items that are shown, and whether there were bytes enough for them. -/
def places (items : Items) (repeats : Bool) (count : Option Nat) (s : Source) : List Nat × Bool :=
  let whole (l : Option (List Nat)) : List Nat × Bool := (l.getD [], l.isSome)
  if repeats then
    let (out, enough) := Source.again items.size (count.getD manyLines) [] s
    (out.reverse, enough)
  else
    match count with
    | none => whole (s.order items.size items.size)
    | some n =>
      if n < items.size && items.piped then
        whole do
          let (kept, s) ← s.kept n items.size
          return (← s.order kept.size kept.size).map fun i => kept.getD i 0
      else whole (s.order items.size (min n items.size))

/-- The source that numbers are drawn from. Without a file it is one that looks random. -/
def source (a : Arguments) (items : Items) (count : Option Nat) :
    Shell (Except (Bytes × OsError) Source) := do
  match a.value? sourceLetter with
  | some path =>
    match ← readFile path with
    | .ok bytes => return .ok ⟨bytes, 0, 0⟩
    | .error e => return .error (path, e)
  | none =>
    let needed := if a.has 'r' then count.getD manyLines else items.size
    let (bytes, _) := Noise.bytes (16 * min needed endlessPart + 64) (← get).time
    return .ok ⟨bytes, 0, 0⟩

/-- Put lines in another order, and show them. -/
def showMixed (name : Bytes) (a : Arguments) (count : Option Nat) (items : Items) :
    Shell Nat := do
  let ending := if a.has 'z' then '\x00' else '\n'
  match ← source a items count with
  | .error (path, e) =>
    fileError name path e
    return 1
  | .ok s =>
    if a.has 'r' && items.size = 0 && count != some 0 then
      utilityError name "no lines to repeat".toList
      return 1
    let (chosen, enough) := places items (a.has 'r') count s
    let text := chosen.flatMap fun i => items.text i ++ [ending]
    if !enough then
      utilityError name (Quoting.plain ((a.value? sourceLetter).getD []) ++ ": end of file".toList)
      if a.has 'r' && (a.value? 'o').isNone then write 1 text
      return 1
    match a.value? 'o' with
    | none =>
      write 1 text
      return 0
    | some path =>
      match ← putFile path false text with
      | .ok () => return 0
      | .error e =>
        fileError name path e
        return 1

/-- Do the lines of an operand come through a pipe? -/
def isPiped (path : Bytes) : Shell Bool := do
  if path != ['-'] then return false
  match ← streamOf? 0 with
  | none => return false
  | some i => return (← get).streams[i]? matches some (.source _)

/-- The least of the numbers of lines that options ask for. -/
def countOf (a : Arguments) : Except Bytes (Option Nat) :=
  (a.options.filter (·.1 == 'n')).foldlM (fun least o => match Bytes.toNat? o.2 with
    | some n => .ok (some (match least with
      | some m => min m n
      | none => n))
    | none => .error o.2) none

end Shuffle

open Shuffle in
def shuf : Utility := withOptions Shuffle.forms fun name a => do
  match countOf a, a.value? 'i' with
  | .error text, _ =>
    utilityError name ("invalid line count: ".toList ++ Quoting.plain text)
    return 1
  | .ok count, some text =>
    match range? text, a.operands with
    | none, _ =>
      utilityError name ("invalid input range: ".toList ++ Quoting.plain text)
      return 1
    | some _, extra :: _ => misused name ("extra operand ".toList ++ Quoting.plain extra) 1
    | some (low, high), [] =>
      showMixed name a count ⟨high + 1 - low, fun i => Bytes.ofNat (low + i), false⟩
  | .ok count, none =>
    if a.has 'e' then showMixed name a count (.ofLines a.operands false)
    else
      match a.operands with
      | _ :: extra :: _ => misused name ("extra operand ".toList ++ Quoting.plain extra) 1
      | operands =>
        let path := operands.headD ['-']
        match ← readOperand path with
        | .ok text =>
          let lines := piecesAt (if a.has 'z' then '\x00' else '\n') text
          showMixed name a count (.ofLines lines (← isPiped path))
        | .error e =>
          if failsLate e then utilityError name ("read error: ".toList ++ reasonText e)
          else fileError name path e
          return 1

end SvgSkeleton.Shell
