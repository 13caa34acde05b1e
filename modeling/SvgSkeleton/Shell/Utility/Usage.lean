import SvgSkeleton.Shell.Pattern
import SvgSkeleton.Shell.Whole
import SvgSkeleton.Shell.Utility.Listing

/-!
`du`: how much space files take, and folders with all that is in them.
-/

namespace SvgSkeleton.Shell.Usage

/-- How space is counted and shown. -/
structure Style where
  /-- Are bytes counted, and not the blocks that hold them? -/
  apparent : Bool
  /-- Are entries counted? -/
  entries : Bool
  /-- Do folders go without those within them? -/
  separate : Bool
  /-- Are files shown, too? -/
  all : Bool
  /-- How far below an operand something may be to be shown. -/
  depth : Option Nat
  /-- How many bytes a unit has; a number of them is rounded up. -/
  unit : Nat
  /-- The letters behind a number. -/
  letters : Bytes
  /-- The base of the units of short sizes. -/
  human : Option Nat
  ignored : List Bytes
  ending : Char

/-- A thing that takes space: its path, the space, how far down it is, and whether it is a
folder. -/
structure Item where
  path : Bytes
  size : Nat
  depth : Nat
  isFolder : Bool

/-- The space that an entry takes by itself. -/
def Style.own (style : Style) (node : FileTree) : Nat :=
  if style.entries then 1
  else if style.apparent then (if node.isFolder then 0 else Listing.sizeOf node)
  else 1024 * Listing.blocksOf node

/-- Is an entry left out? -/
def Style.leavesOut (style : Style) (path : Bytes) : Bool :=
  let name := lastName path
  style.ignored.any fun p => matchesPattern p name || matchesPattern p path

mutual

/-- The things at a path and below, each behind what is in it; the space that they all take, and
that of the last one without folders in it. What has been seen before is not counted again. -/
def Style.itemsAt (style : Style) (seen : List Place) (place : Place) (path : Bytes)
    (depth : Nat) : FileTree → List Item × Nat × Nat
  | .folder entries =>
    let (items, below, files) := style.itemsIn seen place path (depth + 1) entries
    let own := style.own (.folder entries)
    let shown := if style.separate then files + own else below + own
    (items ++ [⟨path, shown, depth, true⟩], below + own, files + own)
  | node => ([⟨path, style.own node, depth, false⟩], style.own node, style.own node)

/-- The things in a folder, and the space that they all take, and that of files among them. -/
def Style.itemsIn (style : Style) (seen : List Place) (place : Place) (path : Bytes)
    (depth : Nat) : List (FileName × FileTree) → List Item × Nat × Nat
  | [] => ([], 0, 0)
  | (name, node) :: rest =>
    let (items, size, files) := style.itemsIn seen place path depth rest
    let inner := inFolder path (Bytes.ofList name)
    if style.leavesOut inner || seen.contains (place ++ [name]) then (items, size, files)
    else
      let (more, n, _) := style.itemsAt seen (place ++ [name]) inner depth node
      (items ++ more, size + n, if node.isFolder then files else files + n)

end

/-- A size in the unit that keeps it short, by powers of a thousand. -/
def thousandsSize (n : Nat) : Bytes :=
  if n < 1000 then Bytes.ofNat n
  else
    let power := (List.range 6).foldl (fun p i => if Nat.pow 1000 (i + 1) ≤ n then i + 1 else p) 0
    let unit := Nat.pow 1000 power
    let letter := "kMGTPE".toList.getD (power - 1) 'k'
    let tenths := (n * 10 + unit - 1) / unit
    if tenths < 100 then Bytes.ofNat (tenths / 10) ++ '.' :: Bytes.ofNat (tenths % 10) ++ [letter]
    else Bytes.ofNat ((n + unit - 1) / unit) ++ [letter]

def Style.sizeText (style : Style) (n : Nat) : Bytes :=
  if style.entries then Bytes.ofNat n
  else match style.human with
    | some 1000 => thousandsSize n
    | some _ => Listing.humanSize n
    | none => Bytes.ofNat ((n + style.unit - 1) / style.unit) ++ style.letters

def Style.line (style : Style) (size : Nat) (path : Bytes) : Bytes :=
  style.sizeText size ++ '\t' :: path ++ [style.ending]

def apparentLetter : Char := Char.ofNat 256
def siLetter : Char := Char.ofNat 257
def inodesLetter : Char := Char.ofNat 258
def excludeLetter : Char := Char.ofNat 259

def forms : List OptionForm :=
  [flag '0' ["null"], flag 'a' ["all"], flag 'b' ["bytes"], setting 'B' ["block-size"],
   flag 'c' ["total"], flag 'D' ["dereference-args"], setting 'd' ["max-depth"], flag 'H' [],
   flag 'h' ["human-readable"], flag 'k' [], flag 'L' ["dereference"], flag 'l' ["count-links"],
   flag 'm' [], flag 'P' ["no-dereference"], flag 'S' ["separate-dirs"], flag 's' ["summarize"],
   setting 't' ["threshold"], flag 'x' ["one-file-system"], setting 'X' ["exclude-from"],
   flag apparentLetter ["apparent-size"], flag siLetter ["si"], flag inodesLetter ["inodes"],
   setting excludeLetter ["exclude"]]

def Style.usual : Style := ⟨false, false, false, false, none, 1024, [], none, [], '\n'⟩

/-- The style with an option; the error is a size that is none. -/
def Style.with (style : Style) (option : Char) (text : Bytes) : Except Bytes Style :=
  match option with
  | '0' => .ok { style with ending := '\x00' }
  | 'a' => .ok { style with all := true }
  | 'b' => .ok { style with apparent := true, unit := 1, human := none, letters := [] }
  | 'h' => .ok { style with human := some 1024 }
  | 'k' => .ok { style with unit := 1024, human := none, letters := [] }
  | 'm' => .ok { style with unit := 1024 * 1024, human := none, letters := [] }
  | 'S' => .ok { style with separate := true }
  | 'B' =>
    match Amount.nat? text with
    | some n =>
      let letters := if text.head?.any Char.isDigit then [] else text
      if n = 0 then .error text
      else .ok { style with unit := n, human := none, letters := letters }
    | none => .error text
  | c =>
    .ok (if c = apparentLetter then { style with apparent := true }
      else if c = siLetter then { style with human := some 1000 }
      else if c = inodesLetter then { style with entries := true }
      else if c = excludeLetter then { style with ignored := text :: style.ignored }
      else style)

/-- The place of an operand among those that have not been counted yet. -/
def fresh (seen : List Place) (place : Place) : Bool := !seen.any fun s => s.isPrefixOf place

/-- Show the space that operands take, and add it up. -/
def showAll (style : Style) (name : Bytes) (follow : Bool) : List Place → List Bytes →
    Shell (Nat × Bool)
  | _, [] => return (0, true)
  | seen, path :: rest => do
    match ← (if follow then target? path else entry? path) with
    | .error e =>
      let _ ← cannot name "cannot access" path e
      let (sum, _) ← showAll style name follow seen rest
      return (sum, false)
    | .ok (place, node) =>
      if fresh seen place then
        let (items, size, _) := style.itemsAt seen place path 0 node
        let shown := items.filter fun i =>
          (i.isFolder || style.all || i.depth = 0) && style.depth.all (i.depth ≤ ·)
        write 1 (shown.flatMap fun i => style.line i.size i.path)
        let (sum, ok) ← showAll style name follow (place :: seen) rest
        return (size + sum, ok)
      else showAll style name follow seen rest

end Usage

open Usage in
def du : Utility := withOptions Usage.forms fun name a => do
  match a.options.foldlM (fun (s : Style) o => s.with o.1 o.2) Style.usual with
  | .error size =>
    utilityError name ("invalid -B argument ".toList ++ Quoting.plain size)
    return 1
  | .ok style =>
    let depth : Option (Option Nat) := match a.value? 'd' with
      | none => some none
      | some s => (Bytes.toNat? s).map some
    match depth with
    | none =>
      misused name ("invalid maximum depth ".toList ++ Quoting.plain ((a.value? 'd').getD [])) 1
    | some depth =>
      if a.has 's' && style.all then
        return ← misused name "cannot both summarize and show all entries".toList 1
      let depth := if a.has 's' then some 0 else depth
      let operands := if a.operands.isEmpty then [['.']] else a.operands
      let style := { style with depth := depth }
      let (sum, ok) ← showAll style name (a.has 'L' || a.has 'D' || a.has 'H') [] operands
      if a.has 'c' then write 1 (style.line sum "total".toList)
      return if ok then 0 else 1

end SvgSkeleton.Shell
