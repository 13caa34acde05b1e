import SvgSkeleton.Shell.Calendar
import SvgSkeleton.Shell.Mode
import SvgSkeleton.Shell.Pattern
import SvgSkeleton.Shell.Utility.Path
import SvgSkeleton.Shell.Bytes

/-!
`ls`: the entries of folders, in an order, with marks, and in columns or with all that is known of
them.
-/

namespace SvgSkeleton.Shell.Listing

/-! ### Styles -/

inductive Layout where
  | single
  | long
  | down
  | across
  | commas
  deriving DecidableEq

inductive Order where
  | name
  | none
  | size
  | time
  | version
  | ending
  deriving DecidableEq

/-- Which kinds of entries are marked. -/
inductive Marks where
  | none
  | folders
  | kinds
  | all
  deriving DecidableEq

inductive Names where
  | literal
  | c
  | escaped
  | shell
  | shellAlways
  deriving DecidableEq

/-- How entries are shown. -/
structure Style where
  layout : Layout
  order : Order
  reversed : Bool
  foldersFirst : Bool
  marks : Marks
  names : Names
  /-- Are bytes that are not shown replaced by a question mark? -/
  hides : Bool
  hidden : Bool
  dots : Bool
  ignored : List Bytes
  hiddenToo : List Bytes
  width : Nat
  blocks : Bool
  numbers : Bool
  human : Bool
  owner : Bool
  group : Bool
  numeric : Bool
  recursive : Bool
  follows : Bool
  time : Bytes
  ending : Char

/-- An entry: its name, its place, and what stands there. -/
structure Entry where
  name : Bytes
  place : Place
  node : FileTree

/-! ### What is known of entries -/

/-- How many bytes a folder takes. -/
def folderSize : Nat := 4096

def sizeOf : FileTree → Nat
  | .file content => content.size
  | .link target => target.length
  | .folder _ => folderSize
  | .special _ => 0

/-- How many blocks of a thousand bytes an entry takes. -/
def blocksOf : FileTree → Nat
  | .file content => (content.size + 4095) / 4096 * 4
  | .folder _ => 4
  | _ => 0

/-- The letter of the kind of an entry. -/
def kindLetter : FileTree → Char
  | .folder _ => 'd'
  | .link _ => 'l'
  | .special .pipe => 'p'
  | .special (.program _) | .file _ => '-'
  | .special _ => 'c'

/-- How many names an entry has. -/
def namesOf : FileTree → Nat
  | .folder entries => 2 + (entries.filter (·.2.isFolder)).length
  | _ => 1

/-- The mark behind the name of an entry. -/
def Marks.of (marks : Marks) (mode : Nat) (node : FileTree) : Bytes :=
  match node with
  | .folder _ => if marks = .none then [] else ['/']
  | .link _ => if marks = .kinds || marks = .all then ['@'] else []
  | .special .pipe => if marks = .kinds || marks = .all then ['|'] else []
  | .special (.program _) => if marks = .all then ['*'] else []
  | .file _ => if marks = .all && mode &&& 0o111 != 0 then ['*'] else []
  | .special _ => []

/-- A size in the unit that keeps it short, rounded up. -/
def humanSize (n : Nat) : Bytes :=
  if n < 1024 then Bytes.ofNat n
  else
    let units := "KMGTPE".toList
    let rec go : Nat → Nat → Nat → List Char → Bytes
      | 0, _, _, _ => []
      | _, _, _, [] => []
      | fuel + 1, num, den, u :: us =>
        let tenths := (num * 10 + den - 1) / den
        if tenths < 100 then
          Bytes.ofNat (tenths / 10) ++ '.' :: Bytes.ofNat (tenths % 10) ++ [u]
        else
          let whole := (num + den - 1) / den
          if whole < 1024 || us.isEmpty then Bytes.ofNat whole ++ [u]
          else go fuel num (den * 1024) us
    go 7 n 1024 units

/-! ### Names -/

/-- A byte with a backslash if it needs one. -/
def escapedByte (c : Char) : Bytes :=
  if c = '\\' then ['\\', '\\'] else if Quoting.isPrintable c then [c] else Quoting.escape c

def Style.nameText (style : Style) (s : Bytes) : Bytes :=
  match style.names with
  | .literal => if style.hides then s.map fun c => if Quoting.isPrintable c then c else '?' else s
  | .c => ['"'] ++ (s.flatMap fun c => if c = '"' then ['\\', '"'] else escapedByte c) ++ ['"']
  | .escaped => s.flatMap fun c => if c = ' ' then ['\\', ' '] else escapedByte c
  | .shell => Quoting.ifNeeded s
  | .shellAlways => Quoting.always s

/-! ### Order -/

/-- The ending of a name, from its last point on. -/
def endingOf (s : Bytes) : Bytes :=
  if s.contains '.' then '.' :: (s.reverse.takeWhile (· != '.')).reverse else []

def byteOrder (a b : Bytes) : Ordering :=
  if a = b then .eq else if Bytes.inOrder a b then .lt else .gt

def Style.sorted (style : Style) (m : Machine) (entries : List Entry) : List Entry :=
  let compare (a b : Entry) : Ordering :=
    let byName := byteOrder a.name b.name
    match style.order with
    | .name | .none => byName
    | .size => (Ord.compare (sizeOf b.node) (sizeOf a.node)).then byName
    | .time => (Ord.compare (changedAt m b.place) (changedAt m a.place)).then byName
    | .version => (Version.compareNames a.name b.name).then byName
    | .ending => (byteOrder (endingOf a.name) (endingOf b.name)).then byName
  let sorted := if style.order = .none then entries
    else entries.mergeSort fun a b =>
      if style.reversed then compare a b != .lt else compare a b != .gt
  if style.foldersFirst then
    sorted.filter (·.node.isFolder) ++ sorted.filter (!·.node.isFolder)
  else sorted

/-- Is an entry of a folder shown? -/
def Style.shows (style : Style) (name : Bytes) : Bool :=
  let inList (ps : List Bytes) : Bool := ps.any (matchesPattern · name)
  (style.hidden || (name.head? != some '.' && !inList style.hiddenToo)) && !inList style.ignored

/-! ### Columns -/

/-- The least width of a column. -/
def leastWidth : Nat := 3

/-- The widths of columns into which names of some widths go. -/
def columnWidths (down : Bool) (columns : Nat) (widths : List Nat) : List Nat :=
  let rows := (widths.length + columns - 1) / columns
  (List.range columns).map fun i =>
    let inColumn := widths.zipIdx.filter fun w =>
      (if down then w.2 / rows else w.2 % columns) == i
    let extra := if i + 1 = columns then 0 else 2
    (inColumn.map (·.1 + extra)).foldl max leastWidth

/-- The most columns that fit into a line. -/
def columnCount (down : Bool) (width : Nat) (widths : List Nat) : Nat :=
  let most := min (max 1 (width / leastWidth)) widths.length
  (((List.range most).map (· + 1)).reverse.find? fun n =>
    n = 1 || sumOf (columnWidths down n widths) < width).getD 1

/-- Blanks and tabs from a column to another one. -/
def gap : Nat → Nat → Nat → Bytes
  | 0, _, _ => []
  | fuel + 1, start, goal =>
    if goal ≤ start then []
    else if goal / 8 > (start + 1) / 8 then '\t' :: gap fuel (start + 8 - start % 8) goal
    else ' ' :: gap fuel (start + 1) goal

/-- A row of names in columns of some widths, from a column on. -/
def rowText : Nat → List Bytes → List Nat → Bytes
  | start, name :: next :: rest, w :: ws =>
    name ++ gap (w + 1) (start + name.length) (start + w) ++ rowText (start + w) (next :: rest) ws
  | _, names, _ => names.flatten

/-- Names in columns. -/
def inColumns (down : Bool) (width : Nat) (names : List Bytes) : Bytes :=
  if names.isEmpty then []
  else
    let widths := names.map List.length
    let columns := columnCount down width widths
    let rows := (names.length + columns - 1) / columns
    let sizes := columnWidths down columns widths
    (List.range rows).flatMap fun r =>
      let row := (List.range columns).filterMap fun c =>
        names[if down then c * rows + r else r * columns + c]?
      rowText 0 row sizes ++ ['\n']

/-- Names with commas between them, in lines of a width. The state is the column. -/
def withCommas (width : Nat) : Nat → List Bytes → Bytes
  | _, [] => []
  | column, name :: rest =>
    let after := column + name.length
    match rest with
    | [] => name
    | next :: _ =>
      if after + next.length + 2 < width || width = 0 then
        name ++ ',' :: ' ' :: withCommas width (after + 2) rest
      else name ++ ',' :: '\n' :: withCommas width 0 rest

/-! ### Lines -/

/-- What an entry is shown as, behind all that is known of it. -/
def Style.label (style : Style) (m : Machine) (e : Entry) : Bytes :=
  style.nameText e.name ++ match style.layout, e.node with
    | .long, .link target =>
      let goal := Bytes.ofList target
      let folder := FileTree.startOf e.place.dropLast target
      let found := (m.tree.walk none FileTree.linkLimit folder (FileTree.steps target)).toOption
      let mark := match found with
        | some (place, _) =>
          let place := place.reverse
          ((m.tree.at? place).map fun n => style.marks.of (modeAt m place) n).getD []
        | none => []
      " -> ".toList ++ style.nameText goal
        ++ (if style.marks = .all || style.marks = .kinds then mark else [])
    | _, node => style.marks.of (modeAt m e.place) node

/-- The size of an entry as it is shown. -/
def Style.sizeText (style : Style) (n : Nat) : Bytes :=
  if style.human then humanSize n else Bytes.ofNat n

def Style.blocksText (style : Style) (n : Nat) : Bytes :=
  if style.human then humanSize (n * 1024) else Bytes.ofNat n

/-- When an entry was changed. -/
def Style.timeText (style : Style) (m : Machine) (e : Entry) : Bytes :=
  let changed := changedAt m e.place
  let t := Calendar.Moment.ofSeconds (changed.fdiv 1000) ((changed % 1000).toNat * 1000000)
  if style.time.isEmpty then
    let recent := changed ≤ now m && now m - changed < 15778476000
    t.formatted (if recent then "%b %e %H:%M" else "%b %e  %Y").toList
  else t.formatted style.time

/-- The line with all that is known of an entry; the widths are those of the number of names and of
the size. -/
def Style.longText (style : Style) (m : Machine) (links sizes : Nat) (e : Entry) : Bytes :=
  let who := if style.numeric then ['0'] else "root".toList
  kindLetter e.node :: Mode.lettersOf (modeAt m e.place) ++ ' ' ::
    Bytes.padLeft links (Bytes.ofNat (namesOf e.node)) ++ ' ' ::
    (if style.owner then who ++ [' '] else []) ++ (if style.group then who ++ [' '] else []) ++
    Bytes.padLeft sizes (style.sizeText (sizeOf e.node)) ++ ' ' ::
    style.timeText m e ++ ' ' :: style.label m e

/-- The entries as they are shown. -/
def Style.text (style : Style) (m : Machine) (entries : List Entry) : Bytes :=
  let widest (f : Entry → Bytes) : Nat := (entries.map fun e => (f e).length).foldl max 0
  let blockWidth := if style.layout = .commas then 0
    else widest fun e => style.blocksText (blocksOf e.node)
  let inFront (e : Entry) : Bytes :=
    (if style.numbers then Bytes.ofNat (1000 + e.place.length) ++ [' '] else []) ++
    (if style.blocks then
      Bytes.padLeft blockWidth (style.blocksText (blocksOf e.node)) ++ [' '] else [])
  let labels := entries.map fun e => inFront e ++ style.label m e
  match style.layout with
  | .single => labels.flatMap (· ++ [style.ending])
  | .long =>
    let links := widest fun e => Bytes.ofNat (namesOf e.node)
    let sizes := widest fun e => style.sizeText (sizeOf e.node)
    entries.flatMap fun e => inFront e ++ style.longText m links sizes e ++ [style.ending]
  | .commas => if labels.isEmpty then [] else withCommas style.width 0 labels ++ ['\n']
  | .down => if style.width = 0 then Bytes.join "  ".toList labels ++ ['\n']
    else inColumns true style.width labels
  | .across => if style.width = 0 then Bytes.join "  ".toList labels ++ ['\n']
    else inColumns false style.width labels

/-! ### Folders -/

/-- What stands at a place, behind a link if links are followed. -/
def Style.seen (style : Style) (m : Machine) (place : Place) (node : FileTree) :
    Place × FileTree :=
  match style.follows, node with
  | true, .link target =>
    let folder := FileTree.startOf place.dropLast target
    match m.tree.walk none FileTree.linkLimit folder (FileTree.steps target) with
    | .ok (p, _) => (p.reverse, (m.tree.at? p.reverse).getD node)
    | .error _ => (place, node)
  | _, _ => (place, node)

/-- The entries of a folder that are shown, in order. -/
def Style.entries (style : Style) (m : Machine) (place : Place) (node : FileTree) : List Entry :=
  let inside := match node with
    | .folder entries => entries.reverse.map fun (name, n) =>
      let (p, n) := style.seen m (place ++ [name]) n
      (⟨Bytes.ofList name, p, n⟩ : Entry)
    | _ => []
  let dots := if style.dots then
      [(⟨['.'], place, node⟩ : Entry),
       ⟨['.', '.'], place.dropLast, (m.tree.at? place.dropLast).getD (.folder [])⟩]
    else []
  style.sorted m (dots ++ inside.filter fun e => style.shows e.name)

/-- The text for a folder, and those below it if they are asked for. -/
def Style.folderText (style : Style) (m : Machine) :
    Nat → Bool → Bytes → Place → FileTree → List Bytes
  | 0, _, _, _, _ => []
  | fuel + 1, titled, path, place, node =>
    let entries := style.entries m place node
    let title := if titled || style.recursive then style.nameText path ++ [':', '\n'] else []
    let total := if style.layout = .long || style.blocks then
        "total ".toList
          ++ style.blocksText (sumOf (entries.map fun e => blocksOf e.node)) ++ ['\n']
      else []
    let below := if !style.recursive then []
      else entries.flatMap fun e =>
        if e.node.isFolder && e.name != ['.'] && e.name != ['.', '.'] then
          style.folderText m fuel true (inFolder path e.name) e.place e.node
        else []
    (title ++ total ++ style.text m entries) :: below

/-! ### Options -/

def longLetter (n : Nat) : Char := Char.ofNat (256 + n)

def forms : List OptionForm :=
  [flag 'a' ["all"], flag 'A' ["almost-all"], flag 'b' ["escape"], flag 'B' ["ignore-backups"],
   flag 'd' ["directory"], variant 'F' [], flag 'G' ["no-group"],
   flag 'h' ["human-readable"], flag 'H' ["dereference-command-line"], flag 'i' ["inode"],
   setting 'I' ["ignore"], flag 'k' ["kibibytes"], flag 'L' ["dereference"],
   flag 'n' ["numeric-uid-gid"], flag 'N' ["literal"], flag 'q' ["hide-control-chars"],
   flag 'Q' ["quote-name"], flag 'r' ["reverse"], flag 'R' ["recursive"], flag 's' ["size"],
   setting 'T' ["tabsize"], setting 'w' ["width"], flag 'p' [],
   variant (longLetter 0) ["color"], setting (longLetter 1) ["sort"],
   setting (longLetter 2) ["format"], setting (longLetter 3) ["quoting-style"],
   flag (longLetter 4) ["group-directories-first"], setting (longLetter 5) ["hide"],
   flag (longLetter 6) ["file-type"], setting (longLetter 7) ["indicator-style"],
   setting (longLetter 8) ["time-style"], flag (longLetter 9) ["full-time"],
   setting (longLetter 10) ["time"], flag (longLetter 11) ["show-control-chars"],
   flag (longLetter 12) ["zero"], variant (longLetter 13) ["classify"], flag 'F' []]
   ++ switches "1CcDfglmotuUvxXSZ"

/-- The value of a word among some, which may be shortened. -/
def wordOf? {α : Type} (words : List (String × α)) (text : Bytes) : Option α :=
  (words.find? fun w => text.isPrefixOf w.1.toList).map (·.2)

def Style.with (style : Style) (option : Char) (text : Bytes) : Style :=
  match option with
  | 'a' => { style with hidden := true, dots := true }
  | 'A' => { style with hidden := true, dots := false }
  | 'b' => { style with names := .escaped }
  | 'B' => { style with ignored := ['*', '~'] :: style.ignored }
  | 'f' => { style with hidden := true, dots := true, order := .none }
  | 'F' => { style with marks := .all }
  | 'g' => { style with layout := .long, owner := false }
  | 'o' => { style with layout := .long, group := false }
  | 'G' => { style with group := false }
  | 'h' => { style with human := true }
  | 'i' => { style with numbers := true }
  | 'I' => { style with ignored := text :: style.ignored }
  | 'L' => { style with follows := true }
  | 'l' => { style with layout := .long }
  | 'n' => { style with layout := .long, numeric := true }
  | 'm' => { style with layout := .commas }
  | 'C' => { style with layout := .down }
  | 'x' => { style with layout := .across }
  | '1' => if style.layout = .long then style else { style with layout := .single }
  | 'N' => { style with names := .literal }
  | 'p' => { style with marks := .folders }
  | 'q' => { style with hides := true }
  | 'Q' => { style with names := .c }
  | 'r' => { style with reversed := true }
  | 'R' => { style with recursive := true }
  | 's' => { style with blocks := true }
  | 'S' => { style with order := .size }
  | 't' => { style with order := .time }
  | 'U' => { style with order := .none }
  | 'v' => { style with order := .version }
  | 'X' => { style with order := .ending }
  | 'w' => { style with width := (Bytes.toNat? text).getD 80 }
  | c =>
    if c = longLetter 1 then
      let words := [("none", Order.none), ("time", .time), ("size", .size), ("extension", .ending),
        ("version", .version), ("name", .name)]
      { style with order := (wordOf? words text).getD style.order }
    else if c = longLetter 2 then
      let words := [("verbose", Layout.long), ("long", .long), ("commas", .commas),
        ("horizontal", .across), ("across", .across), ("vertical", .down),
        ("single-column", .single)]
      { style with layout := (wordOf? words text).getD style.layout }
    else if c = longLetter 3 then
      let words := [("literal", Names.literal), ("shell-escape-always", .shellAlways),
        ("shell-always", .shellAlways), ("shell-escape", .shell), ("shell", .shell),
        ("c-maybe", .literal), ("c", .c), ("escape", .escaped)]
      let exact := words.lookup (String.ofList text)
      { style with names := (exact.or (wordOf? words text)).getD style.names }
    else if c = longLetter 4 then { style with foldersFirst := true }
    else if c = longLetter 5 then { style with hiddenToo := text :: style.hiddenToo }
    else if c = longLetter 6 then { style with marks := .kinds }
    else if c = longLetter 7 then
      let words := [("none", Marks.none), ("slash", .folders), ("file-type", .kinds),
        ("classify", .all)]
      { style with marks := (wordOf? words text).getD style.marks }
    else if c = longLetter 8 then
      let format := match text with
        | '+' :: f => f
        | _ =>
          match String.ofList text with
          | "full-iso" => "%Y-%m-%d %H:%M:%S.%N %z".toList
          | "long-iso" => "%Y-%m-%d %H:%M".toList
          | "iso" => "%m-%d %H:%M".toList
          | _ => []
      { style with time := format }
    else if c = longLetter 9 then
      { style with layout := .long, time := "%Y-%m-%d %H:%M:%S.%N %z".toList }
    else if c = longLetter 12 then
      { style with ending := '\x00', layout := if style.layout = .long then .long else .single }
    else if c = longLetter 13 then
      { style with marks := if "never".toList.isPrefixOf text && !text.isEmpty then .none
        else .all }
    else style

def Style.usual : Style :=
  ⟨.single, .name, false, false, .none, .literal, false, false, false, [], [], 80, false, false,
   false, true, true, false, false, false, [], '\n'⟩

/-- Look up an operand: a link is followed unless what is shown is the entry itself. -/
def lookUp (style : Style) (a : Arguments) (path : Bytes) : Shell (Except OsError Entry) := do
  let asEntry := !style.follows && (a.has 'd' || style.layout = .long || style.marks = .all)
    && !a.has 'H'
  let found ← if asEntry then entry? path else target? path
  match found with
  | .ok (place, node) => return .ok ⟨path, place, node⟩
  | .error e =>
    match ← entry? path with
    | .ok (place, .link target) =>
      return if style.follows || e != .noEntry then .error e
        else .ok ⟨path, place, .link target⟩
    | _ => return .error e

/-- How deep folders are shown. -/
def depthLimit : Nat := 4096

/-- Show entries; options change the style. -/
def listing (usual : Style) : Utility := withOptionsElse 2 forms fun name a => do
  let style := a.options.foldl (fun (s : Style) o => s.with o.1 o.2) usual
  let operands := if a.operands.isEmpty then [['.']] else a.operands
  let found ← operands.mapM fun path => do
    match ← lookUp style a path with
    | .ok e => return some e
    | .error e =>
      let _ ← cannot name "cannot access" path e
      return none
  let m ← get
  let sorted := style.sorted m (found.filterMap id)
  let isShown (e : Entry) : Bool := a.has 'd' || !e.node.isFolder
  let plain := sorted.filter isShown
  let folders := sorted.filter (!isShown ·)
  let titled := 1 < operands.length
  let texts := folders.flatMap fun e =>
    style.folderText m depthLimit titled e.name e.place e.node
  let first := if plain.isEmpty then [] else [style.text m plain]
  write 1 (Bytes.join ['\n'] (first ++ texts))
  return if found.all Option.isSome then 0 else 2

def ls : Utility := listing .usual

def dir : Utility := listing { Style.usual with layout := .down, names := .escaped }

def vdir : Utility := listing { Style.usual with layout := .long, names := .escaped }

end SvgSkeleton.Shell.Listing
