import SvgSkeleton.Shell.Whole
import SvgSkeleton.Shell.Utility.Listing

/-!
`stat`: what is known of a file or a folder, in a format with directives.
-/

namespace SvgSkeleton.Shell.Status

/-- What is known of the thing that a path leads to. -/
structure Facts where
  path : Bytes
  place : Place
  node : FileTree
  mode : Nat
  /-- The number that it goes by. -/
  number : Nat
  /-- When it was changed, in milliseconds. -/
  changed : Int

/-- The words for the kind of a thing. -/
def kindWords : FileTree → String
  | .file content => if content.isEmpty then "regular empty file" else "regular file"
  | .special (.program _) => "regular file"
  | .folder _ => "directory"
  | .link _ => "symbolic link"
  | .special .pipe => "fifo"
  | .special _ => "character special file"

/-- The bits of the kind of a thing. -/
def kindBits : FileTree → Nat
  | .file _ | .special (.program _) => 0o100000
  | .folder _ => 0o40000
  | .link _ => 0o120000
  | .special .pipe => 0o10000
  | .special _ => 0o20000

def Facts.moment (f : Facts) : Calendar.Moment :=
  .ofSeconds (f.changed.fdiv 1000) ((f.changed % 1000).toNat * 1000000)

/-- The form of a date. -/
def dateForm : Bytes := "%Y-%m-%d %H:%M:%S.%N %z".toList

/-- The blocks of 512 bytes that a thing takes. -/
def blocks (node : FileTree) : Nat := 2 * Listing.blocksOf node

/-- What a directive shows: a text or a whole number. -/
def Facts.value? (f : Facts) (c : Char) : Option (Except Bytes Nat) :=
  let text (s : String) : Option (Except Bytes Nat) := some (.error s.toList)
  match c with
  | 'n' => some (.error f.path)
  | 'N' =>
    let shown := Quoting.always f.path
    some (.error (match f.node with
      | .link target => shown ++ " -> ".toList ++ Quoting.always (Bytes.ofList target)
      | _ => shown))
  | 's' => some (.ok (Listing.sizeOf f.node))
  | 'a' => some (.error (Nat.toDigits 8 f.mode))
  | 'A' => some (.error (Listing.kindLetter f.node :: Mode.lettersOf f.mode))
  | 'F' => text (kindWords f.node)
  | 'f' => some (.error (Nat.toDigits 16 (kindBits f.node + f.mode)))
  | 'u' | 'g' => some (.ok 0)
  | 'U' | 'G' => text "root"
  | 'h' => some (.ok (Listing.namesOf f.node))
  | 'b' => some (.ok (blocks f.node))
  | 'B' => some (.ok 512)
  | 'o' => some (.ok 4096)
  | 'i' => some (.ok f.number)
  | 'd' => some (.ok 65024)
  | 'D' => text "fe00"
  | 't' | 'T' | 'r' | 'R' => text "0"
  | 'C' => text "?"
  | 'm' => text "/"
  | 'x' | 'y' | 'z' | 'w' => some (.error (f.moment.formatted dateForm))
  | 'X' | 'Y' | 'Z' | 'W' => some (.error (Bytes.ofInt (f.changed.fdiv 1000)))
  | _ => none

/-- A format filled with what is known. Escapes count where the flag says so. -/
def Facts.fill (f : Facts) (escapes : Bool) : Nat → Bytes → Bytes
  | 0, _ => []
  | _ + 1, [] => []
  | fuel + 1, '%' :: r =>
    let flags := r.takeWhile fun c => "'-+ #0I".toList.contains c
    let r1 := r.drop flags.length
    let width := r1.takeWhile Char.isDigit
    let r2 := r1.drop width.length
    let (precision, r3) := match r2 with
      | '.' :: t =>
        let ds := t.takeWhile Char.isDigit
        (some (Text.ofDigits 10 ds), t.drop ds.length)
      | t => (none, t)
    let w := Text.ofDigits 10 width
    match r3 with
    | '%' :: rest => '%' :: f.fill escapes fuel rest
    | c :: rest =>
      let c := if (c = 'H' || c = 'L') && rest.head?.any Char.isAlpha then rest.headD c else c
      let rest := if r3.head?.any (fun h => h == 'H' || h == 'L') && rest.head?.any Char.isAlpha
        then rest.drop 1 else rest
      let shown := match f.value? c with
        | some (.error s) =>
          inField flags w (c == 'a') [] (match precision with
            | some p => s.take p
            | none => s)
        | some (.ok n) => showInteger flags 'u' w precision n
        | none => ['?']
      shown ++ f.fill escapes fuel rest
    | [] => '%' :: flags ++ width
  | fuel + 1, '\\' :: c :: r =>
    if !escapes then '\\' :: f.fill escapes fuel (c :: r)
    else
      let digits := ((c :: r).take 3).takeWhile fun d => '0' ≤ d && d ≤ '7'
      if !digits.isEmpty then
        Char.ofNat (Text.ofDigits 8 digits % 256)
          :: f.fill escapes fuel ((c :: r).drop digits.length)
      else
        let byte := match c with
          | 'a' => ['\x07']
          | 'b' => ['\x08']
          | 'e' => ['\x1b']
          | 'f' => ['\x0c']
          | 'n' => ['\n']
          | 'r' => ['\r']
          | 't' => ['\t']
          | 'v' => ['\x0b']
          | c => [c]
        byte ++ f.fill escapes fuel r
  | fuel + 1, c :: r => c :: f.fill escapes fuel r

/-- What is shown where no format is given. -/
def Facts.full (f : Facts) : Bytes :=
  let name := match f.node with
    | .link target => f.path ++ " -> ".toList ++ Bytes.ofList target
    | _ => f.path
  let left (width : Nat) (s : Bytes) : Bytes := s ++ List.replicate (width - s.length) ' '
  let date := f.moment.formatted dateForm
  "  File: ".toList ++ name ++ "\n  Size: ".toList ++ left 10 (Bytes.ofNat (Listing.sizeOf f.node))
    ++ "\tBlocks: ".toList ++ left 10 (Bytes.ofNat (blocks f.node)) ++ " IO Block: 4096   ".toList
    ++ (kindWords f.node).toList ++ "\nDevice: 254,0\tInode: ".toList
    ++ left 11 (Bytes.ofNat f.number) ++ " Links: ".toList
    ++ Bytes.ofNat (Listing.namesOf f.node) ++ "\nAccess: (".toList ++ Mode.shown 4 f.mode ++ ['/']
    ++ Listing.kindLetter f.node :: Mode.lettersOf f.mode
    ++ ")  Uid: (    0/    root)   Gid: (    0/    root)\nAccess: ".toList ++ date
    ++ "\nModify: ".toList ++ date ++ "\nChange: ".toList ++ date ++ "\n Birth: ".toList ++ date
    ++ ['\n']

/-- What is shown on one line. -/
def Facts.terse (f : Facts) : Bytes :=
  let seconds := Bytes.ofInt (f.changed.fdiv 1000)
  Bytes.join [' '] [f.path, Bytes.ofNat (Listing.sizeOf f.node), Bytes.ofNat (blocks f.node),
    Nat.toDigits 16 (kindBits f.node + f.mode), ['0'], ['0'], "fe00".toList,
    Bytes.ofNat f.number, Bytes.ofNat (Listing.namesOf f.node), ['0'], ['0'], seconds, seconds,
    seconds, seconds, "4096".toList] ++ ['\n']

def printfLetter : Char := Char.ofNat 256

def forms : List OptionForm :=
  [flag 'L' ["dereference"], flag 'f' ["file-system"], setting 'c' ["format"],
   setting printfLetter ["printf"], flag 't' ["terse"]]

def stat : Utility := withOptions forms fun name a => do
  if a.operands.isEmpty then return ← misused name "missing operand".toList 1
  forEach a.operands fun path => do
    match ← if a.has 'L' then target? path else entry? path with
    | .error e => cannot name (if a.has 'L' then "cannot stat" else "cannot statx") path e
    | .ok (place, node) =>
      let m ← get
      let f : Facts := ⟨path, place, node, modeAt m place, 1000 + place.length, changedAt m place⟩
      let shown := match a.value? 'c', a.value? printfLetter with
        | some form, _ => f.fill false (form.length + 1) form ++ ['\n']
        | none, some form => f.fill true (form.length + 1) form
        | none, none => if a.has 't' then f.terse else f.full
      write 1 shown
      return true

end SvgSkeleton.Shell.Status
