import SvgSkeleton.Shell.Utility.Launch
import SvgSkeleton.Shell.Utility.Search.Reader
import SvgSkeleton.Shell.Utility.Status

/-!
`find`: a walk through folders, on which a condition is tried on everything that is met.
-/

namespace SvgSkeleton.Shell.Search

/-! ### Finds -/

/-- What is met on the walk. -/
structure Find where
  path : Bytes
  /-- The path that the walk has begun with, and how deep below it is. -/
  start : Bytes
  depth : Nat
  place : Place
  node : FileTree
  /-- The text of the link that the path itself is. -/
  link : Option Bytes

/-- The path from the start of the walk on. -/
def Find.below (f : Find) : Bytes :=
  if f.depth = 0 then [] else (f.path.drop f.start.length).dropWhile (· == '/')

/-- The last name of a path, as it stands there. -/
def nameIn (path : Bytes) : Bytes :=
  let body := trimmedPath path
  if body.all (· == '/') then body
  else (path.take body.length).reverse.takeWhile (· != '/') |>.reverse

/-- The last name of a path with the slashes at its end. -/
def shownName (path : Bytes) : Bytes :=
  let body := trimmedPath path
  if body.all (· == '/') then path
  else nameIn path ++ path.drop body.length

/-- What stands in front of the last name of a path. -/
def headOf (path : Bytes) : Bytes :=
  let body := trimmedPath path
  if body.contains '/' then
    let head := body.take (body.length - (nameIn path).length - 1)
    head
  else ['.']

/-- The time at which it was changed, as a moment. -/
def momentAt (time : Int) : Calendar.Moment :=
  .ofSeconds (time.fdiv 1000) ((time % 1000).toNat * 1000000)

/-- The digits of a fraction of a second. -/
def fraction (t : Calendar.Moment) : Bytes := t.formatted ".%N".toList ++ ['0']

/-- A time as a letter shows it. -/
def timeText (time : Int) (letter : Char) : Bytes :=
  let t := momentAt time
  let f := fraction t
  match letter with
  | '@' => Bytes.ofInt (time.fdiv 1000) ++ f
  | '+' => t.formatted "%Y-%m-%d+%H:%M:%S".toList ++ f
  | 'S' => t.formatted "%S".toList ++ f
  | 'T' | 'X' => t.formatted "%H:%M:%S".toList ++ f
  | 'c' => t.formatted "%a %b %e %H:%M:%S".toList ++ t.formatted " %Y".toList
  | c => t.formatted ['%', c]

/-- What a directive of a format shows. -/
def Find.value (f : Find) (m : Machine) (letter detail : Char) : Except Bytes Int :=
  let mode := modeAt m f.place
  let time := changedAt m f.place
  let targetLetter : Char := match f.link with
    | none => Listing.kindLetter f.node
    | some target =>
      match m.tree.locate f.place.dropLast (Bytes.toList target) with
      | .ok place => (m.tree.at? place).elim 'N' Listing.kindLetter
      | .error .tooManyLinks => 'L'
      | .error _ => 'N'
  let plain (c : Char) : Char := if c = '-' then 'f' else c
  match letter with
  | 'p' => .error f.path
  | 'P' => .error f.below
  | 'H' => .error f.start
  | 'f' => .error (shownName f.path)
  | 'h' => .error (headOf f.path)
  | 'd' => .ok f.depth
  | 's' => .ok (Listing.sizeOf f.node)
  | 'k' => .ok (Listing.blocksOf f.node)
  | 'b' => .ok (2 * Listing.blocksOf f.node)
  | 'm' => .error (Nat.toDigits 8 mode)
  | 'M' => .error (Listing.kindLetter f.node :: Mode.lettersOf mode)
  | 'u' | 'g' => .error "root".toList
  | 'U' | 'G' | 'D' => .ok 0
  | 'i' => .ok 2
  | 'n' => .ok (Listing.namesOf f.node)
  | 'y' => .error [plain (Listing.kindLetter f.node)]
  | 'Y' => .error [plain targetLetter]
  | 'l' => .error (match f.node with
      | .link target => Bytes.ofList target
      | _ => [])
  | 'F' => .error "ext4".toList
  | 'S' => .error "1".toList
  | 'a' | 'c' | 't' => .error ((momentAt time).formatted "%a %b %e %H:%M:%S".toList
      ++ fraction (momentAt time) ++ (momentAt time).formatted " %Y".toList)
  | 'A' | 'B' | 'C' | 'T' => .error (timeText time detail)
  | _ => .error []

/-- A format filled with what is known. -/
def Find.filled (f : Find) (m : Machine) : List Piece → Bytes
  | [] => []
  | .stop :: _ => []
  | .text s :: rest => s ++ f.filled m rest
  | .directive flags width precision letter detail :: rest =>
    (match f.value m letter detail with
      | .ok n => showInteger flags 'd' width none n
      | .error s => inField flags width false [] (match precision with
        | some n => s.take n
        | none => s)) ++ f.filled m rest

/-! ### Walking -/

/-- What has come of the walk so far. -/
structure Progress where
  status : Nat
  /-- The folder at hand is not entered. -/
  pruned : Bool
  halted : Bool
  /-- Paths that wait for commands, the latest first, with their folders. -/
  waiting : List (Nat × Bytes × Bytes)

/-- A search at work. -/
structure Plan where
  name : Bytes
  call : Caller
  settings : Settings
  condition : Condition

abbrev Walk := StateT Progress Shell

def fault (p : Plan) (path : Bytes) (reason : Bytes) : Walk Unit := do
  utilityError p.name (Quoting.plain path ++ ": ".toList ++ reason)
  modify fun s => { s with status := 1 }

/-- Write to the output or behind what a file holds. -/
def emit (target : Target) (s : Bytes) : Shell Unit := do
  match target with
  | none => write 1 s
  | some path =>
    let _ ← putFile path true s

/-- An argument with a path in the place of every mark. -/
def marksFilled (path : Bytes) : Bytes → Bytes
  | '\x7b' :: '\x7d' :: r => path ++ marksFilled path r
  | c :: r => c :: marksFilled path r
  | [] => []

/-- Run a command in a folder; has it gone well? -/
def runIn (p : Plan) (folder : Option Bytes) (command : List Bytes) : Shell Bool := do
  let place ← match folder with
    | none => pure none
    | some path => do pure (← locate path).toOption
  match ← Launching.obstacle? (command.headD []) with
  | some e =>
    let _ ← Launching.cannotRun p.name (command.headD []) e
    return false
  | none =>
    let (status, _) ← inProcess do
      if let some place := place then modify fun m => { m with cwd := place }
      p.call (command.headD []) command.tail
    return status == 0

/-- Is a question answered with yes? -/
def agreedTo (command : List Bytes) (path : Bytes) : Shell Bool := do
  write 2 ("< ".toList ++ command.headD [] ++ " ... ".toList ++ path ++ " > ? ".toList)
  let answer ← readLine 0
  return answer.head?.any fun c => c == 'y' || c == 'Y'

/-- How a path is called from within its folder. -/
def calledInside (path : Bytes) : Bytes :=
  let name := nameIn path
  if name = ['/'] then name else "./".toList ++ name

/-- Run a command on all the paths that wait for it. -/
def flush (p : Plan) (a : Action) : Walk Unit := do
  let s ← get
  let (mine, others) := s.waiting.partition (·.1 == a.number)
  set { s with waiting := others }
  match mine.reverse with
  | [] => return ()
  | (number, folder, path) :: rest =>
    let paths := ((number, folder, path) :: rest).map (·.2.2)
    let good ← runIn p (if a.inFolder then some folder else none) (a.command ++ paths)
    unless good do modify fun s => { s with status := 1 }

/-- Carry out the action of running a command. -/
def runAction (p : Plan) (a : Action) (f : Find) : Walk Bool := do
  let folder := if a.inFolder then some (folderOf f.path) else none
  let called := if a.inFolder then calledInside f.path else f.path
  if a.asks then
    unless ← agreedTo a.command f.path do return false
  if a.gathers then
    let here := folder.getD []
    let waits := (← get).waiting.find? (·.1 == a.number)
    if waits.any (·.2.1 != here) then flush p a
    modify fun s => { s with waiting := (a.number, here, called) :: s.waiting }
    return true
  else runIn p folder (a.command.map (marksFilled called))

/-- Take away what was found. -/
def remove (p : Plan) (f : Find) : Walk Bool := do
  let refuse (reason : String) : Walk Bool := do
    utilityError p.name ("cannot delete ".toList ++ Quoting.plain f.path ++ ": ".toList
      ++ reason.toList)
    modify fun s => { s with status := 1 }
    return false
  if f.path = ['.'] then return true
  match ← entry? f.path with
  | .error _ => refuse "No such file or directory"
  | .ok (place, .folder []) =>
    eraseNode place
    return true
  | .ok (_, .folder _) => refuse "Directory not empty"
  | .ok (place, _) =>
    eraseNode place
    return true

def lower (s : Bytes) : Bytes := s.map Char.toLower

def fits (ignoreCase : Bool) (pattern s : Bytes) : Bool :=
  if ignoreCase then matchesPattern (lower pattern) (lower s) else matchesPattern pattern s

/-- The letter of a kind. -/
def kindOf (node : FileTree) : Char :=
  match Listing.kindLetter node with
  | '-' => 'f'
  | c => c

/-- The letter of the kind of what a path names, no link at its end followed. -/
def ownKind (path : Bytes) : Shell Char := do
  match ← entry? path with
  | .ok (_, node) => return kindOf node
  | .error _ => return ' '

/-- Try a test on what was found, or carry out an action. -/
def holdsTest (p : Plan) (f : Find) : Test → Walk Bool
  | .always answer => return answer
  | .name ignoreCase pattern => return fits ignoreCase pattern (nameIn f.path)
  | .path ignoreCase pattern => return fits ignoreCase pattern f.path
  | .linkText ignoreCase pattern =>
    match f.node with
    | .link target => return fits ignoreCase pattern (Bytes.ofList target)
    | _ => return false
  | .expression m => return m.matchesAll f.path
  | .kind letters => return letters.contains (kindOf f.node)
  | .targetKind letters => do
    let m ← (get : Shell Machine)
    let own ← ownKind f.path
    match if p.settings.follows = .all then .error [own] else f.value m 'Y' ' ' with
    | .error [c] => return letters.contains (if c = 'N' || c = 'L' then 'l' else c)
    | _ => return false
  | .empty =>
    match f.node with
    | .file content => return content.size == 0
    | .folder entries => return entries.isEmpty
    | _ => return false
  | .size b unit => return b.holds ((Listing.sizeOf f.node + unit - 1) / unit : Nat)
  | .newer time => do
    let m ← (get : Shell Machine)
    return time < changedAt m f.place
  | .age b unit whole => do
    let m ← (get : Shell Machine)
    let age := now m - changedAt m f.place
    if whole then return b.holds (age.fdiv unit)
    else
      match b.sign with
      | some '+' => return b.value * unit < age
      | some '-' => return age < b.value * unit
      | _ => return (b.value - 1) * unit < age && age ≤ b.value * unit
  | .permissions how bits => do
    let mode := modeAt (← (get : Shell Machine)) f.place
    return match how with
      | .exact => mode == bits
      | .all => mode &&& bits == bits
      | .one => bits == 0 || mode &&& bits != 0
  | .links b => return b.holds (Listing.namesOf f.node)
  | .same place => return f.place == place
  | .runs => do
    match f.node with
    | .folder _ => return true
    | _ => return modeAt (← (get : Shell Machine)) f.place &&& 0o111 != 0
  | .prune => do
    modify fun s => { s with pruned := true }
    return true
  | .quit => do
    modify fun s => { s with halted := true }
    return true
  | .print ending target => do
    emit target (f.path ++ [ending])
    return true
  | .format pieces target => do
    emit target (f.filled (← (get : Shell Machine)) pieces)
    return true
  | .delete => remove p f
  | .run a => runAction p a f

/-- Does a condition hold for what was found? -/
def holds (p : Plan) (f : Find) : Condition → Walk Bool
  | .test t => holdsTest p f t
  | .no c => do return !(← holds p f c)
  | .both a b => do
    if !(← holds p f a) then return false
    if (← get).halted then return true
    holds p f b
  | .either a b => do
    if ← holds p f a then return true
    holds p f b
  | .second a b => do
    let _ ← holds p f a
    if (← get).halted then return true
    holds p f b

/-- What is met at a path. -/
def meet (p : Plan) (start : Bytes) (depth : Nat) (path : Bytes) :
    Shell (Except OsError Find) := do
  let follows := p.settings.follows = .all || (p.settings.follows = .arguments && depth = 0)
  match ← entry? path with
  | .error e => return .error e
  | .ok (place, .link target) =>
    let asLink : Find := ⟨path, start, depth, place, .link target, some (Bytes.ofList target)⟩
    if follows then
      match ← target? path with
      | .ok (place, node) => return .ok ⟨path, start, depth, place, node, none⟩
      | .error .tooManyLinks => return .error .tooManyLinks
      | .error _ => return .ok asLink
    else if path.getLast? = some '/' then
      match ← target? path with
      | .ok (place, node) => return .ok ⟨path, start, depth, place, node, none⟩
      | .error e => return .error e
    else return .ok asLink
  | .ok (place, node) => return .ok ⟨path, start, depth, place, node, none⟩

/-- Walk from a path on. The folders on the way are given with their places. -/
def walk (p : Plan) (start : Bytes) : Nat → List (Place × Bytes) → Nat → Bytes → Walk Unit
  | 0, _, _, _ => return ()
  | fuel + 1, above, depth, path => do
    if (← get).halted then return ()
    match ← meet p start depth path with
    | .error e => fault p path (reasonText e)
    | .ok f =>
      match above.lookup f.place with
      | some first =>
        utilityError p.name ("File system loop detected; ".toList ++ Quoting.plain path
          ++ " is part of the same file system loop as ".toList ++ Quoting.plain first ++ ['.'])
        modify fun s => { s with status := 1 }
      | none =>
        let tried := p.settings.least.all (· ≤ depth)
        modify fun s => { s with pruned := false }
        if tried && !p.settings.depthFirst then
          let _ ← holds p f p.condition
        let s ← get
        let enters := f.node.isFolder && p.settings.most.all (depth < ·) && !s.halted
          && (!s.pruned || p.settings.depthFirst)
        if enters then
          match ← meet p start depth path with
          | .ok ⟨_, _, _, _, .folder entries, _⟩ =>
            (entriesOf (.folder entries)).forM fun (name, _) =>
              walk p start fuel ((f.place, path) :: above) (depth + 1) (inFolder path name)
          | .ok _ => return ()
          | .error e => fault p path (reasonText e)
        if tried && p.settings.depthFirst && !(← get).halted then
          let _ ← holds p f p.condition

/-- How deep folders may be. -/
def depthLimit : Nat := 4096

/-! ### The program -/

/-- The condition of some arguments, and the settings. -/
def read (name : Bytes) (args : List Bytes) (settings : Settings) :
    Shell (Except Bytes (Condition × Settings)) := do
  let (tokens, settings) ← ((tokensOf name (args.length + 1) [] args).run).run settings
  return do
    let c ← condition (← tokens)
    let c := if c.acts then c else .both c (.test (.print '\n' none))
    return (c, settings)

def find (call : Caller) : Utility := fun name args => do
  let (follows, args) := readFollowing .none args
  let starts := args.takeWhile (!beginsCondition ·)
  let rest := args.drop starts.length
  if rest.head? = some "--version".toList || rest.head? = some "-version".toList then
    write 1 "find (GNU findutils) 4.9.0\n".toList
    return 0
  match ← read name rest { Settings.usual with follows := follows } with
  | .error message =>
    utilityError name message
    return 1
  | .ok (c, settings) =>
    let plan : Plan := ⟨name, call, settings, c⟩
    let starts := if starts.isEmpty then [['.']] else starts
    let all : Walk Unit := do
      starts.forM fun path => walk plan path depthLimit [] 0 path
      c.gathering.forM (flush plan)
    let ((), progress) ← all.run ⟨0, false, false, []⟩
    return progress.status

end SvgSkeleton.Shell.Search
