import SvgSkeleton.Shell.Builtin.Basic
import SvgSkeleton.Shell.Expansion

/-!
The commands of a shell that read: `read` takes a line apart, and `getopts` takes options from
arguments.
-/

namespace SvgSkeleton.Shell.Builtin

/-! ### Lines -/

/-- A line with its backslashes resolved where they count. Lines that a backslash joins are read
on. The flag says that the line was complete. -/
def fullLine (raw : Bool) : Nat → Shell (List Marked × Bool)
  | 0 => return ([], true)
  | fuel + 1 => do
    let line ← readLine 0
    let body := (Bytes.chomp line).filter (· != '\x00')
    let complete := line.getLast? == some '\n'
    if raw then return (body.map (·, false), complete)
    let rec resolve : Bytes → List Marked × Bool
      | [] => ([], false)
      | ['\\'] => ([], complete)
      | '\\' :: c :: r =>
        let (ms, joins) := resolve r
        ((c, true) :: ms, joins)
      | c :: r =>
        let (ms, joins) := resolve r
        ((c, false) :: ms, joins)
    let (ms, joins) := resolve body
    if joins then
      let (rest, complete) ← fullLine raw fuel
      return (ms ++ rest, complete)
    return (ms, complete)

/-- A line while it is taken apart into fields: the complete ones and the one at hand, latest
first. -/
structure Fields where
  done : List Bytes
  field : Bytes
  /-- How many fields may still come. -/
  left : Nat
  /-- Has a blank separator just ended a field? -/
  blank : Bool
  /-- How long the last field is without the separators at its end. -/
  kept : Option Nat

/-- Take in a further character of the last field. -/
def Fields.addLast (s : Fields) (c : Char) (separates blank : Bool) : Fields :=
  let longer := c :: s.field
  if blank then { s with field := longer, kept := some (s.kept.getD s.field.length) }
  else { s with field := longer, blank := false,
                kept := if separates && s.blank then s.kept else none }

/-- Take in a further character. -/
def Fields.add (ifs : Bytes) (s : Fields) (m : Marked) : Fields :=
  let (c, quoted) := m
  let separates := !quoted && ifs.contains c
  let blank := separates && Expansion.usualSeparators.contains c
  if s.left = 0 then s.addLast c separates blank
  else if s.blank then
    if blank then s
    else if separates then { s with blank := false }
    else { s with blank := false, field := [c] }
  else if !separates then { s with field := c :: s.field }
  else if blank && s.field.isEmpty then s
  else if s.left = 1 then
    { s with left := 0, blank := blank, field := c :: s.field, kept := some s.field.length }
  else
    { s with done := s.field.reverse :: s.done, field := [], left := s.left - 1, blank := blank }

/-- A line split for so many names; the last one gets all that is left. -/
def splitLine (ifs : Bytes) (names : Nat) (line : List Marked) : List Bytes :=
  let s := line.foldl (Fields.add ifs) ⟨[], [], names, false, none⟩
  let last := s.field.reverse
  let last := match s.kept with
    | some n => last.take n
    | none => last
  s.done.reverse ++ [last]

/-- How many lines one line may be joined from. -/
def joinLimit : Nat := 100000

def read : Builtin := fun args => do
  let (options, names) ← valuedOptions "r" "p" args
  if names.isEmpty then
    complain "arg count".toList
    return 2
  names.forM fun name => do
    if !isName name then failWith (name ++ ": bad variable name".toList)
  let (line, complete) ← fullLine (options.any (·.1 == 'r')) joinLimit
  let values := splitLine (← Expansion.separators) names.length line
  names.zipIdx.forM fun (name, i) => assign name (values.getD i [])
  return if complete then 0 else 1

/-! ### Options -/

/-- Set the variables that tell of an option, and note where to go on. -/
def tellOption (name value : Bytes) (argument : Option (Option Bytes)) (index : Nat)
    (offset : Option Nat) : Shell Unit := do
  match argument with
  | some (some a) => assign "OPTARG".toList a
  | some none => unsetVariable "OPTARG".toList
  | none => return ()
  assign "OPTIND".toList (Bytes.ofNat index)
  assign name value
  modify fun m => { m with optionIndex := index, optionOffset := offset }

/-- What a letter means among the known ones: nothing, or whether it takes a value. -/
def knownLetter? (c : Char) : Bytes → Option Bool
  | [] => none
  | d :: r =>
    if d = c then some (r.head? == some ':')
    else knownLetter? c (if r.head? = some ':' then r.tail else r)
termination_by s => s.length
decreasing_by
  cases r with
  | nil => simp
  | cons x r => split <;> simp only [List.tail_cons, List.length_cons] <;> omega

/-- The next option of the arguments. -/
def getopts : Builtin := fun args => do
  match args with
  | known :: name :: given => do
    unless isName name do failWith (name ++ ": bad variable name".toList)
    let m ← get
    let items := if given.isEmpty then m.args else given
    let silent := known.head? = some ':'
    let index := m.optionIndex
    let inside : Bytes := match m.optionOffset with
      | some n => if index ≤ 1 then [] else (items.getD (index - 2) []).drop n
      | none => []
    let finish (value : Bytes) (argument : Option Bytes) (index : Nat) (left : Bytes) :
        Shell Nat := do
      let offset := (items.getD (index - 2) []).length - left.length
      tellOption name value (some argument) index (if left.isEmpty then none else some offset)
      return 0
    let ended (index : Nat) : Shell Nat := do
      assign "OPTIND".toList (Bytes.ofNat index)
      assign name ['?']
      modify fun m => { m with optionIndex := index, optionOffset := none }
      return 1
    let option (c : Char) (left : Bytes) (index : Nat) : Shell Nat := do
      match knownLetter? c known with
      | none =>
        if silent then finish ['?'] (some [c]) index left
        else
          write 2 ("Illegal option -".toList ++ [c, '\n'])
          finish ['?'] none index left
      | some false => finish [c] (some []) index left
      | some true =>
        match left, items[index - 1]? with
        | [], some value => finish [c] (some value) (index + 1) []
        | [], none =>
          if silent then finish [':'] (some [c]) index []
          else
            write 2 ("No arg for -".toList ++ [c] ++ " option\n".toList)
            finish ['?'] none index []
        | left, _ => finish [c] (some left) index []
    match inside, items[index - 1]? with
    | c :: left, _ => option c left index
    | [], some ['-', '-'] => ended (index + 1)
    | [], some ('-' :: c :: left) => option c left (index + 1)
    | [], _ => ended index
  | _ => failWith "Usage: getopts optstring var [arg...]".toList

end SvgSkeleton.Shell.Builtin
