import SvgSkeleton.Shell.Builtin.Settings
import SvgSkeleton.Shell.Lookup
import SvgSkeleton.Shell.Mode

/-!
The commands of a shell that say what names stand for, and what new files and processes get.
-/

namespace SvgSkeleton.Shell.Builtin

/-! ### Abbreviations -/

/-- How many shelves there are for abbreviations, and for the paths of programs. -/
def aliasShelves : Nat := 39

def programShelves : Nat := 31

def showAlias (name value : Bytes) : Bytes := name ++ '=' :: quoted value ++ ['\n']

/-- Say that a name is none that the command knows. -/
def notFound (command : String) (name : Bytes) : Shell Unit :=
  write 2 (command.toList ++ ": ".toList ++ name ++ " not found\n".toList)

/-- The name in front of an equals sign that is not the first character, and what follows. -/
def aliasDefinition? (s : Bytes) : Option (Bytes × Bytes) :=
  match s with
  | [] => none
  | c :: r =>
    let name := r.takeWhile (· != '=')
    match r.drop name.length with
    | [] => none
    | _ :: value => some (c :: name, value)

def abbreviate : Builtin := fun args => do
  if args.isEmpty then
    (shelved aliasShelves (← get).aliases).forM fun (name, value) => write 1 (showAlias name value)
    return 0
  let outcomes ← args.mapM fun s => do
    match aliasDefinition? s with
    | some (name, value) =>
      modify fun m =>
        let known := m.aliases.any (·.1 == name)
        { m with aliases := if known then m.aliases.map fun e =>
            if e.1 = name then (name, value) else e
          else m.aliases ++ [(name, value)] }
      return true
    | none =>
      match (← get).aliases.lookup s with
      | some value =>
        write 1 (showAlias s value)
        return true
      | none =>
        notFound "alias" s
        return false
  return if outcomes.all id then 0 else 1

def unalias : Builtin := fun args => do
  let (letters, names) ← options "a" args
  if !letters.isEmpty then
    modify fun m => { m with aliases := [] }
    return 0
  let outcomes ← names.mapM fun name => do
    let known := (← get).aliases.any (·.1 == name)
    if known then modify fun m => { m with aliases := m.aliases.filter (·.1 != name) }
    else notFound "unalias" name
    return known
  return if outcomes.all id then 0 else 1

/-! ### Paths of programs -/

/-- Remember the paths of programs, or show those that are remembered. -/
def hash (isBuiltin : Bytes → Bool) : Builtin := fun args => do
  let (letters, names) ← options "r" args
  if !letters.isEmpty then
    modify fun m => { m with hashed := [] }
    return 0
  if names.isEmpty then
    (shelved programShelves (← get).hashed).forM fun (_, path) => write 1 (path ++ ['\n'])
    return 0
  let outcomes ← names.mapM fun name => do
    if isBuiltin name || ((← get).functions.lookup name).isSome then return true
    modify fun m => { m with hashed := m.hashed.filter (·.1 != name) }
    match ← Program.find name with
    | .missing =>
      complain (name ++ ": not found".toList)
      return false
    | _ => return true
  return if outcomes.all id then 0 else 1

/-! ### Permissions and limits -/

/-- The permissions that a mask leaves, for the owner, the group and the others. -/
def symbolicMask (mask : Nat) : Bytes :=
  let left := Mode.without 0o777 mask
  let one (who : Char) (shift : Nat) : Bytes :=
    [who, '='] ++ (['r', 'w', 'x'].zip [4, 2, 1]).filterMap fun (c, bit) =>
      if (left >>> shift) &&& bit != 0 then some c else none
  Bytes.join [','] [one 'u' 6, one 'g' 3, one 'o' 0]

def umask : Builtin := fun args => do
  let (letters, args) ← options "S" args
  let mask := (← get).mask
  match args with
  | [] =>
    write 1 ((if letters.isEmpty then Mode.shown 4 mask else symbolicMask mask) ++ ['\n'])
    return 0
  | text :: _ =>
    let new ←
      if text.head?.any Char.isDigit then
        match Mode.octal? text with
        | some n => pure (n &&& 0o777)
        | none => failWith ("Illegal number: ".toList ++ text)
      else
        match Mode.change? text false 0 (Mode.without 0o777 mask) with
        | some mode => pure (Mode.without 0o777 mode)
        | none => failWith ("Illegal mode: ".toList ++ text)
    modify fun m => { m with mask := new }
    return 0

/-- A limit: its letter, its name, and what it and the one that it cannot be raised beyond are at
first. -/
structure Limit where
  letter : Char
  name : String
  soft : Option Nat
  hard : Option Nat

def limits : List Limit :=
  [⟨'t', "time(seconds)", none, none⟩, ⟨'f', "file(blocks)", none, none⟩,
   ⟨'d', "data(kbytes)", none, none⟩, ⟨'s', "stack(kbytes)", some 8192, none⟩,
   ⟨'c', "coredump(blocks)", some 0, none⟩, ⟨'m', "memory(kbytes)", none, none⟩,
   ⟨'l', "locked memory(kbytes)", some 8192, some 8192⟩, ⟨'p', "process", none, none⟩,
   ⟨'n', "nofiles", some 1048576, some 1048576⟩, ⟨'v', "vmemory(kbytes)", none, none⟩,
   ⟨'w', "locks", none, none⟩, ⟨'r', "rtprio", some 0, some 0⟩]

/-- Is a limit above another one? -/
def exceeds (a b : Option Nat) : Bool :=
  match a, b with
  | _, none => false
  | none, some _ => true
  | some a, some b => b < a

/-- The column behind the names of limits. -/
def limitColumn : Nat := 21

/-- A limit as it is, and the one that it cannot be raised beyond. -/
def Limit.current (l : Limit) : Shell (Option Nat × Option Nat) := do
  return ((← get).limits.lookup l.letter).getD (l.soft, l.hard)

def ulimit : Builtin := fun args => do
  let (letters, args) ← options "HSatfdsmcnpvlwr" args
  let which := ((letters.filter fun c => !"HSa".toList.contains c).getLast?).getD 'f'
  let how := (letters.filter fun c => "HS".toList.contains c).getLast?
  let shown (l : Limit) : Shell Bytes := do
    let (soft, hard) ← l.current
    let value := if how = some 'H' then hard else soft
    return (match value with
      | some n => Bytes.ofNat n
      | none => "unlimited".toList) ++ ['\n']
  let some limit := limits.find? (·.letter == which) | return 0
  match args with
  | [] =>
    if letters.contains 'a' then
      limits.forM fun l => do
        let name := l.name.toList
        write 1 (name ++ List.replicate (limitColumn - 1 - name.length) ' ' ++ ' ' :: (← shown l))
    else write 1 (← shown limit)
    return 0
  | value :: rest =>
    if letters.contains 'a' || !rest.isEmpty then failWith "too many arguments".toList
    let value : Option Nat ← if value = "unlimited".toList then pure none
      else if value.all Char.isDigit then pure (some (Text.ofDigits 10 value))
      else failWith "bad number".toList
    let (soft, hard) ← limit.current
    let refuse (reason : String) : Shell Nat :=
      failWith ("error setting limit (" ++ reason ++ ")").toList
    let newHard := if how = some 'S' then hard else value
    let newSoft := if how = some 'H' then soft else value
    if exceeds newSoft newHard then refuse "Invalid argument"
    else if exceeds newHard hard then refuse "Operation not permitted"
    else
      modify fun m => { m with
        limits := (which, newSoft, newHard) :: m.limits.filter (·.1 != which) }
      return 0

def times : Builtin := fun _ => do
  say "0m0.000000s 0m0.000000s\n0m0.000000s 0m0.000000s\n"
  return 0

end SvgSkeleton.Shell.Builtin
