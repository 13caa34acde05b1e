import SvgSkeleton.Shell.Machine
import SvgSkeleton.Shell.Whole

/-!
What the commands of a shell have in common: how they read options and numbers, and in which order
they list what they have remembered. The commands that end something are here, too.
-/

namespace SvgSkeleton.Shell

/-- A command of the shell works on its arguments; its result is its status. -/
abbrev Builtin := List Bytes → Shell Nat

namespace Builtin

/-- The options in front of the arguments, each with its value. Letters with a value are marked. -/
def optionsIn (known valued : String) : Nat → List Bytes → Shell (List (Char × Bytes) × List Bytes)
  | 0, args => return ([], args)
  | fuel + 1, args =>
    match args with
    | ['-', '-'] :: rest => return ([], rest)
    | ('-' :: c :: r) :: rest => do
      let here (o : Char × Bytes) (rest : List Bytes) :
          Shell (List (Char × Bytes) × List Bytes) := do
        let (more, rest) ← optionsIn known valued fuel rest
        return (o :: more, rest)
      if valued.toList.contains c then
        match r, rest with
        | [], [] => failWith ("No arg for -".toList ++ [c] ++ " option".toList)
        | [], v :: rest => here (c, v) rest
        | r, rest => here (c, r) rest
      else if known.toList.contains c then
        here (c, []) (if r.isEmpty then rest else ('-' :: r) :: rest)
      else failWith ("Illegal option -".toList ++ [c])
    | args => return ([], args)

/-- The options in front of the arguments, none of which has a value. -/
def options (known : String) (args : List Bytes) : Shell (Bytes × List Bytes) := do
  let fuel := sumOf (args.map fun a => a.length + 1) + 1
  let (found, rest) ← optionsIn known "" fuel args
  return (found.map (·.1), rest)

/-- The options in front of the arguments, some of which have values. -/
def valuedOptions (known valued : String) (args : List Bytes) :
    Shell (List (Char × Bytes) × List Bytes) :=
  optionsIn known valued (sumOf (args.map fun a => a.length + 1) + 1) args

/-- The largest number that a status can be given as. -/
def greatestNumber : Int := 2147483647

/-- A number that an argument must be. -/
def number (s : Bytes) : Shell Nat := do
  let w := Whole.signed (some 10) s
  let valid := !w.clamped && w.rest.length < s.length && w.rest.all Whole.isSpace
  if !valid || w.value < 0 || w.value > greatestNumber then
    failWith ("Illegal number: ".toList ++ s)
  return w.value.toNat

/-! ### Order -/

/-- The shelf that a name stands on, among so many. -/
def shelf (size : Nat) (name : Bytes) : Nat :=
  let sum := sumOf (name.map Char.toNat) + 16 * (name.headD '\x00').toNat
  sum % 32768 % size

/-- Entries in the order in which they stand on shelves. -/
def shelved {α : Type} (size : Nat) (entries : List (Bytes × α)) : List (Bytes × α) :=
  entries.mergeSort fun a b => shelf size a.1 ≤ shelf size b.1

/-! ### Leaving -/

def exit : Builtin := fun args => do
  match args with
  | [] => throw (.exit (← get).status)
  | n :: _ => throw (.exit (← number n))

def leave : Builtin := fun args => do
  match args with
  | [] => throw (.leaveFunction (← get).status)
  | n :: _ => throw (.leaveFunction (← number n))

/-- How many loops are meant, at most those that are at work. -/
def loopCount (args : List Bytes) : Shell Nat := do
  let n ← match args with
    | [] => pure 1
    | n :: _ => number n
  if n = 0 then failWith ("Illegal number: ".toList ++ args.headD [])
  return min n (← get).loops

def breakLoop : Builtin := fun args => do
  match ← loopCount args with
  | 0 => return 0
  | n =>
    setStatus 0
    throw (.leaveLoop n)

def nextRound : Builtin := fun args => do
  match ← loopCount args with
  | 0 => return 0
  | n =>
    setStatus 0
    throw (.nextRound n)

end Builtin
end SvgSkeleton.Shell
