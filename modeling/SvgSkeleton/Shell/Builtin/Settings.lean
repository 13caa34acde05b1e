import SvgSkeleton.Shell.Builtin.Basic

/-!
The settings of a shell, and `set`, which changes them and the positional parameters; then the
commands that define and mark variables.
-/

namespace SvgSkeleton.Shell.Builtin

/-- The settings by their names, with their letters. -/
def settingNames : List (String × Option Char) :=
  [("errexit", some 'e'), ("noglob", some 'f'), ("ignoreeof", some 'I'),
   ("interactive", some 'i'), ("monitor", some 'm'), ("noexec", some 'n'), ("stdin", some 's'),
   ("xtrace", some 'x'), ("verbose", some 'v'), ("vi", some 'V'), ("emacs", some 'E'),
   ("noclobber", some 'C'), ("allexport", some 'a'), ("notify", some 'b'), ("nounset", some 'u'),
   ("privileged", some 'p'), ("nolog", none), ("debug", none)]

/-- Turn the setting of a letter on or off. Each of the two ways to edit excludes the other one. -/
def switchLetter (on : Bool) (letter : Char) : Shell Unit := do
  if !(settingNames.any (·.2 == some letter)) then
    failWith ("Illegal option ".toList ++ [if on then '-' else '+', letter])
  if on && letter = 'm' then complain "can't access tty; job control turned off".toList
  modify fun m =>
    let others := m.switches.filter (· != letter)
    let others := if letter = 'V' then others.filter (· != 'E')
      else if letter = 'E' then others.filter (· != 'V') else others
    { m with switches := if on && letter != 'm' then letter :: others else others }

/-- Turn the setting of a name on or off. -/
def switchNamed (on : Bool) (name : Bytes) : Shell Unit := do
  match settingNames.lookup (String.ofList name) with
  | some (some 'm') => switchLetter on 'm'
  | some (some c) => modify fun m =>
    let others := m.switches.filter (· != c)
    { m with switches := if on then c :: others else others }
  | some none => return ()
  | none => failWith ("Illegal option ".toList ++ [if on then '-' else '+', 'o', ' '] ++ name)

/-- Show all settings, for a reader or as commands. -/
def showSettings (asCommands : Bool) : Shell Unit := do
  let s := (← get).switches
  unless asCommands do say "Current option settings\n"
  settingNames.forM fun (name, c) =>
    let on := c.any s.contains
    say (if asCommands then "set " ++ (if on then "-" else "+") ++ "o " ++ name ++ "\n"
      else name ++ "".pushn ' ' (16 - name.length) ++ (if on then "on" else "off") ++ "\n")

/-- Carry out the letters of an option, where `o` takes the first of the arguments that follow. -/
def switchLetters (on : Bool) : Bytes → List Bytes → Shell (List Bytes)
  | [], rest => return rest
  | 'o' :: letters, rest => do
    match rest with
    | [] => showSettings (!on)
    | name :: _ => switchNamed on name
    switchLetters on letters rest.tail
  | c :: letters, rest => do
    switchLetter on c
    switchLetters on letters rest

/-- Set what options say, up to the first argument that is none. The flag says that parameters
follow, of which there may be none. -/
def switchAll : Nat → List Bytes → Shell (Bool × List Bytes)
  | 0, args => return (false, args)
  | fuel + 1, args =>
    match args with
    | ['-', '-'] :: rest => return (true, rest)
    | ['-'] :: rest => do
      modify fun m => { m with switches := m.switches.filter fun c => c != 'x' && c != 'v' }
      return (false, rest)
    | ('-' :: letters) :: rest => do switchAll fuel (← switchLetters true letters rest)
    | ('+' :: letters) :: rest => do switchAll fuel (← switchLetters false letters rest)
    | args => return (false, args)

/-- The value in single quotes, as the shell reads it back. -/
def quoted (value : Bytes) : Bytes :=
  if value.contains '\'' then
    Bytes.join ['"', '\'', '"'] ((Bytes.splitAt '\'' value).map fun s =>
      if s.isEmpty then [] else ['\''] ++ s ++ ['\''])
  else ['\''] ++ value ++ ['\'']

/-- Show variables, in order of their names. -/
def showVariables (before : String) (p : Variable → Bool) : Shell Unit := do
  let entries := (← get).definitions.filter fun e => p e.2
  (entries.mergeSort fun a b => Bytes.inOrder a.1 b.1).forM fun (name, v) =>
    match v.value with
    | some value => write 1 (before.toList ++ name ++ '=' :: quoted value ++ ['\n'])
    | none => if before.isEmpty then return () else write 1 (before.toList ++ name ++ ['\n'])

def setArgs : Builtin := fun args => do
  if args.isEmpty then
    showVariables "" fun _ => true
    return 0
  let (given, rest) ← switchAll (args.length + 1) args
  if given || !rest.isEmpty then
    modify fun m => { m with args := rest, optionIndex := 1, optionOffset := none }
  return 0

/-! ### Variables -/

def shift : Builtin := fun args => do
  let n ← match args with
    | [] => pure 1
    | n :: _ => number n
  let m ← get
  if n > m.args.length then failWith "can't shift that many".toList
  set { m with args := m.args.drop n, optionIndex := 1, optionOffset := none }
  return 0

/-- The name and the value of a definition. -/
def definition (s : Bytes) : Shell (Bytes × Option Bytes) := do
  let name := s.takeWhile (· != '=')
  if !isName name then failWith (name ++ ": bad variable name".toList)
  let rest := s.drop name.length
  return (name, if rest.isEmpty then none else some (rest.drop 1))

def unset : Builtin := fun args => do
  let (letters, names) ← options "fv" args
  names.forM fun name => do
    if letters.getLast? = some 'f' then
      modify fun m => { m with functions := m.functions.filter (·.1 != name) }
    else
      let (name, _) ← definition name
      match ← definition? name with
      | some ⟨_, _, true⟩ => failWith (name ++ ": is read only".toList)
      | _ => unsetVariable name
  return 0

/-- Mark variables, and give them values where there are any. -/
def markVariables (shown : String) (listed : Variable → Bool) (mark : Variable → Variable) :
    Builtin := fun args => do
  let (letters, definitions) ← options "p" args
  if definitions.isEmpty || letters.contains 'p' then
    showVariables shown listed
    return 0
  definitions.forM fun s => do
    let (name, value) ← definition s
    match value with
    | some value => assign name value
    | none => pure ()
    setVariable name (mark ((← definition? name).getD ⟨none, false, false⟩))
  return 0

def exportAll : Builtin := markVariables "export " (·.exported) fun v => { v with exported := true }

def readOnly : Builtin :=
  markVariables "readonly " (·.readOnly) fun v => { v with readOnly := true }

/-- The settings as a variable that a function can make its own. -/
def settingsAsVariable : Shell Variable := do return ⟨some (← get).switches, false, false⟩

/-- Make variables ones of the function at work; a dash means the settings. -/
def makeLocal : Builtin := fun args => do
  let m ← get
  match m.hidden with
  | [] => failWith "not in a function".toList
  | _ =>
    args.forM fun s => do
      let (name, value) ← if s = ['-'] then pure (s, none) else definition s
      let old ← if s = ['-'] then some <$> settingsAsVariable else definition? name
      modify fun m => match m.hidden with
        | [] => m
        | saved :: outer =>
          if saved.any (·.1 == name) then m
          else { m with hidden := ((name, old) :: saved) :: outer }
      match value with
      | some value => assign name value
      | none => return ()
    return 0

/-- Put back what a function had made its own. -/
def restore (saved : List (Bytes × Option Variable)) : Shell Unit :=
  saved.forM fun (name, old) => match old with
    | some v =>
      if name = ['-'] then modify fun m => { m with switches := v.value.getD [] }
      else setVariable name v
    | none => unsetVariable name

end SvgSkeleton.Shell.Builtin
