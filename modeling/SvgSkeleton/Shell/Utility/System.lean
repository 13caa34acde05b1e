import SvgSkeleton.Shell.Utility.Files

/-!
Utilities that tell of the system and of who uses it: `date`, `id`, `whoami`, `uname` and others.
-/

namespace SvgSkeleton.Shell.System

/-! ### `date` -/

def isoLetter : Char := Char.ofNat 256
def rfcLetter : Char := Char.ofNat 257
def debugLetter : Char := Char.ofNat 258

def dateForms : List OptionForm :=
  [setting 'd' ["date"], setting 'f' ["file"], variant 'I' ["iso-8601"], setting 'r' ["reference"],
   flag 'R' ["rfc-email", "rfc-822", "rfc-2822"], setting rfcLetter ["rfc-3339"],
   setting 's' ["set"], flag 'u' ["utc", "universal"], flag debugLetter ["debug"]]

/-- The form that a precision asks for. -/
def isoForm (separator zone : String) (precision : Bytes) : Option String :=
  let words := [("hours", "%H"), ("minutes", "%H:%M"), ("seconds", "%H:%M:%S"),
    ("ns", "%H:%M:%S,%N")]
  if precision.isEmpty || precision.isPrefixOf "date".toList then some "%Y-%m-%d"
  else (words.find? fun w => precision.isPrefixOf w.1.toList).map fun w =>
    "%Y-%m-%d" ++ separator ++ w.2 ++ zone

/-- The form in which a date is shown. -/
def dateForm (a : Arguments) : Option Bytes :=
  match a.operands with
  | ('+' :: form) :: _ => some form
  | _ =>
    if a.has 'R' then some "%a, %d %b %Y %H:%M:%S %z".toList
    else if a.has 'I' then (isoForm "T" "%:z" ((a.value? 'I').getD [])).map String.toList
    else if a.has rfcLetter then
      (isoForm " " "%:z" ((a.value? rfcLetter).getD [])).map String.toList
    else some "%a %b %e %H:%M:%S %Z %Y".toList

def date : Utility := withOptions dateForms fun name a => do
  let today ← momentNow
  let extra := match a.operands with
    | ('+' :: _) :: x :: _ => some x
    | ('+' :: _) :: [] => none
    | x :: _ => some x
    | [] => none
  if let some x := extra then
    if a.operands.length = 1 then
      utilityError name ("invalid date ".toList ++ Quoting.always x)
      return 1
    return ← misused name ("extra operand ".toList ++ Quoting.plain x) 1
  let some form := dateForm a | return 1
  let tell (s : Int) (nano : Nat) : Shell Unit :=
    write 1 ((Calendar.Moment.ofSeconds s nano).formatted form ++ ['\n'])
  match a.value? 'd', a.value? 'r' with
  | some text, _ =>
    match Calendar.read? today text with
    | some (s, nano) =>
      tell s nano
      return 0
    | none =>
      utilityError name ("invalid date ".toList ++ Quoting.always text)
      return 1
  | none, some path =>
    match ← target? path with
    | .ok (place, _) =>
      let t := changedAt (← get) place
      tell (t.fdiv 1000) ((t % 1000).toNat * 1000000)
      return 0
    | .error e =>
      fileError name path e
      return 1
  | none, none =>
    tell today.seconds today.nano
    return 0

/-! ### Users -/

def idForms : List OptionForm :=
  [flag 'u' ["user"], flag 'g' ["group"], flag 'G' ["groups"], flag 'n' ["name"],
   flag 'r' ["real"], flag 'z' ["zero"], flag 'a' [], flag 'Z' ["context"]]

/-- Is it a name of the user? -/
def isUser (s : Bytes) : Bool := s = "root".toList || s = ['0']

def id : Utility := withOptions idForms fun name a => do
  match a.operands.find? (!isUser ·) with
  | some other =>
    utilityError name (Quoting.always other ++ ": no such user".toList)
    return 1
  | none =>
    if 1 < (a.options.filter fun o => "ugG".toList.contains o.1).length then
      utilityError name "cannot print \"only\" of more than one choice".toList
      return 1
    let one := a.has 'u' || a.has 'g' || a.has 'G'
    if !one && (a.has 'n' || a.has 'r') then
      utilityError name "cannot print only names or real IDs in default format".toList
      return 1
    let text := if one then (if a.has 'n' then "root" else "0")
      else "uid=0(root) gid=0(root) groups=0(root)"
    write 1 (text.toList ++ [if a.has 'z' then '\x00' else '\n'])
    return 0

/-- A utility that says one thing. -/
def saying (text : String) : Utility := withOptions [] fun name a => do
  match a.operands with
  | extra :: _ => misused name ("extra operand ".toList ++ Quoting.plain extra) 1
  | [] =>
    say (text ++ "\n")
    return 0

def groups : Utility := withOptions [] fun name a => do
  if a.operands.isEmpty then
    say "root\n"
    return 0
  forEach a.operands fun user => do
    if isUser user then
      say "root : root\n"
      return true
    utilityError name (Quoting.always user ++ ": no such user".toList)
    return false

def logname : Utility := withOptions [] fun name _ => do
  utilityError name "no login name".toList
  return 1

def tty : Utility := withOptionsElse 2 [flag 's' ["silent", "quiet"]] fun _ a => do
  unless a.has 's' do say "not a tty\n"
  return 1

/-! ### The machine -/

/-- What the system is, by the letters of the options that ask for it, in the order in which it is
shown. -/
def systemFacts : List (Char × String) :=
  [('s', "Linux"), ('n', "localhost"), ('r', "6.8.0"), ('v', "#1 SMP PREEMPT_DYNAMIC"),
   ('m', "x86_64"), ('p', "x86_64"), ('i', "x86_64"), ('o', "GNU/Linux")]

def uname : Utility :=
  withOptions [flag 'a' ["all"], flag 's' ["kernel-name"], flag 'n' ["nodename"],
    flag 'r' ["kernel-release"], flag 'v' ["kernel-version"], flag 'm' ["machine"],
    flag 'p' ["processor"], flag 'i' ["hardware-platform"], flag 'o' ["operating-system"]]
    fun name a => do
      match a.operands with
      | extra :: _ => misused name ("extra operand ".toList ++ Quoting.plain extra) 1
      | [] =>
        let shown := systemFacts.filter fun f => a.has 'a' || a.has f.1
        let shown := if shown.isEmpty then systemFacts.take 1 else shown
        write 1 (Bytes.join [' '] (shown.map (·.2.toList)) ++ ['\n'])
        return 0

def nproc : Utility := withOptions [flag 'a' ["all"], setting 'i' ["ignore"]] fun _ _ => do
  say "1\n"
  return 0

/-- The input is never a terminal, which is all that could be asked. -/
def stty : Utility := fun name _ => do
  utilityError name "'standard input': Inappropriate ioctl for device".toList
  return 1

end SvgSkeleton.Shell.System
