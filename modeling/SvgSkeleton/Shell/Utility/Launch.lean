import SvgSkeleton.Shell.Floating
import SvgSkeleton.Shell.Utility.Path

/-!
Programs that run another one, under other conditions: `nice`, `nohup`, `stdbuf`, `setsid` and
`timeout`; and `sleep`, which a span of time ends.
-/

namespace SvgSkeleton.Shell.Launching

/-! ### Running another program -/

/-- How a program complains of another one that it cannot run. -/
def complaintOf (name program : Bytes) : Bytes :=
  let called := String.ofList (lastName name)
  if called = "xargs" then program
  else if called = "setsid" then "failed to execute ".toList ++ program
  else if called = "timeout" || called = "nohup" || called = "stdbuf" then
    "failed to run command ".toList ++ Quoting.plain program
  else Quoting.plain program

/-- Complain that a program cannot be run. -/
def cannotRun (name program : Bytes) (reason : OsError) : Shell Nat := do
  utilityError name (complaintOf name program ++ ": ".toList ++ reasonText reason)
  return if reason = .noEntry then 127 else 126

/-- Why a program cannot be run; nothing if it can. -/
def obstacle? (program : Bytes) : Shell (Option OsError) := do
  match ← Program.find program with
  | .program _ | .script _ => return none
  | .missing => return some .noEntry
  | .refused e => return some e

/-- Run a program from within another one. -/
def runFrom (call : Caller) (name : Bytes) (command : List Bytes) : Shell Nat := do
  match command with
  | [] => return 0
  | program :: args =>
    match ← obstacle? program with
    | none => call program args
    | some e => cannotRun name program e

/-- A program with options in front of the command that it runs. -/
def withCommand (forms : List OptionForm) (act : Bytes → Arguments → Shell Nat) : Utility :=
  fun name args =>
    match readArguments forms false (args.length + 1) args with
    | .error fault => misused name fault.message 125
    | .ok a => act name a

/-! ### Conditions -/

def nohup (call : Caller) : Utility := withCommand [] fun name a =>
  if a.operands.isEmpty then misused name "missing operand".toList 125
  else runFrom call name a.operands

def setsid (call : Caller) : Utility := withCommand (switches "cfw") fun name a =>
  if a.operands.isEmpty then misused name "no command specified".toList 1
  else runFrom call name a.operands

/-- Is it a way to hold back what is written? -/
def isBuffering (s : Bytes) : Bool := s = ['L'] || (Bytes.toNat? (s.takeWhile Char.isDigit)).isSome

def stdbuf (call : Caller) : Utility :=
  withCommand [setting 'i' ["input"], setting 'o' ["output"], setting 'e' ["error"]]
      fun name a => do
    match a.options.find? fun o => !isBuffering o.2 with
    | some (_, mode) =>
      utilityError name ("invalid mode ".toList ++ Quoting.plain mode)
      return 125
    | none =>
      if a.operands.isEmpty then misused name "missing operand".toList 125
      else if a.options.isEmpty then
        misused name "you must specify a buffering mode option".toList 125
      else runFrom call name a.operands

/-- How far a process stands back at the least and at the most. -/
def leastNiceness : Int := -20

def greatestNiceness : Int := 19

/-- Digits are options of `nice` as well; they are gathered to a number. -/
def niceForms : List OptionForm := setting 'n' ["adjustment"] :: switches "0123456789"

def nice (call : Caller) : Utility := withCommand niceForms fun name a => do
  let digits := (a.options.filter (·.1.isDigit)).map (·.1)
  let given := (a.value? 'n').or (if digits.isEmpty then none else some digits)
  if a.operands.isEmpty then
    if given.isSome then misused name "a command must be given with an adjustment".toList 125
    else
      write 1 (Bytes.ofInt (← get).niceness ++ ['\n'])
      return 0
  else
    match Bytes.toInt? (given.getD "10".toList) with
    | none =>
      utilityError name ("invalid adjustment ".toList ++ Quoting.plain (given.getD []))
      return 125
    | some n =>
      modify fun m => { m with
        niceness := max leastNiceness (min greatestNiceness (m.niceness + n)) }
      runFrom call name a.operands

/-! ### Time -/

/-- How many seconds the letter behind a span of time stands for. -/
def unit? (s : Bytes) : Option Nat :=
  match s with
  | [] | ['s'] => some 1
  | ['m'] => some 60
  | ['h'] => some 3600
  | ['d'] => some 86400
  | _ => none

/-- The span of time that a text writes, in milliseconds; none of them if it has no end. -/
def span? (s : Bytes) : Option (Option Nat) :=
  let r := Floating.read .extended s
  if r.rest.length = s.length then none
  else
    (unit? r.rest).bind fun unit =>
      match r.value with
      | .finite false num den => some (some (num * unit * 1000 / den))
      | .infinite false => some none
      | _ => none

/-- Wait for some milliseconds, or without end. When it takes too long there is no more time. -/
def wait (span : Option Nat) : Shell Unit := do
  let m ← get
  let goal := span.map (m.time + ·)
  match m.deadline with
  | some t =>
    if goal.all (t < ·) then
      set { m with time := t }
      throw .timedOut
    else set { m with time := goal.getD t }
  | none => set { m with time := goal.getD m.time }

def sleep : Utility := withOptions [] fun name a => do
  if a.operands.isEmpty then return ← misused name "missing operand".toList 1
  let spans := a.operands.map fun s => (s, span? s)
  let faulty := spans.filter (·.2.isNone)
  if !faulty.isEmpty then
    faulty.forM fun (s, _) =>
      utilityError name ("invalid time interval ".toList ++ Quoting.plain s)
    tryHelp name
    return 1
  wait ((spans.filterMap (·.2)).foldr (fun a b => a.bind fun a => b.map (a + ·)) (some 0))
  return 0

/-- The letter of an option that has only a long name. -/
def preserveLetter : Char := Char.ofNat 256

def timeoutForms : List OptionForm :=
  [setting 'k' ["kill-after"], setting 's' ["signal"], flag 'v' ["verbose"],
   flag 'f' ["foreground"], flag preserveLetter ["preserve-status"]]

/-- The status that says that time was up. -/
def lateStatus : Nat := 124

/-- Do something that must end in time. The flag says that it has not. -/
def inTime (limit : Option Nat) (act : Shell Nat) : Shell (Nat × Bool) := fun m =>
  let own := limit.map (m.time + ·)
  let sooner := match own, m.deadline with
    | some t, some d => some (min t d)
    | t, d => t.or d
  match act { m with deadline := sooner } with
  | (.ok n, m') => (.ok (n, false), { m' with deadline := m.deadline })
  | (.error .timedOut, m') =>
    let m' := { m' with deadline := m.deadline }
    if own.any fun t => m.deadline.all (t < ·) then (.ok (0, true), m')
    else (.error .timedOut, m')
  | (.error e, m') => (.error e, { m' with deadline := m.deadline })

def timeout (call : Caller) : Utility :=
  withCommand timeoutForms fun name a => do
    let signal := (a.value? 's').map Signal.ofText?
    match signal, a.operands with
    | some none, _ =>
      misused name (Quoting.plain ((a.value? 's').getD []) ++ ": invalid signal".toList) 125
    | _, span :: program :: command =>
      match span? span with
      | none => misused name ("invalid time interval ".toList ++ Quoting.plain span) 125
      | some limit =>
        let limit := if limit = some 0 then none else limit
        let (status, late) ← inTime limit (runFrom call name (program :: command))
        if !late then return status
        let n := (signal.bind id).getD Signal.term
        if a.has 'v' then
          utilityError name ("sending signal ".toList ++ (Signal.names.getD n "").toList
            ++ " to command ".toList ++ Quoting.plain program)
        if n = Signal.ending then throw (.killed n)
        return if a.has preserveLetter then 128 + n else lateStatus
    | _, _ => do
      tryHelp name
      return 125

end SvgSkeleton.Shell.Launching
