import SvgSkeleton.Shell.Builtin.Settings

/-!
The commands of a shell that have to do with signals and with commands in the background.
-/

namespace SvgSkeleton.Shell.Builtin

/-! ### Traps -/

/-- The name of a signal given by its name or its number. -/
def signal? (s : Bytes) : Option Bytes :=
  (Signal.ofText? s).bind fun n => (Signal.names[n]?).map String.toList

/-- Set or take away what runs on signals, up to a name that is none. -/
def trapAll (action : Option Bytes) : List Bytes → Shell Nat
  | [] => return 0
  | s :: rest => do
    match signal? s with
    | none =>
      write 2 ("trap: ".toList ++ s ++ ": bad trap\n".toList)
      return 1
    | some name =>
      modify fun m =>
        let others := m.traps.filter (·.1 != name)
        { m with traps := match action with
            | some action => (name, action) :: others
            | none => others }
      trapAll action rest

def trap : Builtin := fun args => do
  let (_, args) ← options "" args
  match args with
  | [] =>
    let m ← get
    Signal.names.forM fun name =>
      match m.traps.lookup name.toList with
      | some action =>
        write 1 ("trap -- ".toList ++ quoted action ++ ' ' :: name.toList ++ ['\n'])
      | none => return ()
    return 0
  | [s] => trapAll none [s]
  | action :: signals =>
    if action.all Char.isDigit && !action.isEmpty && (signal? action).isSome then trapAll none args
    else trapAll (if action = ['-'] then none else some action) signals

/-! ### Jobs -/

/-- Put a command that has been run, and when it ends, among those in the background. -/
def addJob (process status : Nat) (signal : Option Nat) (ends : Nat) : Shell Unit :=
  modify fun m =>
    let jobs := m.jobs.filter fun j => !(j.waited && j.ends ≤ m.time)
    let number := ((List.range (jobs.length + 1)).map (· + 1)).find? fun n =>
      !jobs.any (·.number == n)
    { m with jobs := ⟨number.getD 1, process, status, signal, ends, false⟩ :: jobs
             background := some process }

/-- The job that a text behind a percent sign means. -/
def job? (s : Bytes) : Shell Job := do
  let jobs := (← get).jobs
  let none {α : Type} : Shell α := failWith ("No such job: ".toList ++ s)
  match s with
  | ['%'] | ['%', '%'] | ['%', '+'] =>
    match jobs.head? with
    | some j => return j
    | Option.none => failWith "No current job".toList
  | ['%', '-'] =>
    match jobs[1]? with
    | some j => return j
    | Option.none => failWith "No previous job".toList
  | '%' :: digits =>
    match (Bytes.toNat? digits).bind fun n => jobs.find? (·.number == n) with
    | some j => return j
    | Option.none => none
  | _ => none

/-- Change a job. -/
def changeJob (process : Nat) (change : Job → Job) : Shell Unit := modify fun m =>
  { m with jobs := m.jobs.map fun j => if j.process = process then change j else j }

/-- Wait for a job to end, and tell of the signal that has ended it. -/
def waitForJob (j : Job) : Shell Nat := do
  let m ← get
  if m.deadline.any (· < j.ends) then
    set { m with time := m.deadline.getD m.time }
    throw .timedOut
  set { m with time := max m.time j.ends }
  unless j.waited do
    if let some n := j.signal then tellDeath n
  changeJob j.process fun j => { j with waited := true }
  return j.status

def waitFor : Builtin := fun args => do
  let (_, args) ← options "" args
  if args.isEmpty then
    (← get).jobs.forM fun j => do
      modify fun m => { m with time := max m.time j.ends }
      changeJob j.process fun j => { j with waited := true }
    return 0
  let statuses ← args.mapM fun s => do
    if s.head? = some '%' then waitForJob (← job? s)
    else
      let n ← number s
      match (← get).jobs.find? (·.process == n) with
      | some j => waitForJob j
      | none => return 127
  return statuses.getLastD 0

/-- How a job stands, as `jobs` says it. -/
def stateOf (j : Job) (time : Nat) : Bytes :=
  if j.ends > time then "Running".toList
  else
    match j.signal.bind Signal.farewell? with
    | some text => text.toList
    | none => if j.status = 0 then "Done".toList
      else "Done(".toList ++ Bytes.ofNat j.status ++ [')']

/-- The width of the column of `jobs`. -/
def jobColumn : Nat := 33

/-- Show jobs, and forget those that are over. -/
def showJobs (letters : Bytes) (shown : List Job) : Shell Unit := do
  shown.forM fun j => do
    let m ← get
    if letters.contains 'p' then write 1 (Bytes.ofNat j.process ++ ['\n'])
    else
      let mark (i : Nat) : Bool := m.jobs[i]?.any (·.process == j.process)
      let sign := if mark 0 then '+' else if mark 1 then '-' else ' '
      let process := if letters.contains 'l' then Bytes.ofNat j.process ++ [' '] else []
      let text := ['['] ++ Bytes.ofNat j.number ++ [']', ' ', sign, ' '] ++ process
        ++ stateOf j m.time
      write 1 (text ++ List.replicate (jobColumn - text.length) ' ' ++ ['\n'])
    modify fun m => { m with jobs := m.jobs.filter fun o =>
      o.ends > m.time || o.process != j.process }

def jobs : Builtin := fun args => do
  let (letters, args) ← options "lp" args
  if args.isEmpty then showJobs letters (← get).jobs
  else args.forM fun s => do showJobs letters [← job? s]
  return 0

/-- What needs a job that can be brought forward or sent on. -/
def resume : Builtin := fun args => do
  let (_, args) ← options "" args
  let j ← job? (args.headD ['%'])
  failWith ("job ".toList ++ Bytes.ofNat j.number ++ " not created under job control".toList)

end SvgSkeleton.Shell.Builtin
