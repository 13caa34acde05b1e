import SvgSkeleton.Shell.Run.Call

/-!
Running commands. A command that holds others is given a way to run them; `run` ties the knot, with
a bound on how deep commands may be nested.
-/

namespace SvgSkeleton.Shell

/-! ### Loops -/

/-- What a loop does after a round. -/
inductive Round where
  | on
  | over
  deriving DecidableEq

/-- Do a part of a loop. What leaves a loop from inside of it concerns this one or, with one loop
less to leave, those around it. -/
def inLoop (act : Shell Unit) : Shell Round := fun m =>
  match act { m with loops := m.loops + 1 } with
  | (.ok (), m') => (.ok .on, { m' with loops := m.loops })
  | (.error (.leaveLoop (n + 2)), m') => (.error (.leaveLoop (n + 1)), { m' with loops := m.loops })
  | (.error (.nextRound (n + 2)), m') => (.error (.nextRound (n + 1)), { m' with loops := m.loops })
  | (.error (.leaveLoop _), m') => (.ok .over, { m' with loops := m.loops })
  | (.error (.nextRound _), m') => (.ok .on, { m' with loops := m.loops })
  | (.error e, m') => (.error e, { m' with loops := m.loops })

/-! ### Commands -/

/-- A failure that is not tested may end the script. -/
def checkStatus : Shell Unit := do
  let m ← get
  if m.switches.contains 'e' && !m.tested && m.status != 0 then throw (.exit m.status)

/-- The text that stands before commands that are shown, as a word. -/
def traceMark (text : Bytes) : Shell Word := do
  let source := Reader.Source.ofScript text (← get).texts.length
  let fuel := Reader.fuelFor source
  let list := Reader.sequence fuel false true
  match (Reader.parts list fuel .hereDocument).run source with
  | .ok (w, _) => return w
  | .error _ => return [.text true text]

/-- Show a command before it runs. -/
def traceCommand (run : Runner) (assignments : List (Bytes × Bytes)) (fields : List Bytes) :
    Shell Unit := do
  if ← isOn 'x' then
    let switches := (← get).switches
    modify fun m => { m with switches := switches.filter (· != 'x') }
    let mark ← traceMark ((← valueOf? "PS4".toList).getD [])
    let before := Expansion.plain (← expand run false mark)
    modify fun m => { m with switches := switches }
    let shown := assignments.map (fun (x, v) => x ++ '=' :: v) ++ fields
    write 2 (before ++ Bytes.join [' '] shown ++ ['\n'])

/-- The values of assignments, in turn. -/
def assignedValues (run : Runner) (assignments : List (Bytes × Word)) :
    Shell (List (Bytes × Bytes)) :=
  assignments.mapM fun (name, w) => do return (name, ← definedBy (expand run) w)

/-- Carry out assignments for good. -/
def assignAll (run : Runner) (assignments : List (Bytes × Word)) :
    Shell (List (Bytes × Bytes)) :=
  assignments.mapM fun (name, w) => do
    let value ← definedBy (expand run) w
    assign name value
    return (name, value)

/-- Run a simple command. -/
def runSimple (run : Runner) (line : Nat) (assignments : List (Bytes × Word)) (words : List Word)
    (redirections : List Redirection) : Shell Unit := do
  modify fun m => { m with line := line, substituted := none }
  let fields ← fieldsOfWords run words
  match fields with
  | [] =>
    let opened ← keepingChannels (redirectAll run redirections)
    if !opened then setStatus 2
    else
      let values ← assignAll run assignments
      if !values.isEmpty then traceCommand run values []
      setStatus ((← get).substituted.getD 0)
  | name :: args =>
    let body : Shell Unit := do
      if ← redirectAll run redirections then
        let values ← assignedValues run assignments
        traceCommand run values fields
        modify fun m => { m with line := line }
        callFields run values fields
      else if isSpecialCommand name then throw .failed
      else setStatus 2
    if name = "exec".toList && args.all (· == ['-', '-']) then body else keepingChannels body
  checkStatus

/-- Look up the program of a command by its name, which is then known also where the command
itself runs in a shell of its own. -/
def lookAhead : Command → Shell Unit
  | .simple _ _ ([.text false name] :: _) _ => do
    let known := (← get).functions
    if isName name && !Builtin.isName name && (known.lookup name).isNone then
      let _ ← Program.find name
  | _ => return ()

/-- Run the commands of a pipeline, each on what the one before has written. -/
def runStages (run : Runner) : List Command → Shell Unit
  | [] => return ()
  | [c] => do
    lookAhead c
    inSubshell run c
  | c :: rest => do
    lookAhead c
    let out ← newStream (.sink [])
    keepingChannels do
      lead 1 (some out)
      inSubshell run c
    let next ← newStream (.source (← written out))
    setStream out .null
    keepingChannels do
      lead 0 (some next)
      runStages run rest

/-- Run a `case`. -/
def runSelect (run : Runner) (value : Bytes) : List (List Word × Command) → Shell Unit
  | [] => setStatus 0
  | (patterns, body) :: rest => do
    let fits ← patterns.anyM fun w => do
      let marked := Expansion.marked (← expand run false (← Expansion.tilde false w))
      return Glob.matchesAll (globOf marked) value
    if !fits then runSelect run value rest
    else
      match body with
      | .nothing => setStatus 0
      | body => run body

/-- The commands of a list, in turn. -/
def commandsOf : Command → List Command
  | .inTurn first rest => first :: commandsOf rest
  | .nothing => []
  | c => [c]

/-- Run a command in the background, which is over at once but may end later. -/
def runBehind (run : Runner) (body : Command) : Shell Unit := do
  let before ← get
  let process := before.processes + 1
  set { before with processes := process }
  let nothing ← newStream .null
  let (status, signal) ← keepingChannels do
    lead 0 (some nothing)
    apart body.isSimple do
      modify fun m => { m with tested := false, deadline := none }
      withExitTrap run (run body)
  let ends := (← get).time
  modify fun m => { m with time := before.time, status := 0 }
  Builtin.addJob process status signal ends

/-- Run a command whose inner commands are run by `run`. -/
def runWith (run : Runner) : Command → Shell Unit
  | .nothing => return ()
  | .simple line assignments words redirections =>
    runSimple run line assignments words redirections
  | .group body => run body
  | .subshell line body => do
    modify fun m => { m with line := line }
    inSubshell run body
    checkStatus
  | .redirected line body redirections => do
    modify fun m => { m with line := line }
    keepingChannels do
      if ← redirectAll run redirections then run body else setStatus 2
  | .cond test yes no => do
    testing (run test)
    if (← get).status = 0 then run yes
    else
      match no with
      | .nothing => setStatus 0
      | no => run no
  | .loop negated test body => do
    iterate (fun (last : Nat) => do
      let first ← inLoop (testing (run test))
      let status := (← get).status
      if first = .over then return none
      if (status = 0) == negated then
        setStatus last
        return none
      let second ← inLoop (run body)
      if second = .over then return none
      return some (← get).status) roundLimit 0
  | .each line name words body => do
    modify fun m => { m with line := line }
    let fields ← match words with
      | none => do pure (← get).args
      | some words => do pure (← words.mapM (fieldsOf (expand run))).flatten
    setStatus 0
    iterate (fun (fields : List Bytes) => do
      match fields with
      | [] => return none
      | value :: rest =>
        assign name value
        let round ← inLoop (run body)
        return if round = .over then none else some rest) roundLimit fields
  | .select line word arms => do
    modify fun m => { m with line := line }
    let value ← stringOf (expand run) word
    runSelect run value arms
  | .define name body => do
    modify fun m => { m with functions := putEntry name body m.functions }
    setStatus 0
  | .pipeline negated commands => do
    if negated then
      testing (match commands with
        | [c] => run c
        | cs => runStages run cs)
      setStatus (if (← get).status = 0 then 1 else 0)
    else
      match commands with
      | [c] => run c
      | cs =>
        runStages run cs
        checkStatus
  | .both first second => do
    testing (run first)
    if (← get).status = 0 then run second
  | .either first second => do
    testing (run first)
    if (← get).status != 0 then run second
  | .inTurn first rest => do
    run first
    (commandsOf rest).forM run
  | .background body => runBehind run body

/-- Run a command that is nested no deeper than the limit allows. -/
def run : Nat → Runner
  | 0, _ => throw (.killed Signal.fault)
  | depth + 1, c => do
    unless ← isOn 'n' do
      runWith (run depth) c
      takePending (run depth)

/-- How deep commands may be nested. -/
def depthLimit : Nat := 2000

end SvgSkeleton.Shell
