import SvgSkeleton.Shell.Calendar
import SvgSkeleton.Shell.Utility.Awk.State

/-!
What programs do. Expressions have values, and statements change the state; both may end early, so
that what stands behind them is left out.
-/

namespace SvgSkeleton.Shell.Awk

/-! ### Repetition -/

/-- Do something again and again, from one state to the next, while there is one. -/
def iterate {σ : Type} (step : σ → Run (Option σ)) (c : Setting) :
    Nat → σ → State → Machine → Except Stop (Except Halt Unit × State) × Machine
  | 0, _, _, m =>
    match m.deadline with
    | some t => (.error .timedOut, { m with time := t })
    | none => (.error (.killed Signal.ending), m)
  | n + 1, a, s, m =>
    match step a c s m with
    | (.ok (.ok (some a), s), m) => iterate step c n a s m
    | (.ok (.ok none, s), m) => (.ok (.ok (), s), m)
    | (.ok (.error h, s), m) => (.ok (.error h, s), m)
    | (.error e, m) => (.error e, m)

/-- How many rounds a loop may have. -/
def roundLimit : Nat := 3000000

/-- Do something again and again, from one state to the next, while there is one. -/
def repeatedly {σ : Type} (start : σ) (step : σ → Run (Option σ)) : Run Unit := fun c s m =>
  iterate step c roundLimit start s m

/-- The body of a loop; is there to be a further round? -/
def inRound (body : Run Unit) : Run Bool := fun c s => do
  match ← body c s with
  | (.ok (), s) | (.error .again, s) => return (.ok true, s)
  | (.error .leave, s) => return (.ok false, s)
  | (.error h, s) => return (.error h, s)

/-- The body of a function, and the value that it answers with. -/
def inFunction (body : Run Unit) : Run Value := fun c s => do
  match ← body c s with
  | (.ok (), s) => return (.ok .none, s)
  | (.error (.answer v), s) => return (.ok v, s)
  | (.error h, s) => return (.error h, s)

/-- What is done with a record. Is the rest of its file left out? -/
def withRecord (act : Run Unit) : Run Bool := fun c s => do
  match ← act c s with
  | (.ok (), s) | (.error .next, s) => return (.ok false, s)
  | (.error .nextFile, s) => return (.ok true, s)
  | (.error h, s) => return (.error h, s)

/-- Is the program over? -/
def inPart (act : Run Unit) : Run Bool := fun c s => do
  match ← act c s with
  | (.error .exit, s) => return (.ok true, s)
  | (.error (.fatal message), s) => return (.error (.fatal message), s)
  | (_, s) => return (.ok false, s)

/-! ### Values -/

def number (x : Floating) : Value := .number x

/-- The result of an operator. -/
def Operator.result (op : Operator) (x y : Floating) : Floating :=
  match op with
  | .add => Floating.add form x y
  | .sub => Floating.sub form x y
  | .mul => Floating.mul form x y
  | .div => Floating.div form x y
  | .mod => Floating.mod form x y
  | .pow => Floating.pow form x y

/-- The order of two values: that of numbers, if both are, else that of texts. -/
def orderOf (a b : Value) : Run Ordering := do
  if a.isNumeric && b.isNumeric then
    return (Floating.order? a.toNumber b.toNumber).getD .eq
  else
    let s ← toText a
    let t ← toText b
    return if s = t then .eq else if Bytes.inOrder s t then .lt else .gt

def Relation.holds (r : Relation) (o : Ordering) : Bool :=
  match r with
  | .less => o == .lt
  | .lessOrEqual => o != .gt
  | .equal => o == .eq
  | .unequal => o != .eq
  | .greater => o == .gt
  | .greaterOrEqual => o != .lt

/-- The index of a field. -/
def fieldIndex (v : Value) : Run Nat := do
  let n := wordOf v.toNumber
  if n < 0 then runtimeFault ("negative field index $".toList ++ Bytes.ofInt n)
  return (min n fieldLimit).toNat

/-- What a value is as an expression to search for. -/
def matcherOf (v : Value) : Run Matcher := do
  let s ← toText v
  readable s (matcher? s)

/-! ### Values that wait -/

/-- How many values may wait for others. -/
def heightLimit : Nat := 1008

/-- Do something while values wait for it. -/
def above {α : Type} (n : Nat) (act : Run α) : Run α := do
  modify fun s => { s with height := s.height + n }
  let a ← act
  modify fun s => { s with height := s.height - n }
  return a

/-- Make sure that there is room for a further value. -/
def checkHeight : Run Unit := do
  if heightLimit ≤ (← get).height then
    fatal "program limit exceeded: eval stack size=1024".toList

/-- Evaluate one expression after the other. -/
def inTurn (ev : Expr → Run Value) : List Expr → Run (List Value)
  | [] => return []
  | e :: es => do
    let v ← ev e
    return v :: (← above 1 (inTurn ev es))

/-! ### Targets -/

/-- Something that has a value and can be given another one. -/
inductive Target where
  | name (v : Name)
  | field (n : Nat)
  | element (table : Nat) (k : Key)

def Target.get : Target → Run Value
  | .name v => getName v
  | .field n => fieldAt n
  | .element table k => changeTable table (·.get k)

def Target.set (v : Value) : Target → Run Unit
  | .name n => setName n v
  | .field n => setField n v
  | .element table k => changeTable table fun t => ((), t.set k v)

/-- The target that an expression means. An element is made if it is not there. -/
def targetOf (ev : Expr → Run Value) : Expr → Run Target
  | .name v => return .name v
  | .element table keys => do
    let k ← keyOfAll (← inTurn ev keys)
    let n ← tableOf table
    discard (changeTable n (·.get k))
    return .element n k
  | .field e => do return .field (← fieldIndex (← ev e))
  | _ => return .field 0

/-! ### Functions on texts -/

/-- A number as a whole one of 64 bits; what is too great becomes the least one. -/
def cut (x : Floating) : Int :=
  match x with
  | .undefined _ => 0
  | .infinite _ => -signedLimit
  | x =>
    let n := ((Floating.toInt? (Floating.truncate x)).getD 0)
    if -signedLimit ≤ n && n < signedLimit then n else -signedLimit

/-- A part of a text. What is before its front counts for the length, too. -/
def excerpt (s : Bytes) (first : Int) (length : Option Int) : Bytes :=
  let length := length.map fun n => if first ≤ 0 then (n - first).bmod (1 <<< 64) else n
  let tail := s.drop (first - 1).toNat
  match length with
  | none => tail
  | some n => tail.take n.toNat

/-- Where a text stands in another one, counted from one; zero if it does not. -/
def indexIn (t : Bytes) : Nat → Bytes → Nat
  | n, s =>
    if t.isPrefixOf s then n + 1
    else
      match s with
      | [] => 0
      | _ :: r => indexIn t (n + 1) r

/-- What a match is replaced by: an ampersand stands for the match, unless an odd number of
backslashes stands before it. Of those before an ampersand every other one is left. -/
def replacement (found : Bytes) : Nat → Bytes → Bytes
  | 0, _ => []
  | _ + 1, [] => []
  | fuel + 1, '&' :: r => found ++ replacement found fuel r
  | fuel + 1, '\\' :: r =>
    let n := 1 + (r.takeWhile (· == '\\')).length
    match r.drop (n - 1) with
    | '&' :: rest =>
      List.replicate (n / 2) '\\' ++ (if n % 2 = 0 then found else ['&'])
        ++ replacement found fuel rest
    | rest => List.replicate n '\\' ++ replacement found fuel rest
  | fuel + 1, c :: r => c :: replacement found fuel r

/-- A text with matches replaced. -/
def replaced (by' : Bytes) : Nat → List Match → Bytes → Bytes
  | _, [], rest => rest
  | i, m :: ms, rest =>
    rest.take (m.first.index - i) ++ replacement m.text (by'.length + 1) by'
      ++ replaced by' m.last.index ms (rest.drop (m.last.index - i))

/-- The text of a time that six numbers write, in seconds. -/
def timeOf (s : Bytes) : Int :=
  let parts := ((Separator.blanks.split s).map Bytes.toInt?).takeWhile (·.isSome)
  match parts.filterMap id with
  | year :: month :: day :: hour :: minute :: second :: _ =>
    let months := year * 12 + month - 1
    Calendar.daysTo (months.fdiv 12) ((months.fmod 12).toNat + 1) 1 * 86400 + (day - 1) * 86400
      + hour * 3600 + minute * 60 + second
  | _ => -1

/-- A format filled with values; what is left out comes with a complaint. -/
def fill (name : String) (values : List Value) : Run (Bytes × Option Bytes) := do
  let format ← toText (values.headD .none)
  let inner := textIn [] (← value Known.format)
  let (out, fault) := filled (textIn inner) (format.length + 1) 1 format values.tail
  let complaint (s : Bytes) : Option Bytes :=
    some (s ++ name.toList ++ "(\"".toList ++ format ++ "\")".toList)
  match fault with
  | none => return (out, none)
  | some .missing => return (out, complaint "not enough arguments passed to ".toList)
  | some (.improper n) =>
    return (out,
      complaint ("improper conversion(number ".toList ++ Bytes.ofNat n ++ ") in ".toList))

/-! ### Functions -/

/-- The next random number. -/
def nextRandom (n : Nat) : Nat := (n * 25214903917 + 11) % (1 <<< 48)

/-- The separator that an argument of `split` is. -/
def separatorOf (ev : Expr → Run Value) : Option Expr → Run Separator
  | some (.pattern m) => return .pattern m
  | some e => do
    let s ← toText (← ev e)
    readable s (Separator.ofText s)
  | none => do
    let s ← textOf Known.fieldSeparator
    readable s (Separator.ofText s)

/-- What is searched for. -/
def searched (ev : Expr → Run Value) : Expr → Run Matcher
  | .pattern m => return m
  | e => do matcherOf (← ev e)

/-- The whole number of an argument, if it is there. -/
def argument? (args : List Expr) (n : Nat) : Option Expr := args[n]?

/-- The value of a function that is there. -/
def builtinValue (ev : Expr → Run Value) (f : Function) (args : List Expr) : Run Value := do
  let valueAt (n : Nat) : Run Value := do
    match args[n]? with
    | some e => ev e
    | none => return .none
  let numberAt (n : Nat) : Run Floating := do return (← valueAt n).toNumber
  let textAt (n : Nat) : Run Bytes := do toText (← valueAt n)
  let ofFloating (f : Floating → Floating) : Run Value := do return .number (f (← numberAt 0))
  match f with
  | .length =>
    match args with
    | [] => return ofNat (← toText (← fieldAt 0)).length
    | [.name v] =>
      if (← kindOfName v) = .table then return ofNat (← tableAt (← tableOf v)).size
      else return ofNat (← textAt 0).length
    | _ => return ofNat (← textAt 0).length
  | .substr =>
    let s ← textAt 0
    let first := cut (← numberAt 1)
    let length ← if args.length < 3 then pure none else do pure (some (cut (← numberAt 2)))
    return .text (excerpt s first length)
  | .index =>
    let s ← textAt 0
    let t ← textAt 1
    return ofNat (indexIn t 0 s)
  | .split =>
    let s ← textAt 0
    let separator ← separatorOf ev args[2]?
    let pieces := (separator.split s).map Value.given
    if let some (Expr.name v) := args[1]? then setTable (← tableOf v) (Table.ofPieces pieces)
    return ofNat pieces.length
  | .substitute all =>
    let m ← searched ev (args.headD (.text []))
    let new ← textAt 1
    let target ← targetOf ev (args.getD 2 (.field (.number .zero)))
    let s ← toText (← target.get)
    let matches' := if all then m.findAll s else (m.find? s).toList
    if !matches'.isEmpty then target.set (.text (replaced new 0 matches' s))
    return ofNat matches'.length
  | .find =>
    let s ← textAt 0
    let m ← searched ev (args.getD 1 (.text []))
    let (first, length) : Nat × Int := match m.find? s with
      | some found => (found.first.index + 1, found.last.index - found.first.index)
      | none => (0, -1)
    setValue Known.matchStart (ofNat first)
    setValue Known.matchLength (ofInt length)
    return ofNat first
  | .sprintf =>
    let (s, fault) ← fill "sprintf" (← inTurn ev args)
    if let some f := fault then runtimeFault f
    return .text s
  | .sin => ofFloating (Floating.sin form)
  | .cos => ofFloating (Floating.cos form)
  | .atan2 => return .number (Floating.atan2 form (← numberAt 0) (← numberAt 1))
  | .exp => ofFloating (Floating.exp form)
  | .log => ofFloating (Floating.log form)
  | .sqrt => ofFloating (Floating.sqrt form)
  | .int => ofFloating Floating.truncate
  | .rand =>
    let n := nextRandom (← get).random
    modify fun s => { s with random := n }
    return .number (Floating.ofQuotient form false n (1 <<< 48))
  | .srand =>
    let old := (← get).seed
    let new ← if args.isEmpty then pure (ofInt ((now (← machine)).fdiv 1000)) else valueAt 0
    modify fun s => { s with seed := new, random := nextRandom (cut new.toNumber).natAbs }
    return old
  | .tolower => return .text ((← textAt 0).map Char.toLower)
  | .toupper => return .text ((← textAt 0).map Char.toUpper)
  | .close =>
    match ← closeAll (← textAt 0) with
    | some n => return ofNat n
    | none => return ofInt (-1)
  | .system =>
    let command ← textAt 0
    flush
    return ofNat (← carryOut "sh" command (pure ()))
  | .fflush =>
    if args.isEmpty then
      flush
      return ofNat 0
    let path ← textAt 0
    let known := path.isEmpty || path = "/dev/stdout".toList || path = "/dev/stderr".toList
      || (← get).goals.any (·.path == path)
    flush
    return if known then ofNat 0 else ofInt (-1)
  | .mktime => return ofInt (timeOf (← textAt 0))
  | .strftime =>
    let format ← if args.isEmpty then pure "%c".toList else textAt 0
    let seconds ← if args.length < 2 then pure ((now (← machine)).fdiv 1000)
      else do pure (cut (← numberAt 1))
    return .text ((Calendar.Moment.ofSeconds seconds 0).formatted format)
  | .systime => return ofInt ((now (← machine)).fdiv 1000)

/-- The arguments of a function: a value for each, or the number of its table. -/
def argumentsOf (ev : Expr → Run Value) : List Kind → List Expr → Run (List (Value × Nat))
  | [], _ => return []
  | .table :: kinds, .name v :: args => do
    let n ← tableOf v
    return (.none, n) :: (← above 1 (argumentsOf ev kinds args))
  | .table :: kinds, args => do
    let n := (← get).tables.size
    modify fun s => { s with tables := s.tables.push .empty }
    return (.none, n) :: (← argumentsOf ev kinds args.tail)
  | _ :: kinds, [] => return (.none, 0) :: (← argumentsOf ev kinds [])
  | _ :: kinds, e :: args => do
    let v ← ev e
    return (v, 0) :: (← above 1 (argumentsOf ev kinds args))

/-- Call a function of the program. -/
def callFunction (ev : Expr → Run Value) (ex : Statement → Run Unit) (f : Nat) (args : List Expr) :
    Run Value := do
  match (← read).program.functions[f]? with
  | none => return .none
  | some d =>
    let before ← get
    let given ← argumentsOf ev d.kinds.toList args
    modify fun s => { s with
      height := before.height + d.kinds.size
      frame := ⟨d.kinds, (given.map (·.1)).toArray, (given.map (·.2)).toArray⟩ }
    let v ← inFunction (ex d.body)
    modify fun s => { s with
      frame := before.frame
      height := before.height
      tables := s.tables.take before.tables.size }
    return v

/-- Read a line into a target; one if there is one, zero at the end, less if nothing can be read. -/
def readInto (origin : Origin) (path : Bytes) (target : Option Target) : Run Value := do
  let (n, line) ← match origin with
    | .main => do
      match ← mainLine argumentLimit with
      | some line => pure ((1 : Int), line)
      | none => pure (0, [])
    | .file => lineFrom false path
    | .command => lineFrom true path
  if 0 < n then
    match target with
    | none => setRecord (.given line)
    | some t => t.set (.given line)
  return ofInt n

/-! ### Expressions and statements -/

/-- How deep expressions, statements and functions may be nested. -/
def depthLimit : Nat := 20000

mutual

/-- The value of an expression. -/
def evaluate : Nat → Expr → Run Value
  | 0, _ => inShell (throw (.killed Signal.fault))
  | depth + 1, e => do
    let ev := evaluate depth
    checkHeight
    match e with
    | .number x => return .number x
    | .text s => return .text s
    | .pattern m => return ofBool (m.isMatch (← toText (← fieldAt 0)))
    | .name v => getName v
    | .field e => do fieldAt (← fieldIndex (← ev e))
    | .element table keys => do
      let k ← keyOfAll (← inTurn ev keys)
      changeTable (← tableOf table) (·.get k)
    | .group e => ev e
    | .assign target e => do
      let t ← targetOf ev target
      let v ← above 1 (ev e)
      t.set v
      return v
    | .update op target e => do
      let t ← targetOf ev target
      let v ← above 1 (ev e)
      let v := number (op.result (← t.get).toNumber v.toNumber)
      t.set v
      return v
    | .step before up target => do
      let t ← targetOf ev target
      let old := (← t.get).toNumber
      let new := (if up then Operator.add else .sub).result old (.ofInt 1)
      t.set (.number new)
      return .number (if before then new else old)
    | .apply op a b => do
      let x ← ev a
      let y ← above 1 (ev b)
      return .number (op.result x.toNumber y.toNumber)
    | .compare r a b => do
      let x ← ev a
      let y ← above 1 (ev b)
      return ofBool (r.holds (← orderOf x y))
    | .fits negated text pattern => do
      let s ← toText (← ev text)
      let m ← searched ev pattern
      return ofBool (m.isMatch s != negated)
    | .join a b => do
      let s ← toText (← ev a)
      let t ← above 1 (do toText (← ev b))
      return .text (s ++ t)
    | .no e => return ofBool !(← ev e).isTrue
    | .minus e => return .number (← ev e).toNumber.negate
    | .plus e => return .number (← ev e).toNumber
    | .and a b => do
      if (← ev a).isTrue then return ofBool (← ev b).isTrue else return ofBool false
    | .or a b => do
      if (← ev a).isTrue then return ofBool true else return ofBool (← ev b).isTrue
    | .choose c a b => do
      if (← ev c).isTrue then ev a else ev b
    | .has table keys => do
      let k ← keyOfAll (← inTurn ev keys)
      return ofBool (← changeTable (← tableOf table) (·.has k))
    | .call f args => callFunction ev (execute depth) f args
    | .builtin f args => builtinValue ev f args
    | .line origin source target => do
      let path ← match source with
        | some e => do toText (← ev e)
        | none => pure []
      let t ← match target with
        | some e => do pure (some (← targetOf ev e))
        | none => pure none
      readInto origin path t

/-- Carry out a statement. -/
def execute : Nat → Statement → Run Unit
  | 0, _ => inShell (throw (.killed Signal.fault))
  | depth + 1, s => do
    let ev := evaluate depth
    let ex := execute depth
    let goalOf (goal : Option (Way × Expr)) : Run (Option (Way × Bytes)) := do
      match goal with
      | some (way, e) => return some (way, ← toText (← ev e))
      | none => return none
    let holds (e : Option Expr) : Run Bool := do
      match e with
      | some e => return (← ev e).isTrue
      | none => return true
    match s with
    | .nothing => return ()
    | .expression e => discard (ev e)
    | .print args goal => do
      let vs ← if args.isEmpty then do pure [← fieldAt 0] else inTurn ev args
      let goal ← goalOf goal
      let words ← vs.mapM toOutput
      emit goal (Bytes.join (← textOf Known.outputSeparator) words ++ (← textOf Known.outputEnd))
    | .printf args goal => do
      let vs ← inTurn ev args
      let goal ← goalOf goal
      let (s, fault) ← fill "printf" vs
      emit goal s
      if let some f := fault then runtimeFault f
    | .block body => body.forM ex
    | .cond c yes no => do
      if (← ev c).isTrue then ex yes else ex no
    | .loop c body =>
      repeatedly () fun () => do
        if (← ev c).isTrue then
          return if ← inRound (ex body) then some () else none
        else return none
    | .loopAfter body c =>
      repeatedly () fun () => do
        if ← inRound (ex body) then
          return if (← ev c).isTrue then some () else none
        else return none
    | .count start c step body => do
      if let some e := start then discard (ev e)
      repeatedly () fun () => do
        if ← holds c then
          if ← inRound (ex body) then
            if let some e := step then discard (ev e)
            return some ()
          else return none
        else return none
    | .each target table body => do
      let keys ← changeTable (← tableOf table) (·.keys)
      repeatedly keys fun keys => do
        match keys with
        | [] => return none
        | k :: rest =>
          setName target (.text k)
          return if ← inRound (ex body) then some rest else none
    | .next => throw .next
    | .nextFile => throw .nextFile
    | .exit status => do
      if let some e := status then
        let v ← ev e
        modify fun s => { s with status := (cut v.toNumber % 256).toNat }
      throw .exit
    | .answer value => do
      match value with
      | some e => throw (.answer (← ev e))
      | none => throw (.answer .none)
    | .leave => throw .leave
    | .again => throw .again
    | .delete table keys => do
      let n ← tableOf table
      match keys with
      | none => setTable n .empty
      | some keys =>
        let k ← keyOfAll (← inTurn ev keys)
        changeTable n fun t => ((), t.delete k)

end

/-! ### Programs -/

/-- Is a rule to be carried out for the record at hand? -/
def applies (number : Nat) (w : When) : Run Bool := do
  let holds (e : Expr) : Run Bool := do return (← evaluate depthLimit e).isTrue
  match w with
  | .always => return true
  | .holds e => holds e
  | .between first last =>
    let inside ← if (← get).within.getD number false then pure true else holds first
    if !inside then return false
    let ended ← holds last
    modify fun s => { s with within := s.within.setIfInBounds number !ended }
    return true

/-- Carry out all rules for the record at hand. -/
def applyRules (rules : List Rule) : Run Unit :=
  rules.zipIdx.forM fun (rule, number) => do
    if ← applies number rule.pattern then
      execute depthLimit (rule.body.getD (.print [] none))

/-- Read the main input, and carry out all rules for each record. -/
def readRecords (rules : List Rule) : Run Unit :=
  repeatedly () fun () => do
    match ← mainLine argumentLimit with
    | none => return none
    | some line =>
      setRecord (.given line)
      modify fun s => { s with height := 0 }
      if ← withRecord (applyRules rules) then modify fun s => { s with input := none }
      return some ()

/-- Carry out the whole program. -/
def Program.run (p : Program) : Run Unit := do
  let level : Run Unit := modify fun s => { s with height := 0 }
  let ended ← inPart (p.begins.forM (execute depthLimit))
  unless ended do
    unless p.rules.isEmpty && p.ends.isEmpty do
      level
      discard (inPart (readRecords p.rules))
  level
  discard (inPart (p.ends.forM (execute depthLimit)))

end SvgSkeleton.Shell.Awk
