import SvgSkeleton.Shell.Utility.Interpreter.Known
import SvgSkeleton.Shell.Utility.Interpreter.Reader

/-!
What scripts do. Expressions have values, and statements change what values refer to; both may end
early, so that what stands behind them is left out.
-/

namespace SvgSkeleton.Shell.Interpreter

/-! ### Names -/

/-- The value of a name in a scope or in one further out. -/
def valueIn? (h : Heap) (name : String) : Nat → Nat → Option Value
  | 0, _ => none
  | fuel + 1, n =>
    match h[n]? with
    | some (.scope names _ outer) =>
      match names.lookup name with
      | some v => some v
      | none => outer.bind (valueIn? h name fuel)
    | _ => none

/-- The scope further out that has a name, and else that of the whole script. -/
def ownerOf (h : Heap) (name : String) : Nat → Nat → Nat
  | 0, _ => Fixed.scope
  | fuel + 1, n =>
    match h[n]? with
    | some (.scope names _ outer) =>
      if (names.lookup name).isSome then n
      else match outer with
        | some m => ownerOf h name fuel m
        | none => Fixed.scope
    | _ => Fixed.scope

/-- Names with a further one, in its place if it is there. -/
def withName (names : List (String × Value)) (name : String) (v : Value) : List (String × Value) :=
  if (names.lookup name).isSome then names.map fun e => if e.1 = name then (name, v) else e
  else (name, v) :: names

def setName (scope : Nat) (name : String) (v : Value) : Run Unit := do
  let h ← heap
  match h[scope]? with
  | some (.scope names foreign outer) =>
    if foreign.contains name then
      let n : Nat := match outer with
        | some m => ownerOf h name h.size m
        | none => scope
      match h[n]? with
      | some (.scope names foreign outer) =>
        setObject n (.scope (withName names name v) foreign outer)
      | _ => return ()
    else setObject scope (.scope (withName names name v) foreign outer)
  | _ => return ()

def deleteName (scope : Nat) (name : String) : Run Unit := do
  match (← heap)[scope]? with
  | some (.scope names foreign outer) =>
    if (names.lookup name).isNone then raise "NameError" ("name '" ++ name ++ "' is not defined")
    setObject scope (.scope (names.filter (·.1 != name)) foreign outer)
  | _ => return ()

/-- The value of a name. -/
def nameValue (scope : Nat) (name : String) : Run Value := do
  let h ← heap
  match valueIn? h name h.size scope with
  | some v => return v
  | none =>
    if Value.isType name && name != "NoneType" || Known.functionNames.contains name then
      return .known name
    else if name = "__name__" then return named "__main__"
    else if name = "Ellipsis" then return .known name
    else if name = "EnvironmentError" || name = "IOError" then return .known "OSError"
    else raise "NameError" ("name '" ++ name ++ "' is not defined")

/-! ### Values of functions -/

/-- Words with commas between them, and another word in front of the last one. -/
def wordList : List String → String
  | [] => ""
  | [a] => a
  | [a, b] => a ++ " and " ++ b
  | words => ", ".intercalate words.dropLast ++ ", and " ++ (words.getLast?.getD "")

/-- The names of the values that a function needs in order. -/
def plainNames : List Parameter → List String
  | .plain name _ :: ps => name :: plainNames ps
  | _ => []

/-- What is left to be bound to the names of a function. -/
structure Binding where
  values : List Value
  named : List (String × Value)
  onlyNamed : Bool
  bound : List (String × Value)
  missing : List String

/-- Bind what a function is given to the next name. -/
def bindNext (function : String) (b : Binding) (p : Parameter × Option Value) : Run Binding := do
  match p with
  | (.plain name _, usual) =>
    let without := b.named.filter (·.1 != name)
    match b.values, b.named.lookup name with
    | v :: vs, given =>
      if b.onlyNamed then return { b with missing := b.missing ++ [name] }
      if given.isSome then
        raise "TypeError" (function ++ "() got multiple values for argument '" ++ name ++ "'")
      return { b with values := vs, bound := (name, v) :: b.bound }
    | [], some v => return { b with named := without, bound := (name, v) :: b.bound }
    | [], none =>
      match usual with
      | some v => return { b with bound := (name, v) :: b.bound }
      | none => return { b with missing := b.missing ++ [name] }
  | (.rest name, _) =>
    return { b with values := [], onlyNamed := true, bound := (name, .tuple b.values) :: b.bound }
  | (.restNamed name, _) =>
    let v ← newDict (b.named.map fun (k, v) => (.text k.toList, v))
    return { b with named := [], bound := (name, v) :: b.bound }
  | (.onlyNamed, _) => return { b with onlyNamed := true }

/-- Bind what a function is given to its names. -/
def bindAll (function : String) (params : List Parameter) (usual : List (Option Value))
    (g : Given) : Run (List (String × Value)) := do
  let names := plainNames params
  let takesRest := params.any fun p => match p with
    | .rest _ => true
    | _ => false
  if names.length < g.values.length && !takesRest then
    let least := ((names.zip usual).filter (·.2.isNone)).length
    let count := if least < names.length then
        "from " ++ toString least ++ " to " ++ toString names.length
      else toString names.length
    raise "TypeError" (function ++ "() takes " ++ count ++ " positional argument"
      ++ (if names.length = 1 && least = 1 then "" else "s") ++ " but " ++ toString g.values.length
      ++ (if g.values.length = 1 then " was given" else " were given"))
  let b ← (params.zip usual).foldlM (bindNext function) ⟨g.values, g.named, false, [], []⟩
  match b.missing, b.named with
  | [], [] => return b.bound
  | [], (name, _) :: _ =>
    raise "TypeError" (function ++ "() got an unexpected keyword argument '" ++ name ++ "'")
  | names, _ =>
    raise "TypeError" (function ++ "() missing " ++ toString names.length
      ++ " required positional argument" ++ (if names.length = 1 then "" else "s") ++ ": "
      ++ wordList (names.map fun s => "'" ++ s ++ "'"))

/-! ### Loops -/

/-- What is left of a loop. -/
inductive Cursor where
  | numbers (next : Int) (left : Nat) (step : Int)
  /-- A list that may change, and the next place in it. -/
  | row (n next : Nat)
  | iterator (n : Nat)
  | items (vs : List Value)

def cursorOf (v : Value) : Run Cursor := do
  match v with
  | .range i j k => return .numbers i (Value.rangeSize i j k) k
  | .object n =>
    match (← heap)[n]? with
    | some (.list _) => return .row n 0
    | some (.iterator _) => return .iterator n
    | _ => return .items (← itemsOf v)
  | v => return .items (← itemsOf v)

/-- The next value of a loop, if there is one, and what is left. -/
def Cursor.next? (c : Cursor) : Run (Option (Value × Cursor)) := do
  match c with
  | .numbers _ 0 _ => return none
  | .numbers i (left + 1) k => return some (.int i, .numbers (i + k) left k)
  | .row n i =>
    match (← heap)[n]? with
    | some (.list xs) => return (xs[i]?).map fun v => (v, .row n (i + 1))
    | _ => return none
  | .iterator n =>
    match (← heap)[n]? with
    | some (.iterator (v :: vs)) =>
      setObject n (.iterator vs)
      return some (v, .iterator n)
    | _ => return none
  | .items [] => return none
  | .items (v :: vs) => return some (v, .items vs)

/-- Do something for every value that a value holds. -/
def forEachItem (v : Value) (body : Value → Run Unit) : Run Unit := do
  repeatedly (← cursorOf v) fun c => do
    match ← c.next? with
    | none => return none
    | some (x, c) =>
      inRound (body x)
      return some c

/-! ### Exceptions -/

/-- The kinds of exceptions that a handler is for. -/
def handledKinds (v : Value) : Run (List String) := do
  match v with
  | .known s => return [s]
  | .tuple vs => return vs.filterMap fun v => match v with
    | .known s => some s
    | _ => none
  | _ =>
    raise "TypeError" "catching classes that do not inherit from BaseException is not allowed"

/-- Of the places where an exception was raised keep only those from here on. -/
def trimTrace (n : Nat) : Run Unit := do
  let s ← get
  match s.heap[n]? with
  | some (.fault kind args trace context) =>
    setObject n (.fault kind args (trace.take (trace.length + 1 - s.depth)) context)
  | _ => return ()

/-- Raise an exception again, out of the functions that are at work. -/
def raiseAgain {α : Type} (n : Nat) : Run α := do
  let s ← get
  if let some (.fault kind args trace context) := s.heap[n]? then
    setObject n (.fault kind args (trace ++ s.frames.drop 1) context)
  throw (.raised n)

/-- Raise a value. -/
def raiseValue (v : Value) : Run Unit := do
  let s ← get
  match v with
  | .known kind =>
    if (Value.faultKinds.lookup kind).isSome then raiseWith kind []
    else raise "TypeError" "exceptions must derive from BaseException"
  | .object n =>
    match s.heap[n]? with
    | some (.fault kind args trace context) =>
      let context := (s.handled.head?.filter (· != n)).or context
      setObject n (.fault kind args (trace ++ s.frames) context)
      throw (.raised n)
    | _ => raise "TypeError" "exceptions must derive from BaseException"
  | _ => raise "TypeError" "exceptions must derive from BaseException"

/-! ### Modules -/

def moduleOf (name : String) : Run Value := do
  if Library.moduleNames.contains name then return .module name
  else raise "ModuleNotFoundError" ("No module named '" ++ name ++ "'")

/-- The names and values that a module gives away. -/
def givenBy (m : String) (names : List (String × String)) : Run (List (String × Value)) := do
  match names with
  | [("*", _)] =>
    let functions := (Library.functions.lookup m).getD []
    return Library.constants m ++ functions.map fun s => (s, .known (m ++ "." ++ s))
  | names => names.mapM fun (name, alias') => do
    match Library.attribute? m name with
    | some v => return (alias', v)
    | none =>
      raise "ImportError" ("cannot import name '" ++ name ++ "' from '" ++ m
        ++ "' (unknown location)")

/-! ### Evaluation -/

/-- How deep the evaluation may go. -/
def depthLimit : Nat := 1000000

def tooDeep {α : Type} : Run α := raise "RecursionError" "maximum recursion depth exceeded"

/-- Give the values that a value holds to several targets. The number is that of the target that
takes all that is left. -/
def unpacked (count : Nat) (starred : Option Nat) (v : Value) : Run (List Value) := do
  match ← items? v with
  | none => typeErrorBare v
  | some vs =>
    match starred with
    | none =>
      if vs.length < count then
        raise "ValueError" ("not enough values to unpack (expected " ++ toString count ++ ", got "
          ++ toString vs.length ++ ")")
      if count < vs.length then
        raise "ValueError" ("too many values to unpack (expected " ++ toString count ++ ")")
      return vs
    | some i =>
      if vs.length + 1 < count then
        raise "ValueError" ("not enough values to unpack (expected at least "
          ++ toString (count - 1) ++ ", got " ++ toString vs.length ++ ")")
      let behind := count - 1 - i
      let middle ← newList ((vs.drop i).take (vs.length - i - behind))
      return vs.take i ++ middle :: vs.drop (vs.length - behind)
where
  typeErrorBare (v : Value) : Run (List Value) := do
    raise "TypeError" ("cannot unpack non-iterable " ++ v.kindName (← heap) ++ " object")

def Literal.value : Literal → Value
  | .none => .none
  | .bool b => .bool b
  | .int n => .int n
  | .float x => .float x
  | .text s => .text s.toList
  | .bytes s => .bytes s

/-- A new scope within another one. -/
def newScope (names : List (String × Value)) (outer : Nat) : Run Nat :=
  allocate (.scope names [] (some outer))

mutual

/-- The value of an expression. -/
def eval : Nat → Nat → Expr → Run Value
  | 0, _, _ => tooDeep
  | fuel + 1, scope, e => do
    match e with
    | .literal v => return v.value
    | .name s => nameValue scope s
    | .list items => newList (← evalItems fuel scope items)
    | .tuple items => return .tuple (← evalItems fuel scope items)
    | .set items => newSet (← evalItems fuel scope items)
    | .dict entries =>
      let es ← entries.mapM fun (k, v) => do
        match k with
        | some k =>
          let k ← eval fuel scope k
          checkKey k
          return [(k, ← eval fuel scope v)]
        | none => StoreMethod.entriesOf (← eval fuel scope v)
      newDict es.flatten
    | .spread e => eval fuel scope e
    | .attribute e name => do Known.partOf (← eval fuel scope e) name
    | .item e (.slice first last step) =>
      let v ← eval fuel scope e
      partOfValue v (← evalSlice fuel scope first last step)
    | .item e k =>
      let v ← eval fuel scope e
      itemOf v (← eval fuel scope k)
    | .slice _ _ _ => return .none
    | .call f args =>
      let f ← eval fuel scope f
      let g ← evalArguments fuel scope args
      callValue fuel f g
    | .sign s e => do s.on (← eval fuel scope e)
    | .no e => do return .bool !(← truth (← eval fuel scope e))
    | .apply op a b =>
      let a ← eval fuel scope a
      op.on a (← eval fuel scope b)
    | .compare first rest => do compared fuel scope (← eval fuel scope first) rest
    | .and a b =>
      let v ← eval fuel scope a
      if ← truth v then eval fuel scope b else return v
    | .or a b =>
      let v ← eval fuel scope a
      if ← truth v then return v else eval fuel scope b
    | .choose c yes no =>
      if ← truth (← eval fuel scope c) then eval fuel scope yes else eval fuel scope no
    | .lambda params body =>
      let usual ← evalUsual fuel scope params
      newObject (.function "<lambda>" params usual (.expression body) scope)
    | .gather kind key element clauses =>
      let inner ← newScope [] scope
      let found ← gathered fuel inner key element clauses
      match kind with
      | .list => newList (found.map (·.2))
      | .set => newSet (found.map (·.2))
      | .iterator => newObject (.iterator (found.map (·.2)))
      | .dict =>
        found.forM fun (k, _) => checkKey k
        newDict found
    | .formatted parts => return .text (← filled fuel scope parts)
    | .bind name e =>
      let v ← eval fuel scope e
      setName scope name v
      return v
termination_by structural fuel => fuel

/-- The values of expressions, some of which stand for all that their values hold. -/
def evalItems : Nat → Nat → List Expr → Run (List Value)
  | 0, _, _ => tooDeep
  | fuel + 1, scope, es => do
    let vs ← es.mapM fun e => do
      match e with
      | .spread e => itemsOf (← eval fuel scope e)
      | e => return [← eval fuel scope e]
    return vs.flatten
termination_by structural fuel => fuel

def evalSlice : Nat → Nat → Option Expr → Option Expr → Option Expr → Run Slice
  | 0, _, _, _, _ => tooDeep
  | fuel + 1, scope, first, last, step => do
    let bound (e : Option Expr) : Run Value := match e with
      | some e => eval fuel scope e
      | none => return .none
    let a ← bound first
    let b ← bound last
    sliceOf a b (← bound step)
termination_by structural fuel => fuel

/-- What a function is given by arguments. -/
def evalArguments : Nat → Nat → List Argument → Run Given
  | 0, _, _ => tooDeep
  | fuel + 1, scope, args => do
    args.foldlM (fun (g : Given) a => do
      match a with
      | .plain e => return { g with values := g.values ++ [← eval fuel scope e] }
      | .named name e => return { g with named := g.named ++ [(name, ← eval fuel scope e)] }
      | .all e => return { g with values := g.values ++ (← itemsOf (← eval fuel scope e)) }
      | .allNamed e =>
        let es ← StoreMethod.entriesOf (← eval fuel scope e)
        let named := es.filterMap fun (k, v) => match k with
          | .text s => some (String.ofList s, v)
          | _ => none
        return { g with named := g.named ++ named }) Given.none
termination_by structural fuel => fuel

/-- The values that a function takes for what it is not given. -/
def evalUsual : Nat → Nat → List Parameter → Run (List (Option Value))
  | 0, _, _ => tooDeep
  | fuel + 1, scope, params => params.mapM fun p => do
    match p with
    | .plain _ (some e) => return some (← eval fuel scope e)
    | _ => return none
termination_by structural fuel => fuel

/-- Are values in relations, each to the next one? -/
def compared : Nat → Nat → Value → List (Relation × Expr) → Run Value
  | 0, _, _, _ => tooDeep
  | fuel + 1, scope, v, rest => do
    match rest with
    | [] => return .bool true
    | (r, e) :: rest =>
      let w ← eval fuel scope e
      if ← r.holds v w then
        if rest.isEmpty then return .bool true else compared fuel scope w rest
      else return .bool false
termination_by structural fuel => fuel

/-- A text with values in it. -/
def filled : Nat → Nat → List Part → Run (List Char)
  | 0, _, _ => tooDeep
  | fuel + 1, scope, parts => do
    let pieces ← parts.mapM fun p => do
      match p with
      | .text s => return s.toList
      | .value e conversion format =>
        let v ← eval fuel scope e
        Known.converted v conversion (← filled fuel scope format)
    return pieces.flatten
termination_by structural fuel => fuel

/-- The keys and elements of a comprehension. -/
def gathered : Nat → Nat → Option Expr → Expr → List Clause → Run (List (Value × Value))
  | 0, _, _, _, _ => tooDeep
  | fuel + 1, scope, key, element, clauses => do
    match clauses with
    | [] =>
      let k ← match key with
        | some k => eval fuel scope k
        | none => pure .none
      return [(k, ← eval fuel scope element)]
    | .where' c :: rest =>
      if ← truth (← eval fuel scope c) then gathered fuel scope key element rest else return []
    | .each target source :: rest =>
      let items ← itemsOf (← eval fuel scope source)
      let found ← items.mapM fun v => do
        give fuel scope target v
        gathered fuel scope key element rest
      return found.flatten
termination_by structural fuel => fuel

/-- Call a value. -/
def callValue : Nat → Value → Given → Run Value
  | 0, _, _ => tooDeep
  | fuel + 1, f, g => do
    match f with
    | .known name => Known.callKnown (callValue fuel) name g
    | .method self name => Known.callMethod (callValue fuel) self name g
    | f =>
      match ← objectOf? f with
      | some (.function name params usual body scope) =>
        let frames := (← get).frames
        let file := (frames.getLast?.map (·.file)).getD ""
        let line := match body with
          | .block (.mk line _ :: _) => line
          | _ => (frames.head?.map (·.line)).getD 1
        let bound ← bindAll name params usual g
        inFrame file name line [] do
          let inner ← newScope bound scope
          match body with
          | .expression e => eval fuel inner e
          | .block body => inFunction (perform fuel inner body)
      | _ => typeError "" f " object is not callable"
termination_by structural fuel => fuel

/-- Give a value to what it can be given to. -/
def give : Nat → Nat → Expr → Value → Run Unit
  | 0, _, _, _ => tooDeep
  | fuel + 1, scope, target, v => do
    match target with
    | .name s => setName scope s v
    | .item e (.slice first last step) =>
      let row ← eval fuel scope e
      setPart row (← evalSlice fuel scope first last step) v
    | .item e k =>
      let row ← eval fuel scope e
      setItem row (← eval fuel scope k) v
    | .tuple ts | .list ts =>
      let starred := ts.findIdx? fun t => match t with
        | .spread _ => true
        | _ => false
      let vs ← unpacked ts.length starred v
      (ts.zip vs).forM fun (t, v) => give fuel scope t v
    | .spread t => give fuel scope t v
    | .attribute e name =>
      let row ← eval fuel scope e
      raise "AttributeError" ("'" ++ row.kindName (← heap) ++ "' object has no attribute '" ++ name
        ++ "'")
    | _ => raise "SyntaxError" "cannot assign to expression"
termination_by structural fuel => fuel

/-- Carry out statements. -/
def perform : Nat → Nat → List Located → Run Unit
  | 0, _, _ => tooDeep
  | fuel + 1, scope, body => body.forM fun (.mk line s) => do
    atLine line
    carryOut fuel scope s
termination_by structural fuel => fuel

/-- Carry out a statement. -/
def carryOut : Nat → Nat → Statement → Run Unit
  | 0, _, _ => tooDeep
  | fuel + 1, scope, s => do
    match s with
    | .expression e => discard (eval fuel scope e)
    | .assign targets value =>
      let v ← eval fuel scope value
      targets.forM fun t => give fuel scope t v
    | .update op target value =>
      match target with
      | .item e k =>
        let row ← eval fuel scope e
        let k ← eval fuel scope k
        let old ← itemOf row k
        setItem row k (← op.update old (← eval fuel scope value))
      | target =>
        let old ← eval fuel scope target
        give fuel scope target (← op.update old (← eval fuel scope value))
    | .cond c yes no =>
      if ← truth (← eval fuel scope c) then perform fuel scope yes else perform fuel scope no
    | .loop c body otherwise =>
      let line := ((← get).frames.head?.map (·.line)).getD 1
      let done ← unbroken (repeatedly () fun _ => do
        atLine line
        if ← truth (← eval fuel scope c) then
          inRound (perform fuel scope body)
          return some ()
        else return none)
      if done then perform fuel scope otherwise
    | .each target source body otherwise =>
      let v ← eval fuel scope source
      let done ← unbroken (forEachItem v fun x => do
        give fuel scope target x
        perform fuel scope body)
      if done then perform fuel scope otherwise
    | .define name params body =>
      let usual ← evalUsual fuel scope params
      setName scope name (← newObject (.function name params usual (.block body) scope))
    | .answer value =>
      match value with
      | some e => throw (.answer (← eval fuel scope e))
      | none => throw (.answer .none)
    | .leave => throw .leave
    | .again => throw .again
    | .pass => return ()
    | .bring modules => modules.forM fun (name, alias') => do
      let v ← moduleOf name
      match alias' with
      | some s => setName scope s v
      | none =>
        let first := (name.splitOn ".").headD name
        setName scope first (.module first)
    | .bringFrom m names =>
      discard (moduleOf m)
      (← givenBy m names).forM fun (name, v) => setName scope name v
    | .raise e =>
      match e with
      | some e => raiseValue (← eval fuel scope e)
      | none =>
        match (← get).handled with
        | n :: _ => raiseAgain n
        | [] => raise "RuntimeError" "No active exception to reraise"
    | .attempt body handlers otherwise last =>
      let attempt : Run Unit := do
        let r ← catching (do perform fuel scope body; return none) fun n => return some n
        match r with
        | none => perform fuel scope otherwise
        | some n =>
          trimTrace n
          handle fuel scope n handlers
      if last.isEmpty then attempt else andFinally attempt (perform fuel scope last)
    | .delete targets => targets.forM fun t => do
      match t with
      | .name s => deleteName scope s
      | .item e (.slice first last step) =>
        let row ← eval fuel scope e
        deletePart row (← evalSlice fuel scope first last step)
      | .item e k =>
        let row ← eval fuel scope e
        deleteItem row (← eval fuel scope k)
      | _ => raise "SyntaxError" "cannot delete expression"
    | .claim c message =>
      if !(← truth (← eval fuel scope c)) then
        match message with
        | some e => raiseWith "AssertionError" [← eval fuel scope e]
        | none => raiseWith "AssertionError" []
    | .shared names =>
      match (← heap)[scope]? with
      | some (.scope bound foreign outer) =>
        setObject scope (.scope bound (names ++ foreign) outer)
      | _ => return ()
    | .with' items body => within fuel scope items body
termination_by structural fuel => fuel

/-- Deal with an exception by the first handler that is for its kind. -/
def handle : Nat → Nat → Nat → List Handler → Run Unit
  | 0, _, _, _ => tooDeep
  | fuel + 1, scope, n, handlers => do
    match handlers with
    | [] => raiseAgain n
    | .mk kinds name body :: rest =>
      let fits ← match kinds, (← heap)[n]? with
        | none, _ => pure true
        | some e, some (.fault kind _ _ _) => do
          pure ((← handledKinds (← eval fuel scope e)).any (Value.kindIs kind))
        | _, _ => pure false
      if fits then
        if let some s := name then setName scope s (.object n)
        dealing n (perform fuel scope body)
        if let some s := name then
          catching (deleteName scope s) fun _ => return ()
      else handle fuel scope n rest
termination_by structural fuel => fuel

/-- Carry out statements while values are in use, the first one first. -/
def within : Nat → Nat → List (Expr × Option Expr) → List Located → Run Unit
  | 0, _, _, _ => tooDeep
  | fuel + 1, scope, items, body => do
    match items with
    | [] => perform fuel scope body
    | (e, target) :: rest =>
      let v ← eval fuel scope e
      if let some t := target then give fuel scope t v
      let inner := within fuel scope rest body
      match v, ← objectOf? v with
      | .object n, some (.file _) => andFinally inner (StoreMethod.close n)
      | _, _ => inner
termination_by structural fuel => fuel

end

end SvgSkeleton.Shell.Interpreter
