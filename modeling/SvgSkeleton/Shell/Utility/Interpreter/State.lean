import SvgSkeleton.Shell.Utility.Options
import SvgSkeleton.Shell.Utility.Interpreter.Value

/-!
The state of a script at work: what values refer to, where the script is, and what it has written.
What is written to the output is kept until the script ends or other programs may write, too.
-/

namespace SvgSkeleton.Shell.Interpreter

structure State where
  heap : Heap
  /-- The functions at work, the innermost first. -/
  frames : List Frame
  depth : Nat
  /-- What has been written to the output, the latest first. -/
  out : List Bytes
  /-- What has been written as text behind it, the latest first. -/
  texts : List Bytes
  /-- The exceptions that are dealt with, the innermost first. -/
  handled : List Nat

/-- Why a statement is not followed by the next one. -/
inductive Halt where
  /-- An exception. -/
  | raised (n : Nat)
  | answer (v : Value)
  | leave
  | again

/-- What does not change while a script is at work. -/
structure Setting where
  call : Caller

/-- What a script does. -/
abbrev Run := ReaderT Setting (ExceptT Halt (StateT State Shell))

def inShell {α : Type} (act : Shell α) : Run α := fun _ s => do
  let a ← act
  return (.ok a, s)

def heap : Run Heap := return (← get).heap

/-- A number for something new. -/
def allocate (o : Object) : Run Nat := modifyGet fun s =>
  (s.heap.size, { s with heap := s.heap.push o })

def newObject (o : Object) : Run Value := return .object (← allocate o)

def newList (items : List Value) : Run Value := newObject (.list items.toArray)

def setObject (n : Nat) (o : Object) : Run Unit := modify fun s =>
  { s with heap := s.heap.setIfInBounds n o }

def objectOf? (v : Value) : Run (Option Object) := do
  match v with
  | .object n => return (← heap)[n]?
  | _ => return none

/-! ### Things that are there from the start -/

namespace Fixed

def arguments : Nat := 0
def environment : Nat := 1
def input : Nat := 2
def output : Nat := 3
def errors : Nat := 4
def scope : Nat := 5

end Fixed

/-! ### Exceptions -/

/-- Raise an exception of a kind. -/
def raiseWith {α : Type} (kind : String) (args : List Value) : Run α := do
  let s ← get
  let n ← allocate (.fault kind args s.frames s.handled.head?)
  throw (.raised n)

def raiseText {α : Type} (kind : String) (message : List Char) : Run α :=
  raiseWith kind [.text message]

def raise {α : Type} (kind message : String) : Run α := raiseText kind message.toList

/-- Raise an exception that names the kind of a value among other words. -/
def typeError {α : Type} (before : String) (v : Value) (after : String) : Run α := do
  raise "TypeError" (before ++ "'" ++ v.kindName (← heap) ++ "'" ++ after)

/-- Raise an exception for something that the system refuses. -/
def systemError {α : Type} (e : OsError) (path : List Char) : Run α := do
  let kind := match e with
    | .noEntry => "FileNotFoundError"
    | .denied => "PermissionError"
    | .present => "FileExistsError"
    | .isFolder => "IsADirectoryError"
    | .notFolder => "NotADirectoryError"
    | .brokenPipe => "BrokenPipeError"
    | _ => "OSError"
  raiseWith kind [.int (e.number?.getD 5), .text e.text.toList, .text path]

/-- Something, and what is done about an exception that it raises. -/
def catching {α : Type} (act : Run α) (handle : Nat → Run α) : Run α := fun c s => do
  match ← act c s with
  | (.error (.raised n), t) => handle n c { t with frames := s.frames, depth := s.depth }
  | r => return r

/-- Something with an exception at hand. -/
def dealing {α : Type} (n : Nat) (act : Run α) : Run α := fun c s => do
  let (r, t) ← act c { s with handled := n :: s.handled }
  return (r, { t with handled := s.handled })

/-- Something, and what is done behind it in any case. -/
def andFinally {α : Type} (act : Run α) (last : Run Unit) : Run α := fun c s => do
  let (r, t) ← act c s
  match ← last c { t with frames := s.frames, depth := s.depth } with
  | (.ok (), u) => return (r, u)
  | (.error h, u) => return (.error h, u)

/-- How many functions may be at work at once. -/
def recursionLimit : Nat := 1000

/-- Let a function be at work. -/
def inFrame {α : Type} (file name : String) (line : Nat) (source : List String) (act : Run α) :
    Run α := do
  let s ← get
  if recursionLimit ≤ s.depth then
    raise "RecursionError" "maximum recursion depth exceeded"
  set { s with frames := ⟨file, name, line, source⟩ :: s.frames, depth := s.depth + 1 }
  let a ← act
  modify fun t => { t with frames := s.frames, depth := s.depth }
  return a

/-- The line that the script has come to. -/
def atLine (line : Nat) : Run Unit := modify fun s =>
  { s with frames := match s.frames with
    | f :: fs => { f with line := line } :: fs
    | [] => [] }

/-! ### Repetition -/

/-- Do something again and again, from one state to the next, while there is one. -/
def iterate {σ : Type} (step : σ → Run (Option σ)) (c : Setting) :
    Nat → σ → State → Machine → Except Stop (Except Halt Unit × State) × Machine
  | 0, _, _, m =>
    match m.deadline with
    | some t => (.error .timedOut, { m with time := t })
    | none => (.error (.killed Signal.ending), m)
  | n + 1, a, s, m =>
    match step a c s m with
    | (.ok (.ok (some a), s), m) => iterate step c n a s m
    | (.ok (.ok none, s), m) => (.ok (.ok (), s), m)
    | (.ok (.error h, s), m) => (.ok (.error h, s), m)
    | (.error e, m) => (.error e, m)

/-- How many rounds a loop may have. -/
def roundLimit : Nat := 3000000

/-- Do something again and again, from one state to the next, while there is one. -/
def repeatedly {σ : Type} (start : σ) (step : σ → Run (Option σ)) : Run Unit := fun c s m =>
  iterate step c roundLimit start s m

/-- The body of a loop, which may end early. -/
def inRound (body : Run Unit) : Run Unit := fun c s => do
  match ← body c s with
  | (.error .again, s) => return (.ok (), s)
  | r => return r

/-- A loop. Has it come to its end without having been left? -/
def unbroken (loop : Run Unit) : Run Bool := fun c s => do
  match ← loop c s with
  | (.ok (), s) => return (.ok true, s)
  | (.error .leave, s) => return (.ok false, s)
  | (.error h, s) => return (.error h, s)

/-- The body of a function, and the value that it answers with. -/
def inFunction (body : Run Unit) : Run Value := fun c s => do
  match ← body c s with
  | (.ok (), s) => return (.ok .none, s)
  | (.error (.answer v), s) => return (.ok v, s)
  | (.error h, s) => return (.error h, s)

/-! ### Writing -/

def textBytes (s : List Char) : Bytes := Bytes.ofText (String.ofList s)

def textOfBytes (s : Bytes) : List Char := (Bytes.toText s).toList

/-- Hand on what has been written to the output. -/
def flushOutput : Run Unit := do
  let s ← get
  inShell (write 1 (s.texts ++ s.out).reverse.flatten)
  modify fun s => { s with out := [], texts := [] }

/-- Write to a stream. -/
def writeToStream (stream : Nat) (s : Bytes) : Shell Unit := do
  let spare := 1000
  lead spare (some stream)
  write spare s
  lead spare none

/-- Hand on what has been written to a file. -/
def flushFile (n : Nat) : Run Unit := do
  match (← heap)[n]? with
  | some (.file f) =>
    match f.channel, f.stream with
    | some 1, _ => flushOutput
    | _, some stream =>
      inShell (writeToStream stream f.pending.reverse.flatten)
      setObject n (.file { f with pending := [] })
    | _, _ => return ()
  | _ => return ()

/-- Hand on all that has been written. -/
def flushAll : Run Unit := do
  for n in List.range (← heap).size do
    match (← heap)[n]? with
    | some (.file f) => unless f.pending.isEmpty do flushFile n
    | _ => pure ()
  flushOutput

/-- Write to a file. -/
def writeFile (n : Nat) (s : Bytes) : Run Unit := do
  match (← heap)[n]? with
  | some (.file f) =>
    if f.closed then raise "ValueError" "I/O operation on closed file."
    match f.channel, f.stream with
    | some 1, _ => modify fun st =>
      if f.isText then { st with texts := s :: st.texts } else { st with out := s :: st.out }
    | some channel, _ => inShell (write channel s)
    | none, some _ => setObject n (.file { f with pending := s :: f.pending })
    | none, none => raise "io.UnsupportedOperation" "not writable"
  | _ => return ()

/-! ### Reading -/

/-- What is left of a file that is read. -/
def textLeft (n : Nat) (f : Opened) : Run (List Char) := do
  if f.closed then raise "ValueError" "I/O operation on closed file."
  match f.supply with
  | .text s => return s
  | .input =>
    let s ← inShell (readAll 0)
    let left := if f.isText then textOfBytes s else s
    setObject n (.file { f with supply := .text left })
    return left
  | .nothing => raise "io.UnsupportedOperation" "not readable"

def setTextLeft (n : Nat) (f : Opened) (left : List Char) : Run Unit :=
  setObject n (.file { f with supply := .text left })

/-- A text that has been read from a file. -/
def readValue (f : Opened) (s : List Char) : Value := if f.isText then .text s else .bytes s

/-- The line at the front of a text, with its end, and what follows. -/
def lineOf (s : List Char) : List Char × List Char :=
  let body := s.takeWhile (· != '\n')
  let rest := s.drop body.length
  (body ++ rest.take 1, rest.drop 1)

/-- The lines of a text, with their ends. -/
def linesOf : Nat → List Char → List (List Char)
  | 0, _ => []
  | _ + 1, [] => []
  | fuel + 1, s =>
    let (line, rest) := lineOf s
    line :: linesOf fuel rest

/-! ### Values that hold others -/

/-- There must be room for something of a size. -/
def needRoom (size : Nat) : Run Unit := do
  if Value.sizeLimit < size then raiseWith "MemoryError" []

/-- The numbers of a range, if there is room for them. -/
def rangeValues (first last step : Int) : Run (List Value) := do
  needRoom (Value.rangeSize first last step)
  return Value.rangeItems first last step

/-- The values that a value holds, one after the other; nothing if it holds none. -/
def items? (v : Value) : Run (Option (List Value)) := do
  match v with
  | .tuple xs => return some xs
  | .text s => return some (s.map fun c => .text [c])
  | .bytes s => return some (s.map fun c => .int c.toNat)
  | .range i j k => return some (← rangeValues i j k)
  | .object n =>
    match (← heap)[n]? with
    | some (.list xs) | some (.set xs) => return some xs.toList
    | some (.dict es) => return some (es.toList.map (·.1))
    | some (.view kind m) => return some (Value.viewItems kind (Value.entriesAt (← heap) m))
    | some (.iterator xs) =>
      setObject n (.iterator [])
      return some xs
    | some (.file f) =>
      let s ← textLeft n f
      match (← heap)[n]? with
      | some (.file f) => setTextLeft n f []
      | _ => pure ()
      return some ((linesOf (s.length + 1) s).map (readValue f))
    | _ => return none
  | _ => return none

/-- The values that a value holds, one after the other. -/
def itemsOf (v : Value) : Run (List Value) := do
  match ← items? v with
  | some xs => return xs
  | none => typeError "" v " object is not iterable"

/-- Values without those that are equal to one before them. -/
def distinct (h : Heap) (items : List Value) : Array Value :=
  items.foldl (fun (xs : Array Value) v => if xs.any (Value.equal h v) then xs else xs.push v) #[]

/-- Are all values whole numbers that are not negative? -/
def smallOnes (items : Array Value) : Bool := items.all fun v => match v with
  | .int n => 0 ≤ n
  | _ => false

/-- The values of a set, in the order in which they are shown. -/
def newSet (items : List Value) : Run Value := do
  let xs := distinct (← heap) items
  newObject (.set (if smallOnes xs then
    xs.qsort (fun a b => (a.whole?.getD 0) < (b.whole?.getD 0)) else xs))

/-- Can a value be a key? -/
def isKey (h : Heap) : Nat → Value → Bool
  | 0, _ => false
  | fuel + 1, v => match v with
    | .object n => match h[n]? with
      | some (.list _) | some (.dict _) | some (.set _) => false
      | _ => true
    | .tuple xs => xs.all (isKey h fuel)
    | _ => true

/-- Make sure that a value can be a key. -/
def checkKey (v : Value) : Run Unit := do
  unless isKey (← heap) Value.depthLimit v do
    raise "TypeError" ("unhashable type: '" ++ v.kindName (← heap) ++ "'")

/-- Entries with a further one, in place of the one with its key. -/
def withEntry (h : Heap) (entries : Array (Value × Value)) (k v : Value) :
    Array (Value × Value) :=
  match Value.find (Value.equal h) k entries with
  | some i => entries.modify i fun e => (e.1, v)
  | none => entries.push (k, v)

/-- Entries with further ones. -/
def withEntries (h : Heap) (entries more : Array (Value × Value)) : Array (Value × Value) :=
  more.foldl (fun es e => withEntry h es e.1 e.2) entries

def newDict (entries : List (Value × Value)) : Run Value := do
  let h ← heap
  newObject (.dict (entries.foldl (fun es e => withEntry h es e.1 e.2) #[]))

/-- A text for a name. -/
def named (s : String) : Value := .text s.toList

/-! ### What functions are given

Values in order, and values with names.
-/

structure Given where
  values : List Value
  named : List (String × Value)

/-- A way to call what can be called. -/
abbrev Call := Value → Given → Run Value

namespace Given

def none : Given := ⟨[], []⟩

def one (v : Value) : Given := ⟨[v], []⟩

/-- The value in a place, or the one with a name. -/
def get? (g : Given) (n : Nat) (name : String) : Option Value :=
  g.values[n]?.or (g.named.lookup name)

/-- The value in a place, or the one with a name, if it is not that for nothing. -/
def some? (g : Given) (n : Nat) (name : String) : Option Value :=
  match g.get? n name with
  | some .none => Option.none
  | v => v

/-- The value in a place; there must be one. -/
def need (g : Given) (function : String) (n : Nat) (name : String) : Run Value := do
  match g.get? n name with
  | some v => return v
  | Option.none =>
    if g.values.isEmpty && n = 0 then
      raise "TypeError" (function ++ "() missing 1 required positional argument: '" ++ name ++ "'")
    else
      raise "TypeError" (function ++ " expected at least " ++ toString (n + 1) ++ " argument"
        ++ (if n = 0 then "" else "s") ++ ", got " ++ toString g.values.length)

/-- Make sure that a function is given just one value. -/
def only (g : Given) (function : String) : Run Value := do
  match g.values, g.named with
  | [v], [] => return v
  | vs, _ =>
    raise "TypeError" (function ++ "() takes exactly one argument (" ++ toString vs.length
      ++ " given)")

end Given

/-- The whole number that a value is. -/
def wholeOf (v : Value) : Run Int := do
  match v.whole? with
  | some n => return n
  | none => typeError "" v " object cannot be interpreted as an integer"

/-- The text that a value is. -/
def textOf (v : Value) : Run (List Char) := do
  match v with
  | .text s => return s
  | v => typeError "expected str instance, " v " found"

/-- The text or the bytes that a value is. -/
def charsOf (v : Value) : Run (List Char) := do
  match v with
  | .text s | .bytes s => return s
  | v => typeError "must be str, not " v ""

/-- The number that a value is. -/
def numberOf (v : Value) : Run Floating := do
  match v.number? with
  | some (.finite negative a b) => return Floating.ofQuotient .double negative a b
  | some x => return x
  | none =>
    raise "TypeError" ("must be real number, not " ++ v.kindName (← heap))

/-- The place in something of a length that an index means. -/
def placeOf (length : Nat) (i : Int) : Option Nat :=
  let n := if i < 0 then i + length else i
  if 0 ≤ n && n < length then some n.toNat else none

/-- A place in something of a length, or one of its ends. -/
def clamped (length : Nat) (i : Int) : Nat :=
  let n := if i < 0 then i + length else i
  (max 0 (min n length)).toNat

/-- Does a value count as true? -/
def truth (v : Value) : Run Bool := return v.isTrue (← heap)

/-- Values with their keys in order. Values that have none are complained of. -/
def sortedBy (descending : Bool) (keyed : List (Value × Value)) : Run (List Value) := do
  let h ← heap
  let unordered := (keyed.zip (keyed.drop 1)).find? fun ((a, _), (b, _)) =>
    !Value.equal h a b && (Value.order? h b a).isNone && !(a matches .float _)
      && !(b matches .float _)
  if let some ((a, _), (b, _)) := unordered then
    raise "TypeError" ("'<' not supported between instances of '" ++ b.kindName h ++ "' and '"
      ++ a.kindName h ++ "'")
  let le (a b : Value × Value) : Bool :=
    Value.equal h a.1 b.1 || Value.order? h a.1 b.1 != some .gt
  if descending then
    return ((keyed.reverse.mergeSort le).reverse).map (·.2)
  else return (keyed.mergeSort le).map (·.2)

/-- Values in order, by what a function makes of them. -/
def sortedWith (call : Call) (g : Given) (items : List Value) : Run (List Value) := do
  let keyed ← match g.some? 1 "key" with
    | none => pure (items.map fun v => (v, v))
    | some f => items.mapM fun v => do pure (← call f (.one v), v)
  let descending ← match g.get? 2 "reverse" with
    | some v => truth v
    | none => pure false
  sortedBy descending keyed

end SvgSkeleton.Shell.Interpreter
