import SvgSkeleton.Shell.Utility.Interpreter.TextMethod

/-!
What lists, entries with keys, sets, open files and places of a search can do.
-/

namespace SvgSkeleton.Shell.Interpreter.StoreMethod

/-! ### Lists -/

def listNames : List String :=
  ["append", "extend", "insert", "remove", "pop", "clear", "index", "count", "sort", "reverse",
   "copy"]

/-- Where a value is among others. -/
def indexIn (items : List Value) (v : Value) : Run (Option Nat) := do
  let h ← heap
  return items.findIdx? (Value.equal h v)

/-- What a list does. -/
def callList (call : Call) (n : Nat) (xs : Array Value) (name : String) (g : Given) :
    Run Value := do
  let put (xs : Array Value) : Run Value := do
    setObject n (.list xs)
    return .none
  match name with
  | "append" => put (xs.push (← g.only "list.append"))
  | "extend" => put (xs ++ (← itemsOf (← g.only "list.extend")).toArray)
  | "insert" =>
    let i := clamped xs.size (← wholeOf (← g.need name 0 "index"))
    let v ← g.need name 1 "object"
    put (xs.extract 0 i ++ #[v] ++ xs.extract i xs.size)
  | "remove" =>
    match ← indexIn xs.toList (← g.only "list.remove") with
    | some i => put (xs.extract 0 i ++ xs.extract (i + 1) xs.size)
    | none => raise "ValueError" "list.remove(x): x not in list"
  | "pop" =>
    if xs.isEmpty then raise "IndexError" "pop from empty list"
    let i ← match g.get? 0 "index" with
      | some v => wholeOf v
      | none => pure (-1)
    match placeOf xs.size i with
    | none => raise "IndexError" "pop index out of range"
    | some i =>
      setObject n (.list (xs.extract 0 i ++ xs.extract (i + 1) xs.size))
      return xs.getD i .none
  | "clear" => put #[]
  | "index" =>
    let v ← g.need name 0 "value"
    match ← indexIn xs.toList v with
    | some i => return .int (i : Nat)
    | none =>
      let shown := v.shown (← heap)
      raiseText "ValueError" (shown ++ " is not in list".toList)
  | "count" =>
    let v ← g.only "list.count"
    let h ← heap
    return .int ((xs.filter (Value.equal h v)).size : Nat)
  | "sort" => put (← sortedWith call { g with values := .none :: g.values } xs.toList).toArray
  | "reverse" => put xs.reverse
  | _ => newObject (.list xs)

/-- What values in a row do that cannot change. -/
def callTuple (xs : List Value) (name : String) (g : Given) : Run Value := do
  let v ← g.only name
  let h ← heap
  if name = "count" then return .int ((xs.filter (Value.equal h v)).length : Nat)
  else
    match xs.findIdx? (Value.equal h v) with
    | some i => return .int (i : Nat)
    | none => raise "ValueError" "tuple.index(x): x not in tuple"

/-! ### Entries with keys -/

def dictNames : List String :=
  ["get", "keys", "values", "items", "pop", "popitem", "setdefault", "update", "clear", "copy"]

/-- Raise an exception for a key that there is no entry for. -/
def noKey {α : Type} (k : Value) : Run α := raiseWith "KeyError" [k]

/-- The entries that a value holds: those with keys, or pairs. -/
def entriesOf (v : Value) : Run (List (Value × Value)) := do
  match ← objectOf? v with
  | some (.dict es) => return es.toList
  | _ =>
    (← itemsOf v).zipIdx.mapM fun (pair, i) => do
      match ← itemsOf pair with
      | [k, v] =>
        checkKey k
        return (k, v)
      | vs =>
        raise "ValueError" ("dictionary update sequence element #" ++ toString i ++ " has length "
          ++ toString vs.length ++ "; 2 is required")

def withoutEntry (es : Array (Value × Value)) (i : Nat) : Array (Value × Value) :=
  es.extract 0 i ++ es.extract (i + 1) es.size

/-- What entries with keys do. -/
def callDict (n : Nat) (es : Array (Value × Value)) (name : String) (g : Given) : Run Value := do
  let h ← heap
  let find (k : Value) : Option Nat := Value.find (Value.equal h) k es
  let at' (i : Nat) : Value := (es.getD i (.none, .none)).2
  match name with
  | "get" =>
    let k ← g.need name 0 "key"
    checkKey k
    match find k with
    | some i => return at' i
    | none => return (g.get? 1 "default").getD .none
  | "keys" | "values" | "items" => newObject (.view ("dict_" ++ name) n)
  | "pop" =>
    let k ← g.need name 0 "key"
    match find k with
    | some i =>
      setObject n (.dict (withoutEntry es i))
      return at' i
    | none =>
      match g.get? 1 "default" with
      | some v => return v
      | none => noKey k
  | "popitem" =>
    match es.back? with
    | some e =>
      setObject n (.dict es.pop)
      return .tuple [e.1, e.2]
    | none => raiseWith "KeyError" [named "popitem(): dictionary is empty"]
  | "setdefault" =>
    let k ← g.need name 0 "key"
    match find k with
    | some i => return at' i
    | none =>
      let v := (g.get? 1 "default").getD .none
      setObject n (.dict (es.push (k, v)))
      return v
  | "update" =>
    let more ← match g.values with
      | [] => pure []
      | v :: _ => entriesOf v
    let named := g.named.map fun (k, v) => (Value.text k.toList, v)
    setObject n (.dict (withEntries h es (more ++ named).toArray))
    return .none
  | "clear" =>
    setObject n (.dict #[])
    return .none
  | _ => newObject (.dict es)

/-! ### Sets -/

def setNames : List String :=
  ["add", "remove", "discard", "union", "intersection", "difference", "symmetric_difference",
   "update", "issubset", "issuperset", "isdisjoint", "clear", "copy", "pop"]

/-- The values that are in one row and, or not, in another one. -/
def common (h : Heap) (inside : Bool) (xs ys : List Value) : List Value :=
  xs.filter fun x => ys.any (Value.equal h x) == inside

/-- What a set does. -/
def callSet (n : Nat) (xs : Array Value) (name : String) (g : Given) : Run Value := do
  let h ← heap
  let items := xs.toList
  let others : Run (List Value) := return (← g.values.mapM itemsOf).flatten
  let put (vs : List Value) : Run Value := do
    let s ← newSet vs
    if let some o ← objectOf? s then setObject n o
    return .none
  match name with
  | "add" =>
    let v ← g.only "set.add"
    checkKey v
    put (items ++ [v])
  | "remove" | "discard" =>
    let v ← g.only ("set." ++ name)
    if name = "remove" && !items.any (Value.equal h v) then noKey v
    put (items.filter (!Value.equal h v ·))
  | "union" => newSet (items ++ (← others))
  | "update" => put (items ++ (← others))
  | "intersection" =>
    newSet ((← g.values.mapM itemsOf).foldl (fun vs ys => common h true vs ys) items)
  | "difference" => newSet (common h false items (← others))
  | "symmetric_difference" =>
    let ys ← others
    newSet (common h false items ys ++ common h false ys items)
  | "issubset" => return .bool (common h false items (← others)).isEmpty
  | "issuperset" => return .bool (common h false (← others) items).isEmpty
  | "isdisjoint" => return .bool (common h true items (← others)).isEmpty
  | "clear" => put []
  | "pop" =>
    match items with
    | [] => raiseWith "KeyError" [named "pop from an empty set"]
    | v :: rest =>
      discard (put rest)
      return v
  | _ => newSet items

/-! ### Files -/

def fileNames : List String :=
  ["read", "readline", "readlines", "write", "writelines", "close", "flush", "fileno", "isatty",
   "__enter__", "__exit__", "readable", "writable", "seek", "reconfigure"]

/-- Hand on what a file holds, and close it. -/
def close (n : Nat) : Run Unit := do
  flushFile n
  match (← heap)[n]? with
  | some (.file f) => setObject n (.file { f with closed := true })
  | _ => return ()

/-- The length that is to be read, if there is a limit. -/
def limitOf (g : Given) : Run (Option Nat) := do
  match g.some? 0 "size" with
  | none => return none
  | some v =>
    let n ← wholeOf v
    return if n < 0 then none else some n.toNat

/-- What a file does. -/
def callFile (n : Nat) (f : Opened) (name : String) (g : Given) : Run Value := do
  let keep (left : List Char) : Run Unit := do
    match (← heap)[n]? with
    | some (.file f) => setTextLeft n f left
    | _ => return ()
  let emit (v : Value) : Run Nat := do
    match v, f.isText with
    | .text s, true =>
      writeFile n (textBytes s)
      return s.length
    | .bytes s, false =>
      writeFile n s
      return s.length
    | v, true => typeError "write() argument must be str, not " v ""
    | v, false => typeError "a bytes-like object is required, not " v ""
  match name with
  | "read" =>
    let s ← textLeft n f
    match ← limitOf g with
    | none =>
      keep []
      return readValue f s
    | some k =>
      keep (s.drop k)
      return readValue f (s.take k)
  | "readline" =>
    let (line, rest) := lineOf (← textLeft n f)
    keep rest
    return readValue f line
  | "readlines" =>
    let s ← textLeft n f
    keep []
    newList ((linesOf (s.length + 1) s).map (readValue f))
  | "write" => return .int (← emit (← g.only "TextIOWrapper.write"))
  | "writelines" =>
    (← itemsOf (← g.only "writelines")).forM fun v => discard (emit v)
    return .none
  | "close" | "__exit__" =>
    close n
    return .none
  | "flush" =>
    flushFile n
    return .none
  | "fileno" => return .int (f.channel.getD 3 : Nat)
  | "isatty" => return .bool false
  | "readable" => return .bool (match f.supply with
    | .nothing => false
    | _ => true)
  | "writable" => return .bool (f.channel.isSome || f.stream.isSome)
  | "__enter__" => return .object n
  | "seek" => return .int 0
  | _ => return .none

/-! ### Places of a search -/

def foundNames : List String := ["group", "groups", "groupdict", "start", "end", "span", "expand"]

/-- The number of a group. -/
def groupNumber (m : Matcher) (v : Value) : Run Nat := do
  match v with
  | .text s => match m.names.lookup s with
    | some n => return n
    | none => raise "IndexError" "no such group"
  | v =>
    let n ← wholeOf v
    if n < 0 || m.groups < n.toNat then raise "IndexError" "no such group"
    return n.toNat

def groupValue (p : Match) (n : Nat) : Value :=
  match p.group? n with
  | some s => .text s
  | none => .none

/-- What the place of a search does. -/
def callFound (m : Matcher) (p : Match) (name : String) (g : Given) : Run Value := do
  let first := Value.int (p.first.index : Nat)
  let last := Value.int (p.last.index : Nat)
  match name with
  | "group" =>
    let ns ← g.values.mapM (groupNumber m)
    match ns with
    | [] => return groupValue p 0
    | [n] => return groupValue p n
    | ns => return .tuple (ns.map (groupValue p))
  | "groups" =>
    let usual := (g.get? 0 "default").getD .none
    return .tuple ((List.range m.groups).map fun i => match groupValue p (i + 1) with
      | .none => usual
      | v => v)
  | "groupdict" => newDict (m.names.map fun (s, n) => (.text s, groupValue p n))
  | "start" => return first
  | "end" => return last
  | _ => return .tuple [first, last]

end SvgSkeleton.Shell.Interpreter.StoreMethod
