import SvgSkeleton.Shell.Floating.Elementary
import SvgSkeleton.Shell.Utility.Interpreter.StoreMethod

/-!
Operators between values, and the parts of values that brackets mean.
-/

namespace SvgSkeleton.Shell.Interpreter

/-! ### Numbers -/

def Operator.sign : Operator → String
  | .add => "+"
  | .sub => "-"
  | .mul => "*"
  | .div => "/"
  | .floorDiv => "//"
  | .mod => "%"
  | .pow => "** or pow()"
  | .shiftLeft => "<<"
  | .shiftRight => ">>"
  | .and => "&"
  | .or => "|"
  | .xor => "^"

/-- A whole number as an endless row of bits, of which some are looked at. -/
def bitsOf (width : Nat) (n : Int) : Nat := (n % (1 <<< width : Nat)).toNat

/-- An operation on the bits of whole numbers. -/
def bitwise (f : Nat → Nat → Nat) (a b : Int) : Int :=
  let width := max a.natAbs.log2 b.natAbs.log2 + 3
  let n := f (bitsOf width a) (bitsOf width b) % (1 <<< width)
  if 1 <<< (width - 1) ≤ n then (n : Int) - (1 <<< width : Nat) else n

def noDivision {α : Type} (message : String) : Run α := raise "ZeroDivisionError" message

/-- Whole numbers beyond this many bits are not computed. -/
def bitLimit : Nat := 10000000

/-- The result of an operator on whole numbers. -/
def Operator.onWhole (op : Operator) (a b : Int) : Run Value := do
  match op with
  | .add => return .int (a + b)
  | .sub => return .int (a - b)
  | .mul => return .int (a * b)
  | .div =>
    if b = 0 then noDivision "division by zero"
    let q := Floating.ofQuotient .double ((a < 0) != (b < 0) && a != 0) a.natAbs b.natAbs
    if !q.isFinite then raise "OverflowError" "integer division result too large for a float"
    return .float q
  | .floorDiv =>
    if b = 0 then noDivision "integer division or modulo by zero"
    return .int (Int.fdiv a b)
  | .mod =>
    if b = 0 then noDivision "integer modulo by zero"
    return .int (Int.fmod a b)
  | .pow =>
    if b < 0 then
      if a = 0 then noDivision "0.0 cannot be raised to a negative power"
      return .float (Floating.pow .double (Floating.ofInt a) (Floating.ofInt b))
    if bitLimit < (a.natAbs.log2 + 1) * b.toNat then raiseWith "MemoryError" []
    return .int (Int.pow a b.toNat)
  | .shiftLeft =>
    if b < 0 then raise "ValueError" "negative shift count"
    if bitLimit < b.toNat then raiseWith "MemoryError" []
    return .int (a * (1 <<< b.toNat : Nat))
  | .shiftRight =>
    if b < 0 then raise "ValueError" "negative shift count"
    return .int (if bitLimit < b.toNat then if a < 0 then -1 else 0
      else Int.fdiv a (1 <<< b.toNat : Nat))
  | .and => return .int (bitwise (· &&& ·) a b)
  | .or => return .int (bitwise (· ||| ·) a b)
  | .xor => return .int (bitwise (· ^^^ ·) a b)

/-- What is left by a division that is rounded down. -/
def floorMod (x y : Floating) : Floating :=
  let m := Floating.mod .double x y
  if m.isZero then (match m with
    | .finite _ a b => .finite y.isNegative a b
    | m => m)
  else if m.isNegative != y.isNegative then Floating.add .double m y
  else m

/-- The greatest whole number that is not greater. -/
def floorOf? : Floating → Option Int
  | .finite negative a b => some (Int.fdiv (Floating.signed negative a) b)
  | _ => none

/-- The result of an operator on numbers with a fraction, if it has one. -/
def Operator.onFloat (op : Operator) (x y : Floating) : Run (Option Value) := do
  match op with
  | .add => return some (.float (Floating.add .double x y))
  | .sub => return some (.float (Floating.sub .double x y))
  | .mul => return some (.float (Floating.mul .double x y))
  | .div =>
    if y.isZero then noDivision "float division by zero"
    return some (.float (Floating.div .double x y))
  | .floorDiv =>
    if y.isZero then noDivision "float floor division by zero"
    let q := Floating.div .double (Floating.sub .double x (floorMod x y)) y
    return some (.float (match floorOf? q with
      | some n => Floating.ofQuotient .double (n < 0) n.natAbs 1
      | none => q))
  | .mod =>
    if y.isZero then noDivision "float modulo"
    return some (.float (floorMod x y))
  | .pow =>
    if x.isZero && y.isNegative then noDivision "0.0 cannot be raised to a negative power"
    let z := Floating.pow .double x y
    if !z.isFinite && x.isFinite && y.isFinite && !(z matches .undefined _) then
      raiseWith "OverflowError" [.int 34, .text "Numerical result out of range".toList]
    return some (.float z)
  | _ => return none

/-! ### Operators -/

/-- Complain of values that an operator has no result for. -/
def noResult {α : Type} (sign : String) (a b : Value) : Run α := do
  let h ← heap
  raise "TypeError" ("unsupported operand type(s) for " ++ sign ++ ": '" ++ a.kindName h
    ++ "' and '" ++ b.kindName h ++ "'")

/-- Values again and again. -/
def repeated {α : Type} (n : Int) (items : List α) : Run (List α) := do
  if items.isEmpty then return []
  needRoom (n.toNat * items.length)
  return (List.replicate n.toNat items).flatten

/-- The values that are put into the places of a text. -/
def suppliedBy (v : Value) : Run Supplied := do
  match v with
  | .tuple vs => return ⟨vs, none⟩
  | v =>
    match ← objectOf? v with
    | some (.dict es) => return ⟨[v], some es⟩
    | _ => return ⟨[v], none⟩

/-- A text with values in its places. -/
def fillIn (s : List Char) (v : Value) : Run (List Char) := do
  match filledIn (← heap) (s.length + 1) (← suppliedBy v) s with
  | .ok t => return t
  | .error ("MemoryError", _) => raiseWith "MemoryError" []
  | .error (kind, message) => raise kind message

/-- A view as a set; any other value as it is. -/
def withoutView (v : Value) : Run Value := do
  match ← objectOf? v with
  | some (.view kind m) => newSet (Value.viewItems kind (Value.entriesAt (← heap) m))
  | _ => return v

/-- The result of an operator on values that are no numbers. -/
def Operator.onOthers (op : Operator) (a b : Value) : Run Value := do
  let a ← withoutView a
  let b ← withoutView b
  let h ← heap
  let noJoin (kind : String) : Run Value :=
    raise "TypeError" ("can only concatenate " ++ kind ++ " (not \"" ++ b.kindName h ++ "\") to "
      ++ kind)
  let noTimes (v : Value) : Run Value :=
    typeError "can't multiply sequence by non-int of type " v ""
  let noMatch : Run Value := noResult op.sign a b
  match op, a, b with
  | .add, .text s, .text t => return .text (s ++ t)
  | .add, .bytes s, .bytes t => return .bytes (s ++ t)
  | .add, .tuple xs, .tuple ys => return .tuple (xs ++ ys)
  | .add, .text _, _ => noJoin "str"
  | .add, .tuple _, _ => noJoin "tuple"
  | .mod, .text s, v => return .text (← fillIn s v)
  | op, a, b =>
    match op, ← objectOf? a, ← objectOf? b with
    | .add, some (.list xs), some (.list ys) => newObject (.list (xs ++ ys))
    | .add, some (.list _), _ => noJoin "list"
    | .or, some (.dict xs), some (.dict ys) => newObject (.dict (withEntries h xs ys))
    | .or, some (.set xs), some (.set ys) => newSet (xs ++ ys).toList
    | .and, some (.set xs), some (.set ys) =>
      newSet (StoreMethod.common h true xs.toList ys.toList)
    | .sub, some (.set xs), some (.set ys) =>
      newSet (StoreMethod.common h false xs.toList ys.toList)
    | .xor, some (.set xs), some (.set ys) =>
      newSet (StoreMethod.common h false xs.toList ys.toList
        ++ StoreMethod.common h false ys.toList xs.toList)
    | .div, some (.record "PosixPath" _), _ => noMatch
    | .mul, x, y =>
      match a, b.whole?, x with
      | .text s, some n, _ => return .text (← repeated n s)
      | .bytes s, some n, _ => return .bytes (← repeated n s)
      | .tuple s, some n, _ => return .tuple (← repeated n s)
      | _, some n, some (.list xs) => newList (← repeated n xs.toList)
      | .text _, none, _ | .tuple _, none, _ | _, none, some (.list _) => noTimes b
      | _, _, _ =>
        match b, a.whole?, y with
        | .text s, some n, _ => return .text (← repeated n s)
        | .tuple s, some n, _ => return .tuple (← repeated n s)
        | _, some n, some (.list xs) => newList (← repeated n xs.toList)
        | .text _, none, _ | .tuple _, none, _ | _, none, some (.list _) => noTimes a
        | _, _, _ => noMatch
    | _, _, _ => noMatch

/-- A value as a number with a fraction, if it is a number. -/
def fraction? (v : Value) : Run (Option Floating) := do
  match v.whole? with
  | none => return v.number?
  | some n =>
    let x := Floating.ofQuotient .double (n < 0) n.natAbs 1
    if !x.isFinite then raise "OverflowError" "int too large to convert to float"
    return some x

/-- The result of an operator on two values. -/
def Operator.on (op : Operator) (a b : Value) : Run Value := do
  match a, b with
  | .bool x, .bool y =>
    match op with
    | .and => return .bool (x && y)
    | .or => return .bool (x || y)
    | .xor => return .bool (x != y)
    | op => op.onWhole x.toInt y.toInt
  | a, b =>
    match a.whole?, b.whole? with
    | some m, some n => op.onWhole m n
    | _, _ =>
      match ← fraction? a, ← fraction? b with
      | some x, some y =>
        match ← op.onFloat x y with
        | some v => return v
        | none => noResult op.sign a b
      | _, _ => op.onOthers a b

/-- The result of an operator that changes a value in its place. -/
def Operator.update (op : Operator) (a b : Value) : Run Value := do
  match op, a, ← objectOf? a with
  | .add, .object n, some (.list xs) =>
    setObject n (.list (xs ++ (← itemsOf b).toArray))
    return a
  | .or, .object n, some (.dict xs) =>
    setObject n (.dict (withEntries (← heap) xs (← StoreMethod.entriesOf b).toArray))
    return a
  | op, a, _ => op.on a b

def Sign.on (s : Sign) (v : Value) : Run Value := do
  match s, v with
  | .minus, .float x => return .float x.negate
  | .plus, .float x => return .float x
  | s, v =>
    match s, v.whole? with
    | .minus, some n => return .int (-n)
    | .plus, some n => return .int n
    | .invert, some n => return .int (-n - 1)
    | s, none =>
      let mark := match s with
        | .minus => "-"
        | .plus => "+"
        | .invert => "~"
      typeError ("bad operand type for unary " ++ mark ++ ": ") v ""

/-! ### Relations -/

/-- Is a value among those that another one holds? -/
def isWithin (a b : Value) : Run Bool := do
  let h ← heap
  match a, b with
  | .text s, .text t => return (TextMethod.find? s 0 t).isSome
  | .bytes s, .bytes t => return (TextMethod.find? s 0 t).isSome
  | a, .text _ => typeError "'in <string>' requires string as left operand, not " a ""
  | .int n, .range i j k => return Value.inRange i j k n
  | a, b =>
    match ← items? b with
    | some xs => return xs.any (Value.equal h a)
    | none => typeError "argument of type " b " is not iterable"

def isSame (a b : Value) : Bool :=
  match a, b with
  | .none, .none => true
  | .bool x, .bool y => x == y
  | .int m, .int n => m == n
  | .text s, .text t => s == t
  | .object m, .object n => m == n
  | .known s, .known t | .module s, .module t => s == t
  | _, _ => false

def Relation.sign : Relation → String
  | .less => "<"
  | .lessOrEqual => "<="
  | .greater => ">"
  | .greaterOrEqual => ">="
  | .equal => "=="
  | .unequal => "!="
  | .same => "is"
  | .other => "is not"
  | .within => "in"
  | .outside => "not in"

/-- Are two values in a relation? -/
def Relation.holds (r : Relation) (a b : Value) : Run Bool := do
  let h ← heap
  let subset (x y : Value) (strict : Bool) : Run Bool := do
    match ← objectOf? x, ← objectOf? y with
    | some (.set xs), some (.set ys) =>
      return (StoreMethod.common h false xs.toList ys.toList).isEmpty
        && (!strict || xs.size < ys.size)
    | _, _ =>
      raise "TypeError" ("'" ++ r.sign ++ "' not supported between instances of '" ++ a.kindName h
        ++ "' and '" ++ b.kindName h ++ "'")
  let ordered (ok : Ordering → Bool) (isLess strict : Bool) : Run Bool := do
    if let (some x, some y) := (a.number?, b.number?) then
      return (Floating.order? x y).any ok
    match ← objectOf? a, ← objectOf? b with
    | some (.set _), some (.set _) => if isLess then subset a b strict else subset b a strict
    | _, _ =>
      match if Value.equal h a b && (Value.order? h a a).isSome then some .eq
        else Value.order? h a b with
      | some o => return ok o
      | none => subset (.int 0) (.int 0) strict
  match r with
  | .equal => return Value.equal h a b
  | .unequal => return !Value.equal h a b
  | .same => return isSame a b
  | .other => return !isSame a b
  | .within => isWithin a b
  | .outside => return !(← isWithin a b)
  | .less => ordered (· == .lt) true true
  | .lessOrEqual => ordered (· != .gt) true false
  | .greater => ordered (· == .gt) false true
  | .greaterOrEqual => ordered (· != .lt) false false

/-! ### Parts of values -/

/-- What kind of row a value is in messages. -/
def rowName (h : Heap) (v : Value) : String :=
  match v with
  | .text _ => "string"
  | .bytes _ => "index"
  | .range _ _ _ => "range object"
  | v => v.kindName h

/-- The item that an index means of a row of a length. -/
def itemAt (row : Value) (length : Nat) (k : Value) (item? : Nat → Option Value) : Run Value := do
  let h ← heap
  match k.whole? with
  | none =>
    match row with
    | .text _ => typeError "string indices must be integers, not " k ""
    | row =>
      raise "TypeError" (rowName h row ++ " indices must be integers or slices, not "
        ++ k.kindName h)
  | some i =>
    match (placeOf length i).bind item? with
    | some a => return a
    | none =>
      if 1 <<< 63 ≤ i.natAbs then
        raise "IndexError" "cannot fit 'int' into an index-sized integer"
      raise "IndexError" (rowName h row ++ " index out of range")

/-- The item of a row of values that an index means. -/
def itemIn {α : Type} (row : Value) (items : List α) (k : Value) (make : α → Value) : Run Value :=
  itemAt row items.length k fun i => items[i]?.map make

/-- The item of a value that an index means. -/
def itemOf (v k : Value) : Run Value := do
  match v with
  | .text s => itemIn v s k fun c => .text [c]
  | .bytes s => itemIn v s k fun c => .int c.toNat
  | .tuple xs => itemIn v xs k id
  | .range i j step =>
    itemAt v (Value.rangeSize i j step) k fun n => some (.int (Value.rangeItem i step n))
  | v =>
    match ← objectOf? v with
    | some (.list xs) => itemIn v xs.toList k id
    | some (.dict es) =>
      checkKey k
      match Value.find (Value.equal (← heap)) k es with
      | some i => return (es.getD i (.none, .none)).2
      | none => StoreMethod.noKey k
    | some (.found m _ p) => return StoreMethod.groupValue p (← StoreMethod.groupNumber m k)
    | some (.record _ parts) => itemIn v parts k (·.2)
    | _ => typeError "" v " object is not subscriptable"

/-- A part of a row. -/
structure Slice where
  first : Option Int
  last : Option Int
  step : Int

/-- The first place of a part of a row of a length, and the place in front of which it ends. -/
def Slice.bounds (s : Slice) (length : Nat) : Int × Int :=
  let n : Int := length
  let bound (i : Int) : Int := if i < 0 then i + n else i
  if 0 < s.step then
    (max 0 (min n ((s.first.map bound).getD 0)), max 0 (min n ((s.last.map bound).getD n)))
  else
    (max (-1) (min (n - 1) ((s.first.map bound).getD (n - 1))),
      max (-1) (min (n - 1) ((s.last.map bound).getD (-1))))

/-- The places of a part of a row. -/
def Slice.places (s : Slice) (length : Nat) : List Nat :=
  let (first, last) := s.bounds length
  (List.range (Value.rangeSize first last s.step)).map fun i =>
    (Value.rangeItem first s.step i).toNat

/-- The items of a row that a part has. -/
def Slice.of {α : Type} (s : Slice) (items : List α) : List α :=
  if s.step = 1 then
    let ps := s.places items.length
    (items.drop (ps.headD 0)).take ps.length
  else
    let row := items.toArray
    (s.places items.length).filterMap (row[·]?)

/-- The part that values write. -/
def sliceOf (first last step : Value) : Run Slice := do
  let bound (v : Value) : Run (Option Int) := do
    match v with
    | .none => return none
    | v => match v.whole? with
      | some n => return some n
      | none =>
        raise "TypeError" "slice indices must be integers or None or have an __index__ method"
  let n := (← bound step).getD 1
  if n = 0 then raise "ValueError" "slice step cannot be zero"
  return ⟨← bound first, ← bound last, n⟩

/-- A part of a value. -/
def partOfValue (v : Value) (s : Slice) : Run Value := do
  match v with
  | .text t => return .text (s.of t)
  | .bytes t => return .bytes (s.of t)
  | .tuple xs => return .tuple (s.of xs)
  | .range i j k =>
    let (first, last) := s.bounds (Value.rangeSize i j k)
    return .range (i + k * first) (i + k * last) (k * s.step)
  | v =>
    match ← objectOf? v with
    | some (.list xs) => newList (s.of xs.toList)
    | some (.dict _) => raise "TypeError" "unhashable type: 'slice'"
    | _ => typeError "" v " object is not subscriptable"

/-- Give an item of a value another value. -/
def setItem (v k new : Value) : Run Unit := do
  match v, ← objectOf? v with
  | .object n, some (.list xs) =>
    match k.whole? with
    | none =>
      raise "TypeError" ("list indices must be integers or slices, not " ++ k.kindName (← heap))
    | some i =>
      match placeOf xs.size i with
      | some i => setObject n (.list (xs.setIfInBounds i new))
      | none => raise "IndexError" "list assignment index out of range"
  | .object n, some (.dict es) =>
    checkKey k
    setObject n (.dict (withEntry (← heap) es k new))
  | v, _ => typeError "" v " object does not support item assignment"

/-- Put other values in place of a part of a list. -/
def setPart (v : Value) (s : Slice) (new : Value) : Run Unit := do
  match v, ← objectOf? v with
  | .object n, some (.list xs) =>
    let items := (← itemsOf new).toArray
    let ps := s.places xs.size
    if s.step = 1 then
      let first := match ps with
        | p :: _ => p
        | [] => clamped xs.size (s.first.getD 0)
      setObject n (.list (xs.extract 0 first ++ items ++ xs.extract (first + ps.length) xs.size))
    else
      if items.size != ps.length then
        raise "ValueError" ("attempt to assign sequence of size " ++ toString items.size
          ++ " to extended slice of size " ++ toString ps.length)
      setObject n (.list ((ps.zip items.toList).foldl (fun xs (i, v) => xs.setIfInBounds i v) xs))
  | v, _ => typeError "" v " object does not support item assignment"

/-- Take an item out of a value. -/
def deleteItem (v k : Value) : Run Unit := do
  match v, ← objectOf? v with
  | .object n, some (.list xs) =>
    match placeOf xs.size (← wholeOf k) with
    | some i => setObject n (.list (xs.extract 0 i ++ xs.extract (i + 1) xs.size))
    | none => raise "IndexError" "list assignment index out of range"
  | .object n, some (.dict es) =>
    match Value.find (Value.equal (← heap)) k es with
    | some i => setObject n (.dict (StoreMethod.withoutEntry es i))
    | none => StoreMethod.noKey k
  | v, _ => typeError "" v " object doesn't support item deletion"

/-- Take a part out of a list. -/
def deletePart (v : Value) (s : Slice) : Run Unit := do
  match v, ← objectOf? v with
  | .object n, some (.list xs) =>
    let ps := s.places xs.size
    setObject n (.list ((xs.toList.zipIdx.filter fun (_, i) => !ps.contains i).map (·.1)).toArray)
  | v, _ => typeError "" v " object does not support item deletion"

/-- How many values a value holds. -/
def lengthOf (v : Value) : Run Nat := do
  match v with
  | .text s | .bytes s => return s.length
  | .tuple xs => return xs.length
  | .range i j k => return Value.rangeSize i j k
  | v =>
    match ← objectOf? v with
    | some (.list xs) | some (.set xs) => return xs.size
    | some (.dict es) => return es.size
    | some (.view _ m) => return (Value.entriesAt (← heap) m).size
    | _ => typeError "object of type " v " has no len()"

end SvgSkeleton.Shell.Interpreter
