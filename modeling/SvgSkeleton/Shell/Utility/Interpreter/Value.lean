import SvgSkeleton.Binary64
import SvgSkeleton.Shell.Floating
import SvgSkeleton.Shell.Regex
import SvgSkeleton.Shell.Utility.Interpreter.Syntax
import SvgSkeleton.Text.Unseen

/-!
The values of a script at work. What can change stands in a store, and values refer to it by a
number; two values that refer to one number see each other's changes.
-/

namespace SvgSkeleton.Shell.Interpreter

inductive Value where
  | none
  | bool (b : Bool)
  | int (n : Int)
  | float (x : Floating)
  | text (s : List Char)
  | bytes (s : Bytes)
  | tuple (items : List Value)
  | range (first last step : Int)
  /-- Something in the store. -/
  | object (n : Nat)
  /-- A function or a kind of values that is there from the start. -/
  | known (name : String)
  /-- What a value can do. -/
  | method (self : Value) (name : String)
  | module (name : String)

/-- The body of a function. -/
inductive Body where
  | expression (e : Expr)
  | block (body : List Located)

/-- Where a function is at work, and in which line. -/
structure Frame where
  file : String
  name : String
  line : Nat
  /-- The line as it is written, and what is underlined in it. -/
  source : List String

/-- Where the text of a file that is read comes from. -/
inductive Supply where
  | nothing
  | input
  | text (left : List Char)

/-- An open file. -/
structure Opened where
  path : List Char
  mode : List Char
  isText : Bool
  supply : Supply
  /-- The stream or the channel that is written to. -/
  stream : Option Nat
  channel : Option Nat
  /-- What has been written and not been handed on, the latest first. -/
  pending : List Bytes
  closed : Bool

/-- Something that can change. -/
inductive Object where
  | list (items : Array Value)
  | dict (entries : Array (Value × Value))
  | set (items : Array Value)
  /-- The keys, the values or both of what a number refers to. -/
  | view (kind : String) (n : Nat)
  | iterator (items : List Value)
  | function (name : String) (params : List Parameter) (usual : List (Option Value)) (body : Body)
    (scope : Nat)
  /-- Names with their values; some belong to scopes further out. -/
  | scope (names : List (String × Value)) (foreign : List String) (outer : Option Nat)
  | file (f : Opened)
  /-- An exception: where it was raised, and the one that was dealt with then. -/
  | fault (kind : String) (args : List Value) (trace : List Frame) (context : Option Nat)
  /-- A place where an expression has been found. -/
  | found (matcher : Matcher) (text : List Char) (place : Match)
  | pattern (matcher : Matcher) (text : List Char)
  /-- A value with named parts. -/
  | record (kind : String) (parts : List (String × Value))

/-- What values refer to. -/
abbrev Heap := Array Object

namespace Value

/-- The names of exceptions, each with the one that it is a kind of. -/
def faultKinds : List (String × String) :=
  [("BaseException", ""), ("Exception", "BaseException"), ("SystemExit", "BaseException"),
   ("KeyboardInterrupt", "BaseException"), ("ArithmeticError", "Exception"),
   ("ZeroDivisionError", "ArithmeticError"), ("OverflowError", "ArithmeticError"),
   ("AssertionError", "Exception"), ("AttributeError", "Exception"), ("EOFError", "Exception"),
   ("ImportError", "Exception"), ("ModuleNotFoundError", "ImportError"),
   ("LookupError", "Exception"), ("IndexError", "LookupError"), ("KeyError", "LookupError"),
   ("MemoryError", "Exception"), ("NameError", "Exception"), ("UnboundLocalError", "NameError"),
   ("OSError", "Exception"), ("FileExistsError", "OSError"), ("FileNotFoundError", "OSError"),
   ("IsADirectoryError", "OSError"), ("NotADirectoryError", "OSError"),
   ("PermissionError", "OSError"), ("BrokenPipeError", "OSError"),
   ("ProcessLookupError", "OSError"),
   ("io.UnsupportedOperation", "OSError"), ("RuntimeError", "Exception"),
   ("NotImplementedError", "RuntimeError"), ("RecursionError", "RuntimeError"),
   ("StopIteration", "Exception"), ("SyntaxError", "Exception"), ("TypeError", "Exception"),
   ("ValueError", "Exception"), ("UnicodeError", "ValueError"),
   ("UnicodeDecodeError", "UnicodeError"), ("UnicodeEncodeError", "UnicodeError"),
   ("json.decoder.JSONDecodeError", "ValueError"), ("re.error", "Exception"),
   ("subprocess.CalledProcessError", "Exception"), ("binascii.Error", "ValueError")]

/-- Is a kind of exceptions one of the other kind? -/
def isKind (other : String) : Nat → String → Bool
  | 0, _ => false
  | fuel + 1, kind =>
    kind = other || match faultKinds.lookup kind with
      | some "" | Option.none => false
      | some wider => isKind other fuel wider

def kindIs (kind other : String) : Bool := isKind other (faultKinds.length + 1) kind

/-- The kinds of values that have names. -/
def typeNames : List String :=
  ["bool", "int", "float", "str", "bytes", "tuple", "range", "list", "dict", "set", "type",
   "object", "frozenset", "NoneType"]

def isType (name : String) : Bool :=
  typeNames.contains name || (faultKinds.lookup name).isSome

/-- The last part of a name with points. -/
def shortName (name : String) : String := ((name.splitOn ".").getLast?).getD name

/-- The name of the kind of a value. -/
def kindName (h : Heap) : Value → String
  | .none => "NoneType"
  | .bool _ => "bool"
  | .int _ => "int"
  | .float _ => "float"
  | .text _ => "str"
  | .bytes _ => "bytes"
  | .tuple _ => "tuple"
  | .range _ _ _ => "range"
  | .known name => if isType name then "type" else "builtin_function_or_method"
  | .method _ _ => "builtin_function_or_method"
  | .module _ => "module"
  | .object n => match h[n]? with
    | some (.list _) => "list"
    | some (.dict _) => "dict"
    | some (.set _) => "set"
    | some (.view kind _) => kind
    | some (.iterator _) => "generator"
    | some (.function _ _ _ _ _) => "function"
    | some (.scope _ _ _) | Option.none => "object"
    | some (.file f) => if f.isText then "_io.TextIOWrapper"
      else if f.mode.contains 'r' then "_io.BufferedReader" else "_io.BufferedWriter"
    | some (.fault kind _ _ _) => shortName kind
    | some (.found _ _ _) => "re.Match"
    | some (.pattern _ _) => "re.Pattern"
    | some (.record kind _) => kind

/-- A value as a number, if it is one. -/
def number? : Value → Option Floating
  | .bool b => some (Floating.ofInt b.toInt)
  | .int n => some (Floating.ofInt n)
  | .float x => some x
  | _ => Option.none

/-- A value as a whole number, if it is one. -/
def whole? : Value → Option Int
  | .bool b => some b.toInt
  | .int n => some n
  | _ => Option.none

/-- How many numbers a range has. -/
def rangeSize (first last step : Int) : Nat :=
  if 0 < step then ((last - first + step - 1) / step).toNat
  else if step < 0 then ((first - last - step - 1) / (-step)).toNat
  else 0

/-- The number of a range in a place. -/
def rangeItem (first step : Int) (i : Nat) : Int := first + step * (i : Int)

/-- The numbers of a range. -/
def rangeItems (first last step : Int) : List Value :=
  (List.range (rangeSize first last step)).map fun i => .int (rangeItem first step i)

/-- A value holds no more values or characters than this. -/
def sizeLimit : Nat := 1 <<< 26

/-- Is a number in a range? -/
def inRange (first last step n : Int) : Bool :=
  let place := if step = 0 then 0 else (n - first) / step
  0 ≤ place && place < rangeSize first last step && first + step * place = n

/-- Do two ranges have the same numbers? -/
def sameRange (i j k i' j' k' : Int) : Bool :=
  let size := rangeSize i j k
  size == rangeSize i' j' k' && (size == 0 || (i == i' && (size == 1 || k == k')))

/-- How deep values may lie within each other to be compared or shown. -/
def depthLimit : Nat := 900

/-- Does an entry stand for the key? -/
def find (same : Value → Value → Bool) (k : Value) (entries : Array (Value × Value)) : Option Nat :=
  entries.findIdx? fun e => same e.1 k

/-- Are two values equal? -/
def equalTo (h : Heap) : Nat → Value → Value → Bool
  | 0, _, _ => false
  | fuel + 1, a, b =>
    let same := equalTo h fuel
    let all (xs ys : List Value) : Bool :=
      xs.length == ys.length && (xs.zip ys).all fun (x, y) => same x y
    match number? a, number? b with
    | some x, some y => Floating.order? x y == some .eq
    | _, _ =>
      match a, b with
      | .none, .none => true
      | .text s, .text t | .bytes s, .bytes t => s == t
      | .tuple xs, .tuple ys => all xs ys
      | .range i j k, .range i' j' k' => sameRange i j k i' j' k'
      | .known s, .known t | .module s, .module t => s == t
      | .method x s, .method y t => s == t && same x y
      | .object m, .object n => m == n || match h[m]?, h[n]? with
        | some (.list xs), some (.list ys) => all xs.toList ys.toList
        | some (.dict xs), some (.dict ys) => xs.size == ys.size && xs.all fun (k, v) =>
            ys.any fun (k', v') => same k k' && same v v'
        | some (.set xs), some (.set ys) => xs.size == ys.size && xs.all fun x => ys.any (same x)
        | _, _ => false
      | _, _ => false

def equal (h : Heap) (a b : Value) : Bool := equalTo h depthLimit a b

/-- The order of texts. -/
def textOrder : List Char → List Char → Ordering
  | [], [] => .eq
  | [], _ :: _ => .lt
  | _ :: _, [] => .gt
  | c :: s, d :: t => (compare c.toNat d.toNat).then (textOrder s t)

/-- The order of lists of values, the first difference deciding; the values must have an order. -/
def listOrder (order : Value → Value → Option Ordering) : List Value → List Value → Option Ordering
  | [], [] => some .eq
  | [], _ :: _ => some .lt
  | _ :: _, [] => some .gt
  | x :: xs, y :: ys => do
    match ← order x y with
    | .eq => listOrder order xs ys
    | o => return o

/-- Two values that are not equal, and have no order. -/
def orderTo? (h : Heap) : Nat → Value → Value → Option Ordering
  | 0, _, _ => Option.none
  | fuel + 1, a, b =>
    let order (x y : Value) : Option Ordering :=
      if equal h x y then some .eq else orderTo? h fuel x y
    match number? a, number? b with
    | some x, some y => Floating.order? x y
    | _, _ =>
      match a, b with
      | .text s, .text t | .bytes s, .bytes t => some (textOrder s t)
      | .tuple xs, .tuple ys => listOrder order xs ys
      | .object m, .object n => match h[m]?, h[n]? with
        | some (.list xs), some (.list ys) => listOrder order xs.toList ys.toList
        | _, _ => Option.none
      | _, _ => Option.none

/-- The order of two values, if they have one. -/
def order? (h : Heap) (a b : Value) : Option Ordering := orderTo? h depthLimit a b

/-- What is seen of entries in a view. -/
def viewItems (kind : String) (entries : Array (Value × Value)) : List Value :=
  entries.toList.map fun e =>
    if kind = "dict_keys" then e.1 else if kind = "dict_values" then e.2 else .tuple [e.1, e.2]

/-- The entries that a number refers to. -/
def entriesAt (h : Heap) (n : Nat) : Array (Value × Value) :=
  match h[n]? with
  | some (.dict es) => es
  | _ => #[]

/-- Does a value count as true? -/
def isTrue (h : Heap) : Value → Bool
  | .none => false
  | .bool b => b
  | .int n => n != 0
  | .float x => !x.isZero
  | .text s | .bytes s => !s.isEmpty
  | .tuple xs => !xs.isEmpty
  | .range i j k => 0 < rangeSize i j k
  | .object n => match h[n]? with
    | some (.list xs) | some (.set xs) => !xs.isEmpty
    | some (.dict xs) => !xs.isEmpty
    | some (.view _ m) => !(entriesAt h m).isEmpty
    | _ => true
  | _ => true

/-! ### Texts of values -/

/-- A number that is given back by what is written. -/
def showFloat : Floating → List Char
  | .undefined _ => "nan".toList
  | .infinite negative => if negative then "-inf".toList else "inf".toList
  | .finite negative num den =>
    let (ds, e) := ((Binary64.ofQuotient num den).getD Binary64.zero).shortest .even |>.trimmed
    let point : Int := ds.length + e
    let body :=
      if num = 0 then "0.0".toList
      else if 0 ≤ e && point ≤ 16 then ds ++ List.replicate e.toNat '0' ++ ['.', '0']
      else if 0 < point && point ≤ 16 then ds.take point.toNat ++ '.' :: ds.drop point.toNat
      else if -4 < point && point ≤ 0 then '0' :: '.' :: List.replicate (-point).toNat '0' ++ ds
      else
        let power := Nat.toDigits 10 (point - 1).natAbs
        (if ds.length = 1 then ds else ds.take 1 ++ '.' :: ds.drop 1)
          ++ 'e' :: (if point > 0 then '+' else '-')
            :: List.replicate (2 - power.length) '0' ++ power
    if negative then '-' :: body else body

/-- Digits that write a number in hexadecimal, at least some of them. -/
def hexDigits (least n : Nat) : List Char :=
  let ds := Nat.toDigits 16 n
  List.replicate (least - ds.length) '0' ++ ds

/-- Is a character a mark that sits on the one before it? -/
def isMark (c : Char) : Bool := 0x300 ≤ c.toNat && c.toNat ≤ 0x36f

/-- A character within quotes. -/
def quotedChar (isText : Bool) (quote c : Char) : List Char :=
  if c = quote || c = '\\' then ['\\', c]
  else if c = '\n' then ['\\', 'n']
  else if c = '\t' then ['\\', 't']
  else if c = '\x0d' then ['\\', 'r']
  else if c.toNat < 32 || c.toNat = 127 || (!isText && 127 < c.toNat) then
    '\\' :: 'x' :: hexDigits 2 c.toNat
  else if 127 < c.toNat && Text.isUnseen c && !isMark c then
    if c.toNat < 0x100 then '\\' :: 'x' :: hexDigits 2 c.toNat
    else if c.toNat < 0x10000 then '\\' :: 'u' :: hexDigits 4 c.toNat
    else '\\' :: 'U' :: hexDigits 8 c.toNat
  else [c]

/-- A text as a script could write it. -/
def quoted (isText : Bool) (s : List Char) : List Char :=
  let quote := if s.contains '\'' && !s.contains '"' then '"' else '\''
  quote :: s.flatMap (quotedChar isText quote) ++ [quote]

/-- Texts with commas between them. -/
def commaJoined (items : List (List Char)) : List Char := List.intercalate [',', ' '] items

/-- What an exception was given; the path that a system error is about is not part of it. -/
def faultArguments (kind : String) (args : List Value) : List Value :=
  if args.length = 3 && kindIs kind "OSError" then args.take 2 else args

/-- A value as a script could write it. Values that lie within themselves are left out. -/
def shownWithin (h : Heap) : Nat → List Nat → Value → List Char
  | 0, _, _ => "...".toList
  | fuel + 1, outer, v =>
    let show' := shownWithin h fuel
    match v with
    | .none => "None".toList
    | .bool b => if b then "True".toList else "False".toList
    | .int n => Bytes.ofInt n
    | .float x => showFloat x
    | .text s => quoted true s
    | .bytes s => 'b' :: quoted false s
    | .tuple xs => match xs with
      | [x] => '(' :: show' outer x ++ [',', ')']
      | xs => '(' :: commaJoined (xs.map (show' outer)) ++ [')']
    | .range i j k =>
      "range(".toList ++ Bytes.ofInt i ++ [',', ' '] ++ Bytes.ofInt j
        ++ (if k = 1 then [] else [',', ' '] ++ Bytes.ofInt k) ++ [')']
    | .known name =>
      if isType name then "<class '".toList ++ name.toList ++ "'>".toList
      else "<built-in function ".toList ++ (shortName name).toList ++ ">".toList
    | .method _ name => "<built-in method ".toList ++ name.toList ++ ">".toList
    | .module name => "<module '".toList ++ name.toList ++ "' (built-in)>".toList
    | .object n =>
      let inner := n :: outer
      let again := outer.contains n
      match h[n]? with
      | some (.list xs) =>
        if again then "[...]".toList
        else '[' :: commaJoined (xs.toList.map (show' inner)) ++ [']']
      | some (.dict es) =>
        if again then "\x7b...\x7d".toList
        else '\x7b' :: commaJoined (es.toList.map fun (k, v) =>
          show' inner k ++ [':', ' '] ++ show' inner v) ++ ['\x7d']
      | some (.set xs) =>
        if xs.isEmpty then "set()".toList
        else '\x7b' :: commaJoined (xs.toList.map (show' inner)) ++ ['\x7d']
      | some (.view kind m) =>
        kind.toList ++ "([".toList
          ++ commaJoined ((viewItems kind (entriesAt h m)).map (show' inner)) ++ [']', ')']
      | some (.fault kind args _ _) =>
        (shortName kind).toList ++ '(' :: commaJoined ((faultArguments kind args).map (show' inner))
          ++ [')']
      | some (.record kind parts) =>
        kind.toList ++ '(' :: commaJoined (parts.map fun (k, v) =>
          k.toList ++ '=' :: show' inner v) ++ [')']
      | some (.function name _ _ _ _) => "<function ".toList ++ name.toList ++ ">".toList
      | some (.found _ _ p) =>
        "<re.Match object; span=(".toList ++ Bytes.ofNat p.first.index ++ [',', ' ']
          ++ Bytes.ofNat p.last.index ++ "), match=".toList
          ++ quoted true p.text ++ ['>']
      | some (.pattern _ s) => "re.compile(".toList ++ quoted true s ++ [')']
      | some (.file f) =>
        "<_io.TextIOWrapper name=".toList ++ quoted true f.path ++ " mode=".toList
          ++ quoted true f.mode ++ " encoding='utf-8'>".toList
      | _ => "<object>".toList

/-- A value as a script could write it. -/
def shown (h : Heap) (v : Value) : List Char := shownWithin h depthLimit [] v

/-- What an exception says. -/
def faultText (h : Heap) (kind : String) (args : List Value) : List Char :=
  let plain (v : Value) : List Char := match v with
    | .text s => s
    | v => shown h v
  if kindIs kind "OSError" then
    match args with
    | [n, reason] => "[Errno ".toList ++ plain n ++ "] ".toList ++ plain reason
    | [n, reason, path] =>
      "[Errno ".toList ++ plain n ++ "] ".toList ++ plain reason ++ ": ".toList ++ shown h path
    | args => simple plain args
  else if kind = "KeyError" then
    match args with
    | [v] => shown h v
    | args => simple plain args
  else simple plain args
where
  simple (plain : Value → List Char) : List Value → List Char
    | [] => []
    | [v] => plain v
    | vs => shown h (.tuple vs)

/-- A value as a text. -/
def toText (h : Heap) : Value → List Char
  | .text s => s
  | .object n => match h[n]? with
    | some (.fault kind args _ _) => faultText h kind args
    | _ => shown h (.object n)
  | v => shown h v

end Value
end SvgSkeleton.Shell.Interpreter
