import SvgSkeleton.Shell.Floating
import SvgSkeleton.Shell.Utility.Awk.Syntax
import SvgSkeleton.Shell.Utility.Awk.Token

/-!
How a program is read from its tokens. Operators bind as their ranks say; two expressions that stand
side by side are joined. What a name is used as, a value or a table, is found out on the way.
-/

namespace SvgSkeleton.Shell.Awk

/-! ### The state of a reader -/

/-- A function that has been met. -/
structure Header where
  name : Bytes
  /-- Its body, once it has been read. -/
  body : Option Statement
  args : List Bytes
  kinds : Array Kind

/-- A name that is handed to a function: whose name it is, and where it goes. -/
structure Handing where
  /-- The function that hands it on; none if it is no function. -/
  caller : Option Nat
  given : Name
  callee : Nat
  position : Nat
  line : Nat

structure Progress where
  tokens : List Located
  names : Array Bytes
  kinds : Array Kind
  functions : Array Header
  /-- The function whose body is being read. -/
  current : Option Nat
  /-- Does `>` lead somewhere, instead of comparing? -/
  leads : Bool
  /-- How many parentheses are open. -/
  depth : Nat
  loops : Nat
  handings : List Handing
  /-- The functions that are called, with how many arguments and where, the latest first. -/
  calls : List (Nat × Nat × Nat)
  /-- What has been complained about, the latest first. -/
  complaints : List Bytes
  /-- How many braces are never closed. -/
  openBraces : Nat

/-- Reading may fail with a message. What has been read up to there is not lost. -/
abbrev Read := ExceptT Bytes (StateM Progress)

def misread {α : Type} (s : Bytes) : Read α := throw s

/-- The variables that are always there, in their order. -/
def knownNames : List String :=
  ["NF", "NR", "FNR", "FS", "OFS", "ORS", "RS", "FILENAME", "RSTART", "RLENGTH", "SUBSEP",
   "CONVFMT", "OFMT", "ARGC", "ARGV", "ENVIRON"]

def argvIndex : Nat := 14

def environIndex : Nat := 15

/-! ### Tokens -/

def here : Read Located := do
  match (← get).tokens with
  | t :: _ => return t
  | [] => return ⟨.finish, 0⟩

def lineText (line : Nat) : Bytes := "line ".toList ++ Bytes.ofNat line ++ ": ".toList

def complain {α : Type} (line : Nat) (s : Bytes) : Read α := misread (lineText line ++ s)

/-- How many complaints there may be before reading ends. -/
def complaintLimit : Nat := 5

/-- Complain of something, and read on. -/
def note (s : Bytes) : Read Unit := modify fun p =>
  if p.complaints.length < complaintLimit then { p with complaints := s :: p.complaints } else p

def noteAt (line : Nat) (s : Bytes) : Read Unit := note (lineText line ++ s)

/-- The sign of a brace that closes nothing. -/
def extraBrace : String := "extra '\x7d'"

/-- Complain of braces that close nothing, and pass over them and a semicolon behind them. -/
def passExtra : List Located → Read (List Located)
  | [] => return []
  | ⟨.symbol s, line⟩ :: rest => do
    if s = extraBrace then
      noteAt line s.toList
      match rest with
      | ⟨.symbol ";", _⟩ :: ⟨.newline, line⟩ :: rest | ⟨.newline, line⟩ :: rest =>
        return ⟨.symbol "end of line", line⟩ :: rest
      | ⟨.symbol ";", line⟩ :: ⟨.finish, last⟩ :: _ =>
        return [⟨.symbol "end of line", line⟩, ⟨.finish, last⟩]
      | ⟨.symbol ";", _⟩ :: rest => passExtra rest
      | rest => passExtra rest
    else return ⟨.symbol s, line⟩ :: rest
  | tokens => return tokens

def advance : Read Unit := do
  let tokens ← passExtra ((← get).tokens.drop 1)
  modify fun s => { s with tokens := tokens }

/-- Complain about the token at hand. -/
def unexpected {α : Type} : Read α := do
  let t ← here
  let near := " near ".toList ++ t.token.shown
  match t.token with
  | .fault s => misread s
  | .finish =>
    if 0 < (← get).openBraces then complain t.line ("missing \x7d".toList ++ near)
    else complain t.line ("syntax error at or".toList ++ near)
  | .newline | .symbol ";" | .symbol "\x7d" =>
    if 0 < (← get).depth then complain t.line ("missing )".toList ++ near)
    else complain t.line ("syntax error at or".toList ++ near)
  | .symbol ")" =>
    if (← get).depth = 0 then complain t.line "extra ')'".toList
    else complain t.line ("syntax error at or".toList ++ near)
  | _ => complain t.line ("syntax error at or".toList ++ near)

/-- Is the token at hand a symbol? -/
def isAt (s : String) : Read Bool := do
  match (← here).token with
  | .symbol t => return s == t
  | _ => return false

def isAtWord (s : String) : Read Bool := do
  match (← here).token with
  | .word t => return s == t
  | _ => return false

/-- Pass over a symbol if it is at hand. -/
def passed (s : String) : Read Bool := do
  if ← isAt s then
    advance
    return true
  return false

def expect (s : String) : Read Unit := do
  unless ← passed s do unexpected

def skipNewline : Read Unit := do
  if let .newline := (← here).token then advance

/-- Read something within parentheses, where `>` compares. -/
def enclosed {α : Type} (act : Read α) : Read α := do
  let s ← get
  set { s with leads := false, depth := s.depth + 1 }
  let result ← act
  modify fun t => { t with leads := s.leads, depth := s.depth }
  return result

/-! ### Names -/

/-- The variable that a name means. -/
def nameOf (s : Bytes) : Read Name := do
  let st ← get
  let own := st.current.bind fun f => (st.functions[f]?).bind fun h => h.args.idxOf? s
  match own with
  | some i => return .own i
  | none =>
    match st.names.idxOf? s with
    | some i => return .shared i
    | none =>
      set { st with names := st.names.push s, kinds := st.kinds.push .unknown }
      return .shared st.names.size

def kindOf (v : Name) : Read Kind := do
  let s ← get
  match v with
  | .shared i => return s.kinds.getD i .unknown
  | .own i =>
    return (s.current.bind fun f => (s.functions[f]?).bind fun h => h.kinds[i]?).getD .unknown

/-- Note what a name of a function is used as. -/
def Progress.setKind (s : Progress) (f : Option Nat) (v : Name) (k : Kind) : Progress :=
  match v, f with
  | .shared i, _ => { s with kinds := s.kinds.setIfInBounds i k }
  | .own i, some f => { s with functions := s.functions.modify f fun h =>
      { h with kinds := h.kinds.setIfInBounds i k } }
  | .own _, none => s

/-- Note what a name is used as, unless it has been used as something else. -/
def use (text : Bytes) (v : Name) (k : Kind) : Read Unit := do
  let old ← kindOf v
  if old = .unknown then modify fun s => s.setKind s.current v k
  else if old != k then
    let what := if old = .table then "array " else "variable "
    noteAt (← here).line ("illegal reference to ".toList ++ what.toList ++ text)

/-- The number of a function. -/
def functionOf (s : Bytes) : Read Nat := do
  let st ← get
  match st.functions.findIdx? (·.name == s) with
  | some i => return i
  | none =>
    set { st with functions := st.functions.push ⟨s, none, [], #[]⟩ }
    return st.functions.size

/-! ### Expressions -/

/-- Comparisons that are no other symbol. -/
def relation? (s : String) : Option Relation :=
  match s with
  | "<" => some .less
  | "<=" => some .lessOrEqual
  | "==" => some .equal
  | "!=" => some .unequal
  | ">" => some .greater
  | ">=" => some .greaterOrEqual
  | _ => none

def assignment? (s : String) : Option (Option Operator) :=
  match s with
  | "=" => some none
  | "+=" => some (some .add)
  | "-=" => some (some .sub)
  | "*=" => some (some .mul)
  | "/=" => some (some .div)
  | "%=" => some (some .mod)
  | "^=" => some (some .pow)
  | _ => none

/-- Can the token begin an expression that is joined to the one before it? -/
def begins (t : Token) : Bool :=
  match t with
  | .number _ _ | .text _ | .pattern _ | .name _ | .call _ | .builtin _ => true
  | .symbol s => ["$", "(", "!", "++", "--"].contains s
  | _ => false

/-- Can the token begin something that a value can be given to? -/
def beginsTarget (t : Token) : Bool :=
  match t with
  | .name _ | .symbol "$" | .symbol "(" => true
  | _ => false

/-- The function of a name, and the least and the greatest number of its arguments. -/
def builtinOf (s : String) : Function × Nat × Nat :=
  match s with
  | "length" => (.length, 0, 1)
  | "substr" => (.substr, 2, 3)
  | "index" => (.index, 2, 2)
  | "sprintf" => (.sprintf, 1, 255)
  | "sin" => (.sin, 1, 1)
  | "cos" => (.cos, 1, 1)
  | "atan2" => (.atan2, 2, 2)
  | "exp" => (.exp, 1, 1)
  | "log" => (.log, 1, 1)
  | "sqrt" => (.sqrt, 1, 1)
  | "int" => (.int, 1, 1)
  | "rand" => (.rand, 0, 0)
  | "srand" => (.srand, 0, 1)
  | "tolower" => (.tolower, 1, 1)
  | "toupper" => (.toupper, 1, 1)
  | "close" => (.close, 1, 1)
  | "system" => (.system, 1, 1)
  | "mktime" => (.mktime, 1, 1)
  | "strftime" => (.strftime, 0, 3)
  | "systime" => (.systime, 0, 0)
  | _ => (.fflush, 0, 1)

/-- Read an expression that is searched for. -/
def patternOf (line : Nat) (s : Bytes) : Read Expr := do
  match matcher? s with
  | .ok m => return .pattern m
  | .error f =>
    noteAt line ("regular expression compile failed (".toList ++ f.message.toList ++ ")\n".toList
      ++ s)
    return .number .zero

/-- An expression that is searched for: a text is one that is known at once. -/
def searchedFor (e : Expr) : Read Expr := do
  match e with
  | .text s | .group (.text s) => patternOf (← here).line s
  | e => return e

/-- A separator: texts of several characters are known at once. -/
def separating (e : Expr) : Read Expr := do
  match e with
  | .text s | .group (.text s) => if s.length ≤ 1 then return e else searchedFor e
  | e => return e

mutual

/-- Read an expression of at least a rank: a choice has the lowest one, then come alternatives,
conjunctions, memberships, matches and comparisons. -/
def expr (rank : Nat) : Nat → Read Expr
  | 0 => unexpected
  | fuel + 1 => do
    let a ← operand fuel
    exprOn rank fuel a
termination_by structural fuel => fuel

/-- Read on behind an expression. -/
def exprOn (rank : Nat) : Nat → Expr → Read Expr
  | 0, _ => unexpected
  | fuel + 1, a => do
    match (← here).token with
    | .symbol "?" =>
      if 1 < rank then return a
      advance
      let b ← expr 1 fuel
      expect ":"
      let c ← expr 1 fuel
      exprOn rank fuel (.choose a b c)
    | .symbol "||" =>
      if 2 < rank then return a
      advance
      let b ← expr 3 fuel
      exprOn rank fuel (.or a b)
    | .symbol "&&" =>
      if 3 < rank then return a
      advance
      let b ← expr 4 fuel
      exprOn rank fuel (.and a b)
    | .word "in" =>
      if 4 < rank then return a
      advance
      match (← here).token with
      | .name s =>
        advance
        let v ← nameOf s
        use s v .table
        exprOn rank fuel (.has v [a])
      | _ => unexpected
    | .symbol s =>
      if s = "~" || s = "!~" then
        if 5 < rank then return a
        advance
        let b ← expr 6 fuel
        exprOn rank fuel (.fits (s == "!~") a (← searchedFor b))
      else
        match relation? s with
        | none => return a
        | some r =>
          if 6 < rank || ((← get).leads && (s = ">" || s = ">=")) then return a
          advance
          let b ← expr 7 fuel
          exprOn rank fuel (.compare r a b)
    | _ => return a
termination_by structural fuel _ => fuel

/-- Read an assignment, or expressions that are joined. -/
def operand : Nat → Read Expr
  | 0 => unexpected
  | fuel + 1 => do
    let a ← sum fuel
    match (← here).token with
    | .symbol s =>
      match assignment? s, a.isTarget with
      | some op, true =>
        advance
        let b ← expr 1 fuel
        match op with
        | none => return .assign a b
        | some op => return .update op a b
      | _, _ => joined fuel a
    | _ => joined fuel a
termination_by structural fuel => fuel

/-- Join what follows. -/
def joined : Nat → Expr → Read Expr
  | 0, a => return a
  | fuel + 1, a => do
    if begins (← here).token then
      let b ← sum fuel
      joined fuel (.join a b)
    else return a
termination_by structural fuel _ => fuel

def sum : Nat → Read Expr
  | 0 => unexpected
  | fuel + 1 => do
    let a ← product fuel
    sumOn fuel a
termination_by structural fuel => fuel

def sumOn : Nat → Expr → Read Expr
  | 0, a => return a
  | fuel + 1, a => do
    match (← here).token with
    | .symbol "+" =>
      advance
      let b ← product fuel
      sumOn fuel (.apply .add a b)
    | .symbol "-" =>
      advance
      let b ← product fuel
      sumOn fuel (.apply .sub a b)
    | _ => return a
termination_by structural fuel _ => fuel

def product : Nat → Read Expr
  | 0 => unexpected
  | fuel + 1 => do
    let a ← signed fuel
    productOn fuel a
termination_by structural fuel => fuel

def productOn : Nat → Expr → Read Expr
  | 0, a => return a
  | fuel + 1, a => do
    match (← here).token with
    | .symbol "*" =>
      advance
      let b ← signed fuel
      productOn fuel (.apply .mul a b)
    | .symbol "/" =>
      advance
      let b ← signed fuel
      productOn fuel (.apply .div a b)
    | .symbol "%" =>
      advance
      let b ← signed fuel
      productOn fuel (.apply .mod a b)
    | _ => return a
termination_by structural fuel _ => fuel

/-- Read a sign and what it stands before. -/
def signed : Nat → Read Expr
  | 0 => unexpected
  | fuel + 1 => do
    match (← here).token with
    | .symbol "!" =>
      advance
      return .no (← signed fuel)
    | .symbol "-" =>
      advance
      return .minus (← signed fuel)
    | .symbol "+" =>
      advance
      return .plus (← signed fuel)
    | _ =>
      let a ← power fuel
      piped fuel a
termination_by structural fuel => fuel

/-- Read a line from a command. -/
def piped : Nat → Expr → Read Expr
  | 0, a => return a
  | fuel + 1, a => do
    match (← get).tokens with
    | ⟨.symbol "|", _⟩ :: ⟨.word "getline", _⟩ :: _ =>
      if (← get).leads then return a
      advance
      advance
      let target ← targetHere fuel
      piped fuel (.line .command (some a) target)
    | _ => return a
termination_by structural fuel _ => fuel

def power : Nat → Read Expr
  | 0 => unexpected
  | fuel + 1 => do
    let a ← stepped fuel
    if ← passed "^" then return .apply .pow a (← exponent fuel)
    else return a
termination_by structural fuel => fuel

/-- Read an exponent, which may have a sign. -/
def exponent : Nat → Read Expr
  | 0 => unexpected
  | fuel + 1 => do
    match (← here).token with
    | .symbol "!" =>
      advance
      return .no (← exponent fuel)
    | .symbol "-" =>
      advance
      return .minus (← exponent fuel)
    | .symbol "+" =>
      advance
      return .plus (← exponent fuel)
    | _ => power fuel
termination_by structural fuel => fuel

/-- Read an expression with a step behind it. -/
def stepped : Nat → Read Expr
  | 0 => unexpected
  | fuel + 1 => do
    let a ← primary fuel
    if a.isTarget then
      if ← passed "++" then return .step false true a
      else if ← passed "--" then return .step false false a
      else return a
    else return a
termination_by structural fuel => fuel

/-- Read something that a value can be given to, if there is. -/
def targetHere : Nat → Read (Option Expr)
  | 0 => return none
  | fuel + 1 => do
    match (← here).token with
    | .name _ | .symbol "$" => return some (← primary fuel)
    | _ => return none
termination_by structural fuel => fuel

/-- Read expressions between commas. -/
def list : Nat → Read (List Expr)
  | 0 => unexpected
  | fuel + 1 => do
    let a ← expr 1 fuel
    if ← passed "," then return a :: (← list fuel)
    else return [a]
termination_by structural fuel => fuel

/-- Read what is handed to a function, up to the parenthesis that closes it. -/
def handed (callee : Nat) : Nat → Nat → Read (List Expr)
  | 0, _ => unexpected
  | fuel + 1, position => do
    let tokens := (← get).tokens
    let a ← match tokens with
      | ⟨.name s, line⟩ :: ⟨.symbol t, _⟩ :: _ =>
        if t = "," || t = ")" then do
          advance
          let v ← nameOf s
          modify fun st => { st with
            handings := ⟨st.current, v, callee, position, line⟩ :: st.handings }
          pure (.name v)
        else expr 1 fuel
      | _ => expr 1 fuel
    if ← passed "," then return a :: (← handed callee fuel (position + 1))
    else return [a]
termination_by structural fuel _ => fuel

/-- Read an expression that no operator takes apart. -/
def primary : Nat → Read Expr
  | 0 => unexpected
  | fuel + 1 => do
    let t ← here
    match t.token with
    | .number x _ =>
      advance
      return .number x
    | .text s =>
      advance
      return .text s
    | .pattern s =>
      advance
      patternOf t.line s
    | .symbol "$" =>
      advance
      match (← here).token with
      | .symbol "++" =>
        advance
        return .field (.step true true (← primary fuel))
      | .symbol "--" =>
        advance
        return .field (.step true false (← primary fuel))
      | .symbol "-" =>
        advance
        return .field (.minus (← primary fuel))
      | .symbol "+" =>
        advance
        return .field (.plus (← primary fuel))
      | .symbol "!" =>
        advance
        return .field (.no (← primary fuel))
      | .name s =>
        if s = "NF".toList then return .field (← stepped fuel)
        else return .field (← primary fuel)
      | .number x s =>
        unless Floating.isWhole x do
          complain t.line ('$' :: s ++ " is invalid field index".toList)
        return .field (← primary fuel)
      | _ => return .field (← primary fuel)
    | .symbol "++" =>
      advance
      unless beginsTarget (← here).token do unexpected
      let a ← primary fuel
      if a.isTarget then return .step true true a else unexpected
    | .symbol "--" =>
      advance
      unless beginsTarget (← here).token do unexpected
      let a ← primary fuel
      if a.isTarget then return .step true false a else unexpected
    | .symbol "(" =>
      advance
      let items ← enclosed do
        let items ← list fuel
        expect ")"
        return items
      match items with
      | [a] => return .group a
      | items =>
        unless ← isAtWord "in" do unexpected
        advance
        match (← here).token with
        | .name s =>
          advance
          let v ← nameOf s
          use s v .table
          return .has v items
        | _ => unexpected
    | .name s =>
      advance
      let v ← nameOf s
      if ← passed "[" then
        use s v .table
        let depth := (← get).depth
        let keys ← enclosed do
          modify fun st => { st with depth := depth }
          let keys ← list fuel
          expect "]"
          return keys
        return .element v keys
      else
        use s v .scalar
        return .name v
    | .call s =>
      advance
      advance
      let f ← functionOf s
      let args ← enclosed do
        if ← passed ")" then return []
        let args ← handed f fuel 0
        expect ")"
        return args
      modify fun st => { st with calls := (f, args.length, t.line) :: st.calls }
      return .call f args
    | .word "getline" =>
      advance
      let target ← targetHere fuel
      if ← passed "<" then return .line .file (some (← power fuel)) target
      else return .line .main none target
    | .builtin s =>
      advance
      builtin fuel t.line s
    | _ => unexpected
termination_by structural fuel => fuel

/-- Read the arguments of a function that is there. -/
def builtin : Nat → Nat → String → Read Expr
  | 0, _, _ => unexpected
  | fuel + 1, line, s => do
    if s = "length" && !(← isAt "(") then return .builtin .length []
    expect "("
    enclosed do
      match s with
      | "split" =>
        let a ← expr 1 fuel
        expect ","
        match (← here).token with
        | .name t =>
          advance
          let v ← nameOf t
          use t v .table
          if ← passed "," then
            let sep ← separating (← expr 1 fuel)
            expect ")"
            return .builtin .split [a, .name v, sep]
          else
            expect ")"
            return .builtin .split [a, .name v]
        | _ => unexpected
      | "sub" | "gsub" =>
        let pattern ← searchedFor (← expr 1 fuel)
        expect ","
        let text ← expr 1 fuel
        if ← passed "," then
          let first ← here
          let target ← expr 1 fuel
          unless target.isTarget do
            complain first.line ("syntax error at or near ".toList ++ first.token.shown)
          expect ")"
          return .builtin (.substitute (s == "gsub")) [pattern, text, target]
        else
          expect ")"
          return .builtin (.substitute (s == "gsub")) [pattern, text]
      | "match" =>
        let text ← expr 1 fuel
        expect ","
        let pattern ← searchedFor (← expr 1 fuel)
        expect ")"
        return .builtin .find [text, pattern]
      | _ =>
        let (f, least, most) := builtinOf s
        let args ← if ← passed ")" then pure []
          else
            match s, (← get).tokens with
            | "length", ⟨.name t, _⟩ :: ⟨.symbol ")", _⟩ :: _ => do
              advance
              advance
              pure [.name (← nameOf t)]
            | "length", _ => do
              let arg ← expr 1 fuel
              expect ")"
              pure [arg]
            | _, _ => do
              let args ← list fuel
              expect ")"
              pure args
        if args.length < least || most < args.length then
          noteAt line ("wrong number of arguments in call to ".toList ++ s.toList)
        return .builtin f args
termination_by structural fuel _ _ => fuel

end

/-! ### Statements -/

/-- The end of a simple statement. A brace that closes a block may follow it at once. -/
def endStatement : Read Unit := do
  match (← here).token with
  | .symbol ";" | .newline =>
    advance
    skipNewline
  | .symbol "\x7d" => return ()
  | _ => unexpected

/-- Is the token at hand the end of a simple statement, or a sign that leads somewhere? -/
def endsArguments : Read Bool := do
  match (← here).token with
  | .symbol s => return [";", "\x7d", ">", ">>", "|"].contains s
  | .newline => return true
  | _ => return false

/-- Read what is printed: expressions, which may stand in parentheses. -/
def printed (fuel : Nat) : Read (List Expr) := do
  let s ← get
  set { s with leads := true }
  let args ← do
    if ← endsArguments then pure []
    else if ← isAt "(" then
      let attempt : Read (Option (List Expr)) := do
        advance
        let items ← enclosed do
          let items ← list fuel
          expect ")"
          return items
        if 1 < items.length && (← endsArguments) then return some items else return none
      let start ← get
      match ← attempt with
      | some items => pure items
      | none =>
        set start
        list fuel
    else list fuel
  modify fun t => { t with leads := false }
  return args

/-- Read where something is printed to. -/
def goal (fuel : Nat) : Read (Option (Way × Expr)) := do
  match (← here).token with
  | .symbol ">" =>
    advance
    return some (.anew, ← expr 1 fuel)
  | .symbol ">>" =>
    advance
    return some (.behind, ← expr 1 fuel)
  | .symbol "|" =>
    advance
    return some (.command, ← expr 1 fuel)
  | _ => return none

/-- Read something in the body of a loop. -/
def inLoop {α : Type} (act : Read α) : Read α := do
  modify fun s => { s with loops := s.loops + 1 }
  let result ← act
  modify fun s => { s with loops := s.loops - 1 }
  return result

/-- Read something within parentheses. -/
def parenthesized {α : Type} (act : Read α) : Read α := do
  expect "("
  enclosed do
    let result ← act
    expect ")"
    return result

/-- Read an expression unless a symbol is at hand. -/
def unless? (s : String) (fuel : Nat) : Read (Option Expr) := do
  if ← isAt s then return none else return some (← expr 1 fuel)

/-- Pass over tokens up to the end of a statement. -/
def skipToEnd : Nat → Read Unit
  | 0 => return ()
  | n + 1 => do
    match (← here).token with
    | .newline | .symbol ";" => advance
    | .symbol "\x7d" | .finish | .fault _ => return ()
    | _ =>
      advance
      skipToEnd n

/-- Read a statement. One that cannot be read is complained about, and nothing is made of it. -/
def mended (act : Read Statement) : Read Statement := do
  let start ← get
  tryCatch act fun message => do
    match (← here).token with
    | .fault _ | .finish => misread message
    | _ =>
      note message
      modify fun s => { s with leads := false, depth := 0, loops := start.loops }
      skipToEnd (← get).tokens.length
      skipNewline
      return .nothing

mutual

/-- Read a statement. -/
def statement : Nat → Read Statement
  | 0 => unexpected
  | fuel + 1 => mended do
    let t ← here
    match t.token with
    | .symbol "\x7b" =>
      advance
      skipNewline
      let body ← statements fuel
      expect "\x7d"
      skipNewline
      return .block body
    | .symbol ";" =>
      advance
      skipNewline
      return .nothing
    | .newline =>
      advance
      return .nothing
    | .word "if" =>
      advance
      let c ← parenthesized (expr 1 fuel)
      skipNewline
      let yes ← statement fuel
      if ← isAtWord "else" then
        advance
        skipNewline
        return .cond c yes (← statement fuel)
      else return .cond c yes .nothing
    | .word "while" =>
      advance
      let c ← parenthesized (expr 1 fuel)
      if ← passed ";" then
        skipNewline
        return .loop c .nothing
      skipNewline
      return .loop c (← inLoop (statement fuel))
    | .word "do" =>
      advance
      skipNewline
      let body ← inLoop (statement fuel)
      unless ← isAtWord "while" do unexpected
      advance
      let c ← parenthesized (expr 1 fuel)
      endStatement
      return .loopAfter body c
    | .word "for" =>
      advance
      forLoop fuel
    | .word "break" =>
      if (← get).loops = 0 then noteAt t.line "break statement outside of loop".toList
      advance
      endStatement
      return .leave
    | .word "continue" =>
      if (← get).loops = 0 then noteAt t.line "continue statement outside of loop".toList
      advance
      endStatement
      return .again
    | .word "next" =>
      if (← get).current.isSome then
        noteAt t.line "improper use of next".toList
      advance
      endStatement
      return .next
    | .word "nextfile" =>
      advance
      endStatement
      return .nextFile
    | .word "exit" =>
      advance
      let e ← ended fuel
      endStatement
      return .exit e
    | .word "return" =>
      if (← get).current.isNone then noteAt t.line "return outside function body".toList
      advance
      let e ← ended fuel
      endStatement
      return .answer e
    | .word "delete" =>
      advance
      match (← here).token with
      | .name s =>
        advance
        let v ← nameOf s
        use s v .table
        let keys ← if ← passed "[" then do
            let keys ← enclosed (list fuel)
            expect "]"
            pure (some keys)
          else pure none
        endStatement
        return .delete v keys
      | _ => unexpected
    | .word "print" =>
      advance
      let args ← printed fuel
      let goal ← goal fuel
      endStatement
      return .print args goal
    | .word "printf" =>
      advance
      let args ← printed fuel
      if args.isEmpty then noteAt t.line "no arguments in call to printf".toList
      let goal ← goal fuel
      endStatement
      return .printf args goal
    | _ =>
      let e ← expr 1 fuel
      endStatement
      return .expression e

/-- Read an expression if the statement does not end. -/
def ended : Nat → Read (Option Expr)
  | 0 => return none
  | fuel + 1 => do
    if ← endsArguments then return none else return some (← expr 1 fuel)

/-- Read a loop that counts, or one that goes through a table. -/
def forLoop : Nat → Read Statement
  | 0 => unexpected
  | fuel + 1 => do
    expect "("
    let tokens := (← get).tokens
    match tokens with
    | ⟨.name s, _⟩ :: ⟨.word "in", _⟩ :: ⟨.name t, _⟩ :: ⟨.symbol ")", _⟩ :: _ =>
      modify fun st => { st with tokens := st.tokens.drop 4 }
      let v ← nameOf s
      use s v .scalar
      let table ← nameOf t
      use t table .table
      skipNewline
      return .each v table (← inLoop (statement fuel))
    | _ =>
      let (start, c, step) ← enclosed do
        let start ← unless? ";" fuel
        expect ";"
        let c ← unless? ";" fuel
        expect ";"
        let step ← unless? ")" fuel
        expect ")"
        return (start, c, step)
      if ← passed ";" then
        skipNewline
        return .count start c step .nothing
      skipNewline
      return .count start c step (← inLoop (statement fuel))

/-- Read statements up to a brace that closes them. -/
def statements : Nat → Read (List Statement)
  | 0 => unexpected
  | fuel + 1 => do
    if ← isAt "\x7d" then return []
    let s ← statement fuel
    return s :: (← statements fuel)

end

/-! ### Programs -/

/-- The parts of a program so far, the latest first. -/
structure Parts where
  begins : List Statement
  rules : List Rule
  ends : List Statement

/-- Read a block in braces. -/
def blockHere (fuel : Nat) : Read Statement := do
  unless ← isAt "\x7b" do unexpected
  statement fuel

/-- Pass over a semicolon and a line feed. -/
def skipSemicolon : Read Unit := do
  let _ ← passed ";"
  skipNewline

/-- Read the names of arguments. -/
def arguments : Nat → List Bytes → Read (List Bytes)
  | 0, _ => unexpected
  | fuel + 1, taken => do
    match (← here).token with
    | .name s =>
      let line := (← here).line
      if taken.contains s then complain line (s ++ " is duplicated in argument list".toList)
      advance
      if ← passed "," then
        skipNewline
        arguments fuel (taken ++ [s])
      else return taken ++ [s]
    | _ => unexpected

/-- Read the definition of a function. -/
def definition (fuel : Nat) : Read Unit := do
  let t ← here
  match t.token with
  | .call s | .name s =>
    advance
    let f ← functionOf s
    if (((← get).functions[f]?).bind (·.body)).isSome then
      complain t.line ("redefinition of ".toList ++ s)
    let args ← parenthesized (do if ← isAt ")" then return [] else arguments fuel [])
    skipNewline
    modify fun st => { st with
      current := some f
      functions := st.functions.modify f fun h =>
        { h with args := args, kinds := (args.map fun _ => Kind.unknown).toArray } }
    let body ← blockHere fuel
    modify fun st => { st with
      current := none
      functions := st.functions.modify f fun h => { h with body := some body } }
    skipSemicolon
  | _ => unexpected

/-- Is there a statement in the program that goes on to the next line, where there is none? -/
def hasNext : Nat → Statement → Bool
  | 0, _ => false
  | fuel + 1, s =>
    match s with
    | .next | .nextFile => true
    | .block body => body.any (hasNext fuel)
    | .cond _ yes no => hasNext fuel yes || hasNext fuel no
    | .loop _ body | .loopAfter body _ | .count _ _ _ body | .each _ _ body => hasNext fuel body
    | _ => false

/-- Read the body of a rule for the beginning or the end. -/
def specialBlock (fuel : Nat) : Read Statement := do
  let line := (← here).line
  let body ← blockHere fuel
  if hasNext fuel body then noteAt line "improper use of next".toList
  skipSemicolon
  return body

/-- Pass over everything up to a block, or up to the end. -/
def skipToBlock : Nat → Read Unit
  | 0 => return ()
  | n + 1 => do
    match (← here).token with
    | .finish | .fault _ | .symbol "\x7b" => return ()
    | _ =>
      advance
      skipToBlock n

/-- Read a rule or a function. -/
def part (fuel : Nat) (p : Parts) : Read Parts := do
  match (← here).token with
  | .word "BEGIN" =>
    advance
    let body ← specialBlock fuel
    return { p with begins := body :: p.begins }
  | .word "END" =>
    advance
    let body ← specialBlock fuel
    return { p with ends := body :: p.ends }
  | .word "function" =>
    advance
    definition fuel
    return p
  | .symbol "\x7b" =>
    let body ← blockHere fuel
    skipSemicolon
    return { p with rules := ⟨.always, some body⟩ :: p.rules }
  | _ =>
    let first ← expr 1 fuel
    let pattern ← if ← passed "," then do
        skipNewline
        pure (.between first (← expr 1 fuel))
      else pure (.holds first)
    if ← isAt "\x7b" then
      let body ← blockHere fuel
      skipSemicolon
      return { p with rules := ⟨pattern, some body⟩ :: p.rules }
    else
      match (← here).token with
      | .newline | .symbol ";" =>
        advance
        skipNewline
        return { p with rules := ⟨pattern, none⟩ :: p.rules }
      | _ => unexpected

/-- Read rules and functions, one after the other. One that cannot be read is complained about. -/
def parts : Nat → Nat → Parts → Read Parts
  | 0, _, p => return p
  | n + 1, fuel, p => do
    if let .finish := (← here).token then return p
    let p ← tryCatch (part fuel p) fun message => do
      match (← here).token with
      | .fault _ | .finish => misread message
      | _ =>
        note message
        modify fun s => { s with leads := false, depth := 0, loops := 0, current := none }
        skipToBlock (← get).tokens.length
        return p
    parts n fuel p

/-- The tokens with those braces marked that close nothing. -/
def marked : Nat → List Located → List Located
  | _, [] => []
  | n, t :: rest =>
    match t.token, n with
    | .symbol "\x7b", n => t :: marked (n + 1) rest
    | .symbol "\x7d", 0 => { t with token := .symbol extraBrace } :: marked 0 rest
    | .symbol "\x7d", n + 1 => t :: marked n rest
    | _, n => t :: marked n rest

/-- How many braces are open at the end. -/
def openAtEnd (tokens : List Located) : Nat :=
  tokens.foldl (fun n t =>
    match t.token with
    | .symbol "\x7b" => n + 1
    | .symbol "\x7d" => n - 1
    | _ => n) 0

/-! ### What names are used as -/

/-- What a name that is handed on is used as. -/
def Progress.kindAt (s : Progress) (f : Option Nat) (v : Name) : Kind :=
  match v with
  | .shared i => s.kinds.getD i .unknown
  | .own i => (f.bind fun f => (s.functions[f]?).bind fun h => h.kinds[i]?).getD .unknown

/-- Let a name that is handed on and the argument that it becomes be of one kind. -/
def Progress.settle (s : Progress) (h : Handing) : Progress :=
  let there : Name := .own h.position
  match s.kindAt h.caller h.given, s.kindAt (some h.callee) there with
  | .unknown, .unknown => s
  | .unknown, k => s.setKind h.caller h.given k
  | k, .unknown => s.setKind (some h.callee) there k
  | _, _ => s

/-- Settle all names, again and again. -/
def Progress.settled : Nat → Progress → Progress
  | 0, s => s
  | n + 1, s => settled n (s.handings.foldl Progress.settle s)

/-- Is something handed to a function that it does not take? -/
def Progress.faults (s : Progress) : List Bytes :=
  s.handings.reverse.filterMap fun h =>
    let name := (s.functions[h.callee]?).elim [] (·.name)
    let kinds := (s.functions[h.callee]?).elim #[] (·.kinds)
    if h.position ≥ kinds.size then none
    else
      match s.kindAt h.caller h.given, s.kindAt (some h.callee) (.own h.position) with
      | .scalar, .table => some (lineText h.line ++ "type error in arg(".toList
          ++ Bytes.ofNat (h.position + 1) ++ ") in call to ".toList ++ name
          ++ " (actual local variable vs local array)".toList)
      | .table, .scalar => some (lineText h.line ++ "type error in arg(".toList
          ++ Bytes.ofNat (h.position + 1) ++ ") in call to ".toList ++ name
          ++ " (actual local array vs local variable)".toList)
      | _, _ => none

/-- Complaints about a program that has been read. -/
def Progress.faultsAt (s : Progress) (last : Nat) : List Bytes :=
  let missing := s.calls.filterMap fun (f, _) => (s.functions[f]?).bind fun h =>
    if h.body.isNone then
      some (lineText last ++ "function ".toList ++ h.name ++ " never defined".toList)
    else none
  let crowded := s.calls.reverse.filterMap fun (f, n, line) => (s.functions[f]?).bind fun h =>
    if h.kinds.size < n then
      some (lineText line ++ "too many arguments in call to ".toList ++ h.name)
    else none
  (if missing.isEmpty then crowded ++ s.faults else missing).take complaintLimit

/-- The program of a text, or what is wrong with it. -/
def program? (s : Bytes) : Except (List Bytes) Program :=
  let tokens := marked 0 (Token.ofText s)
  let last := (tokens.getLast?.map (·.line)).getD 1
  let known := (knownNames.map String.toList).toArray
  let kinds := (Array.replicate knownNames.length Kind.scalar).setIfInBounds argvIndex .table
    |>.setIfInBounds environIndex .table
  let start : Progress := ⟨tokens, known, kinds, #[], none, false, 0, 0, [], [], [],
    openAtEnd tokens⟩
  let fuel := 24 * tokens.length + 64
  let all : Read Parts := do
    let tokens ← passExtra tokens
    modify fun s => { s with tokens := tokens }
    parts (tokens.length + 1) fuel ⟨[], [], []⟩
  let (result, st) := all.run start
  match result with
  | .error message => .error ((message :: st.complaints).reverse.take complaintLimit)
  | .ok p =>
    let st := st.settled (st.handings.length + 1)
    match st.complaints.reverse, st.faultsAt last with
    | [], [] =>
      let functions := st.functions.map fun h => ⟨h.name, h.kinds, h.body.getD .nothing⟩
      .ok ⟨p.begins.reverse, p.rules.reverse, p.ends.reverse, functions, st.names, st.kinds⟩
    | [], faults => .error faults
    | complaints, _ => .error complaints

end SvgSkeleton.Shell.Awk
