import SvgSkeleton.Shell.Utility.Interpreter.Token

/-!
How a script is read from its tokens: expressions by the rank of their operators, and statements in
blocks.
-/

namespace SvgSkeleton.Shell.Interpreter

/-- Why a script cannot be read, and where: the line, how much of the script is left there, and the
length of what is wrong. -/
structure Misread where
  line : Nat
  message : String
  left : Nat
  size : Nat

abbrev Read := StateT (List Word) (Except Misread)

namespace Read

def here : Read Word := do
  match ← get with
  | t :: _ => return t
  | [] => return ⟨.finish, 0, 0, 1⟩

def advance : Read Unit := modify (·.drop 1)

def fail {α : Type} (message : String) : Read α := do
  let w ← here
  throw ⟨w.line, message, w.left, w.size⟩

/-- Complain about the token at hand. -/
def unexpected {α : Type} : Read α := do
  match (← here).token with
  | .fault message => fail message
  | .indent => fail "unexpected indent"
  | _ => fail "invalid syntax"

def isAt (s : String) : Read Bool := do
  match (← here).token with
  | .symbol t => return s == t
  | _ => return false

def isAtWord (s : String) : Read Bool := do
  match (← here).token with
  | .word t => return s == t
  | _ => return false

/-- Pass over a symbol if it is at hand. -/
def passed (s : String) : Read Bool := do
  if ← isAt s then
    advance
    return true
  return false

def passedWord (s : String) : Read Bool := do
  if ← isAtWord s then
    advance
    return true
  return false

def expect (s : String) : Read Unit := do
  unless ← passed s do unexpected

def name : Read String := do
  match (← here).token with
  | .name s =>
    advance
    return s
  | _ => unexpected

end Read

open Read

/-! ### Operators -/

/-- The operators of a rank, lower ones first. -/
def operatorsOf (rank : Nat) : List (String × Operator) :=
  match rank with
  | 0 => [("|", .or)]
  | 1 => [("^", .xor)]
  | 2 => [("&", .and)]
  | 3 => [("<<", .shiftLeft), (">>", .shiftRight)]
  | 4 => [("+", .add), ("-", .sub)]
  | 5 => [("*", .mul), ("//", .floorDiv), ("/", .div), ("%", .mod)]
  | _ => []

/-- How many ranks there are. -/
def ranks : Nat := 6

def updates : List (String × Operator) :=
  [("+=", .add), ("-=", .sub), ("*=", .mul), ("/=", .div), ("//=", .floorDiv), ("%=", .mod),
   ("**=", .pow), ("<<=", .shiftLeft), (">>=", .shiftRight), ("&=", .and), ("|=", .or),
   ("^=", .xor)]

/-- The relation at hand, which is passed over. -/
def relation : Read (Option Relation) := do
  match ← get with
  | ⟨.symbol s, _, _, _⟩ :: _ =>
    let found : Option Relation := match s with
      | "==" => some .equal
      | "!=" => some .unequal
      | "<" => some .less
      | "<=" => some .lessOrEqual
      | ">" => some .greater
      | ">=" => some .greaterOrEqual
      | _ => none
    if found.isSome then advance
    return found
  | ⟨.word "in", _, _, _⟩ :: _ =>
    advance
    return some .within
  | ⟨.word "not", _, _, _⟩ :: ⟨.word "in", _, _, _⟩ :: _ =>
    advance
    advance
    return some .outside
  | ⟨.word "is", _, _, _⟩ :: ⟨.word "not", _, _, _⟩ :: _ =>
    advance
    advance
    return some .other
  | ⟨.word "is", _, _, _⟩ :: _ =>
    advance
    return some .same
  | _ => return none

/-! ### Texts with values in them -/

/-- The text of a value in braces, up to what ends it: a brace, a colon or a mark, outside of
brackets and texts. The flag says which mark a text is within. -/
def valueText : Nat → Option Char → Nat → List Char → List Char × List Char
  | 0, _, _, s => ([], s)
  | _ + 1, _, _, [] => ([], [])
  | fuel + 1, some q, depth, c :: r =>
    let (a, b) := valueText fuel (if c = q then none else some q) depth r
    (c :: a, b)
  | fuel + 1, none, depth, c :: r =>
    let isEnd := depth = 0 && (c = '}' || c = ':' || (c = '!' && r.head? != some '='))
    if isEnd then ([], c :: r)
    else
      let quote := if c = '"' || c = '\'' then some c else none
      let depth := if c = '(' || c = '[' || c = '\x7b' then depth + 1
        else if c = ')' || c = ']' || c = '\x7d' then depth - 1 else depth
      let (a, b) := valueText fuel quote depth r
      (c :: a, b)

/-- The plain text up to a brace. -/
def plainText : Nat → List Char → List Char × List Char
  | 0, s => ([], s)
  | _ + 1, [] => ([], [])
  | fuel + 1, '\x7b' :: '\x7b' :: r => let (a, b) := plainText fuel r; ('\x7b' :: a, b)
  | fuel + 1, '\x7d' :: '\x7d' :: r => let (a, b) := plainText fuel r; ('\x7d' :: a, b)
  | fuel + 1, c :: r =>
    if c = '\x7b' || c = '\x7d' then ([], c :: r)
    else let (a, b) := plainText fuel r; (c :: a, b)

/-! ### Expressions -/

/-- A value for a function that is called without a name. -/
def tupleOf (items : List Expr) (trailing : Bool) : Expr :=
  match items, trailing with
  | [e], false => e
  | items, _ => .tuple items

mutual

/-- Read expressions between commas; several of them, or one before a comma, are a tuple. -/
def exprs : Nat → Read Expr
  | 0 => unexpected
  | fuel + 1 => do
    let (items, trailing) ← exprItems fuel
    return tupleOf items trailing
termination_by structural fuel => fuel

/-- Read expressions between commas, and whether a comma stands behind them. -/
def exprItems : Nat → Read (List Expr × Bool)
  | 0 => unexpected
  | fuel + 1 => do
    let e ← starred fuel
    if ← passed "," then
      match (← here).token with
      | .symbol ")" | .symbol "]" | .symbol "\x7d" | .symbol "=" | .symbol ":" | .newline
      | .symbol ";" | .finish | .word "in" => return ([e], true)
      | _ =>
        let (rest, trailing) ← exprItems fuel
        return (e :: rest, trailing)
    else return ([e], false)
termination_by structural fuel => fuel

def starred : Nat → Read Expr
  | 0 => unexpected
  | fuel + 1 => do
    if ← passed "*" then return .spread (← ranked 0 fuel) else bound fuel
termination_by structural fuel => fuel

/-- Read an expression that may get a name. -/
def bound : Nat → Read Expr
  | 0 => unexpected
  | fuel + 1 => do
    match ← get with
    | ⟨.name s, _, _, _⟩ :: ⟨.symbol ":=", _, _, _⟩ :: _ =>
      advance
      advance
      return .bind s (← expr fuel)
    | _ => expr fuel
termination_by structural fuel => fuel

/-- Read an expression. -/
def expr : Nat → Read Expr
  | 0 => unexpected
  | fuel + 1 => do
    if ← passedWord "lambda" then
      let params ← if ← isAt ":" then pure [] else parameters ":" fuel
      expect ":"
      return .lambda params (← expr fuel)
    let e ← disjunction fuel
    if ← passedWord "if" then
      let c ← disjunction fuel
      unless ← passedWord "else" do fail "expected 'else' after 'if' expression"
      return .choose c e (← expr fuel)
    else return e
termination_by structural fuel => fuel

def disjunction : Nat → Read Expr
  | 0 => unexpected
  | fuel + 1 => do
    let a ← conjunction fuel
    if ← passedWord "or" then return .or a (← disjunction fuel) else return a
termination_by structural fuel => fuel

def conjunction : Nat → Read Expr
  | 0 => unexpected
  | fuel + 1 => do
    let a ← inversion fuel
    if ← passedWord "and" then return .and a (← conjunction fuel) else return a
termination_by structural fuel => fuel

def inversion : Nat → Read Expr
  | 0 => unexpected
  | fuel + 1 => do
    if ← passedWord "not" then return .no (← inversion fuel)
    let a ← ranked 0 fuel
    let rest ← comparisons fuel
    return if rest.isEmpty then a else .compare a rest
termination_by structural fuel => fuel

def comparisons : Nat → Read (List (Relation × Expr))
  | 0 => return []
  | fuel + 1 => do
    match ← relation with
    | none => return []
    | some r =>
      let e ← ranked 0 fuel
      return (r, e) :: (← comparisons fuel)
termination_by structural fuel => fuel

/-- Read an expression of operators of at least a rank. -/
def ranked (rank : Nat) : Nat → Read Expr
  | 0 => unexpected
  | fuel + 1 => do
    if rank < ranks then
      let a ← ranked (rank + 1) fuel
      rankedOn rank fuel a
    else signed fuel
termination_by structural fuel => fuel

def rankedOn (rank : Nat) : Nat → Expr → Read Expr
  | 0, a => return a
  | fuel + 1, a => do
    match (← here).token with
    | .symbol s =>
      match (operatorsOf rank).lookup s with
      | some op =>
        advance
        let b ← ranked (rank + 1) fuel
        rankedOn rank fuel (.apply op a b)
      | none => return a
    | _ => return a
termination_by structural fuel _ => fuel

def signed : Nat → Read Expr
  | 0 => unexpected
  | fuel + 1 => do
    if ← passed "-" then return .sign .minus (← signed fuel)
    else if ← passed "+" then return .sign .plus (← signed fuel)
    else if ← passed "~" then return .sign .invert (← signed fuel)
    else
      let a ← atom fuel
      let a ← trailers fuel a
      if ← passed "**" then return .apply .pow a (← signed fuel) else return a
termination_by structural fuel => fuel

/-- Read what stands behind an expression: attributes, items and calls. -/
def trailers : Nat → Expr → Read Expr
  | 0, a => return a
  | fuel + 1, a => do
    if ← passed "." then
      let s ← name
      trailers fuel (.attribute a s)
    else if ← passed "(" then
      let args ← arguments fuel
      expect ")"
      trailers fuel (.call a args)
    else if ← passed "[" then
      let i ← subscripts fuel
      expect "]"
      trailers fuel (.item a i)
    else return a
termination_by structural fuel _ => fuel

/-- Read an index, or several ones. -/
def subscripts : Nat → Read Expr
  | 0 => unexpected
  | fuel + 1 => do
    let a ← subscript fuel
    if ← passed "," then
      if ← isAt "]" then return .tuple [a]
      match ← subscripts fuel with
      | .tuple items => return .tuple (a :: items)
      | b => return .tuple [a, b]
    else return a
termination_by structural fuel => fuel

def subscript : Nat → Read Expr
  | 0 => unexpected
  | fuel + 1 => do
    let first ← if ← isAt ":" then pure none else do pure (some (← bound fuel))
    if ← passed ":" then
      let ends : Read Bool := do return (← isAt ":") || (← isAt "]") || (← isAt ",")
      let last ← if ← ends then pure none else do pure (some (← expr fuel))
      let step ← if ← passed ":" then
          if ← ends then pure none else do pure (some (← expr fuel))
        else pure none
      return .slice first last step
    else
      match first with
      | some e => return e
      | none => unexpected
termination_by structural fuel => fuel

/-- Read the arguments of a call, up to the parenthesis that closes it. -/
def arguments : Nat → Read (List Argument)
  | 0 => unexpected
  | fuel + 1 => do
    if ← isAt ")" then return []
    let a : Argument ← do
      if ← passed "**" then pure (.allNamed (← expr fuel))
      else if ← passed "*" then pure (.all (← expr fuel))
      else
        match ← get with
        | ⟨.name s, _, _, _⟩ :: ⟨.symbol "=", _, _, _⟩ :: _ => do
          advance
          advance
          pure (.named s (← expr fuel))
        | _ => do
          let e ← bound fuel
          if ← isAtWord "for" then pure (.plain (.gather .iterator none e (← clauses fuel)))
          else pure (.plain e)
    if ← passed "," then return a :: (← arguments fuel)
    else return [a]
termination_by structural fuel => fuel

/-- Read the parts of a comprehension. -/
def clauses : Nat → Read (List Clause)
  | 0 => return []
  | fuel + 1 => do
    if ← passedWord "for" then
      let target ← targets fuel
      unless ← passedWord "in" do unexpected
      let source ← disjunction fuel
      return .each target source :: (← clauses fuel)
    else if ← passedWord "if" then
      let c ← disjunction fuel
      return .where' c :: (← clauses fuel)
    else return []
termination_by structural fuel => fuel

/-- Read what values are given to in a loop. -/
def targets : Nat → Read Expr
  | 0 => unexpected
  | fuel + 1 => do
    let (items, trailing) ← targetItems fuel
    return tupleOf items trailing
termination_by structural fuel => fuel

def targetItems : Nat → Read (List Expr × Bool)
  | 0 => unexpected
  | fuel + 1 => do
    let e ← if ← passed "*" then do pure (Expr.spread (← ranked 0 fuel)) else ranked 0 fuel
    if ← passed "," then
      if ← isAtWord "in" then return ([e], true)
      let (rest, trailing) ← targetItems fuel
      return (e :: rest, trailing)
    else return ([e], false)
termination_by structural fuel => fuel

/-- Read parameters up to a symbol. -/
def parameters (close : String) : Nat → Read (List Parameter)
  | 0 => unexpected
  | fuel + 1 => do
    if ← isAt close then return []
    let p : Parameter ← do
      if ← passed "**" then pure (.restNamed (← name))
      else if ← passed "*" then
        if ← isAt "," then pure .onlyNamed else do pure (.rest (← name))
      else do
        let s ← name
        if close = ")" then
          if ← passed ":" then discard (expr fuel)
        if ← passed "=" then pure (.plain s (some (← expr fuel))) else pure (.plain s none)
    if ← passed "," then return p :: (← parameters close fuel)
    else return [p]
termination_by structural fuel => fuel

/-- Read texts that stand side by side as one. -/
def texts : Nat → List Part → Read Expr
  | 0, _ => unexpected
  | fuel + 1, before => do
    match (← here).token with
    | .text s =>
      advance
      texts fuel (before ++ [.text s])
    | .template s raw =>
      let line := (← here).line
      advance
      let ps ← parts raw line fuel s
      texts fuel (before ++ ps ++ [.value (.literal (.text "")) none []])
    | _ =>
      let plain := before.filterMap fun p => match p with
        | .text s => some s
        | .value _ _ _ => none
      if plain.length = before.length then return .literal (.text (String.join plain))
      else return .formatted before
termination_by structural fuel _ => fuel

/-- Read the parts of a text with values in it. -/
def parts (raw : Bool) (line : Nat) : Nat → List Char → Read (List Part)
  | 0, _ => return []
  | fuel + 1, s => do
    match s with
    | [] => return []
    | '\x7b' :: c :: r =>
      if c = '\x7b' then
        let (text, rest) := plainText (s.length + 1) s
        return .text (String.ofList (escapes text)) :: (← parts raw line fuel rest)
      let (inner, rest) := valueText (s.length + 1) none 0 (c :: r)
      -- a sign of equality at the end shows the text itself, too
      let shown := inner.reverse.dropWhile (· == ' ')
      let isShown := shown.head? = some '=' && !("=!<>".toList.contains (shown.getD 1 ' '))
      let source := if isShown then shown.tail.reverse else inner
      let outer ← get
      set ((Token.ofText ('(' :: source ++ [')'])).map fun w => { w with line := line })
      let e ← exprs fuel
      set outer
      let (conversion, rest) : Option Char × List Char := match rest with
        | '!' :: k :: r => (some k, r)
        | r => (none, r)
      let (format, rest) ← match rest with
        | ':' :: r => formatParts raw line fuel r
        | '}' :: r => pure ([], r)
        | _ => fail "f-string: expecting '\x7d'"
      let conversion :=
        if isShown && conversion.isNone && format.isEmpty then some 'r' else conversion
      let front : List Part := if isShown then [.text (String.ofList inner)] else []
      return front ++ .value e conversion format :: (← parts raw line fuel rest)
    | '\x7d' :: '\x7d' :: _ =>
      let (text, rest) := plainText (s.length + 1) s
      return .text (String.ofList (escapes text)) :: (← parts raw line fuel rest)
    | c :: _ =>
      if c = '\x7b' then fail "f-string: expecting '\x7d'"
      else if c = '\x7d' then fail "f-string: single '\x7d' is not allowed"
      else
        let (text, rest) := plainText (s.length + 1) s
        return .text (String.ofList (escapes text)) :: (← parts raw line fuel rest)
where
  escapes (s : List Char) : List Char := if raw then s else Token.unescaped true (s.length + 1) s

/-- Read a format up to the brace that ends it. -/
def formatParts (raw : Bool) (line : Nat) : Nat → List Char → Read (List Part × List Char)
  | 0, s => return ([], s)
  | fuel + 1, s => do
    match s with
    | [] => fail "f-string: expecting '\x7d'"
    | c :: r =>
      if c = '\x7d' then return ([], r)
      else if c = '\x7b' then
        let (inner, rest) := valueText (s.length + 1) none 0 r
        let outer ← get
        set ((Token.ofText ('(' :: inner ++ [')'])).map fun w => { w with line := line })
        let e ← exprs fuel
        set outer
        let (more, rest) ← formatParts raw line fuel (rest.drop 1)
        return (.value e none [] :: more, rest)
      else
        let text := s.takeWhile fun c => c != '\x7b' && c != '\x7d'
        let (more, rest) ← formatParts raw line fuel (s.drop text.length)
        return (.text (String.ofList text) :: more, rest)
termination_by structural fuel _ => fuel

/-- Read an expression that no operator takes apart. -/
def atom : Nat → Read Expr
  | 0 => unexpected
  | fuel + 1 => do
    let t ← here
    match t.token with
    | .int n =>
      advance
      return .literal (.int n)
    | .float x =>
      advance
      return .literal (.float x)
    | .text _ | .template _ _ => texts fuel []
    | .bytes s =>
      advance
      return .literal (.bytes s)
    | .name s =>
      advance
      return .name s
    | .word "None" =>
      advance
      return .literal .none
    | .word "True" =>
      advance
      return .literal (.bool true)
    | .word "False" =>
      advance
      return .literal (.bool false)
    | .symbol "..." =>
      advance
      return .name "Ellipsis"
    | .symbol "(" =>
      advance
      if ← passed ")" then return .tuple []
      let (items, trailing) ← exprItems fuel
      if ← isAtWord "for" then
        let cs ← clauses fuel
        expect ")"
        return .gather .iterator none (tupleOf items trailing) cs
      expect ")"
      return tupleOf items trailing
    | .symbol "[" =>
      advance
      if ← passed "]" then return .list []
      let (items, trailing) ← exprItems fuel
      if ← isAtWord "for" then
        let cs ← clauses fuel
        expect "]"
        return .gather .list none (tupleOf items trailing) cs
      expect "]"
      return .list items
    | .symbol "\x7b" =>
      advance
      if ← passed "\x7d" then return .dict []
      braced fuel
    | _ => unexpected

/-- Read a set or entries with keys in braces. -/
def braced : Nat → Read Expr
  | 0 => unexpected
  | fuel + 1 => do
    if ← isAt "**" then
      let entries ← entryList fuel
      expect "\x7d"
      return .dict entries
    let first ← starred fuel
    if ← passed ":" then
      let value ← expr fuel
      if ← isAtWord "for" then
        let cs ← clauses fuel
        expect "\x7d"
        return .gather .dict (some first) value cs
      let entries ← if ← passed "," then entryList fuel else pure []
      expect "\x7d"
      return .dict ((some first, value) :: entries)
    else if ← isAtWord "for" then
      let cs ← clauses fuel
      expect "\x7d"
      return .gather .set none first cs
    else
      let items ← if ← passed "," then
          if ← isAt "\x7d" then pure [] else do pure (← exprItems fuel).1
        else pure []
      expect "\x7d"
      return .set (first :: items)
termination_by structural fuel => fuel

/-- Read entries with keys. -/
def entryList : Nat → Read (List (Option Expr × Expr))
  | 0 => unexpected
  | fuel + 1 => do
    if ← isAt "\x7d" then return []
    let entry ← do
      if ← passed "**" then pure (none, ← ranked 0 fuel)
      else do
        let k ← expr fuel
        expect ":"
        pure (some k, ← expr fuel)
    if ← passed "," then return entry :: (← entryList fuel)
    else return [entry]
termination_by structural fuel => fuel

end

/-! ### Statements -/

/-- Can a value be given to the expression? -/
def isTarget : Expr → Bool
  | .name _ | .attribute _ _ | .item _ _ => true
  | .tuple _ | .list _ => true
  | .spread _ => true
  | _ => false

/-- The name of a module with points in it. -/
def moduleName : Nat → Read String
  | 0 => unexpected
  | fuel + 1 => do
    let s ← name
    if ← passed "." then return s ++ "." ++ (← moduleName fuel) else return s

/-- A name, and the one that it gets. -/
def renamed (s : String) : Read (Option String) := do
  let _ := s
  if ← passedWord "as" then return some (← name) else return none

def modules : Nat → Read (List (String × Option String))
  | 0 => unexpected
  | fuel + 1 => do
    let s ← moduleName fuel
    let alias' ← renamed s
    if ← passed "," then return (s, alias') :: (← modules fuel) else return [(s, alias')]

def importedNames : Nat → Read (List (String × String))
  | 0 => unexpected
  | fuel + 1 => do
    if ← passed "*" then return [("*", "*")]
    let s ← name
    let alias' ← renamed s
    if ← passed "," then
      if ← isAt ")" then return [(s, alias'.getD s)]
      return (s, alias'.getD s) :: (← importedNames fuel)
    else return [(s, alias'.getD s)]

def nameList : Nat → Read (List String)
  | 0 => unexpected
  | fuel + 1 => do
    let s ← name
    if ← passed "," then return s :: (← nameList fuel) else return [s]

/-- Does a simple statement end here? -/
def atEnd : Read Bool := do
  match (← here).token with
  | .newline | .finish | .symbol ";" => return true
  | _ => return false

/-- Read what values are assigned to, and the values. -/
def assigned (fuel : Nat) : Nat → Expr → Read Statement
  | 0, _ => unexpected
  | n + 1, first => do
    unless isTarget first do
      fail "cannot assign to expression here. Maybe you meant '==' instead of '='?"
    let second ← exprs fuel
    if ← passed "=" then
      match ← assigned fuel n second with
      | .assign targets value => return .assign (first :: targets) value
      | s => return s
    else return .assign [first] second

/-- Read a statement that holds no other ones. -/
def simple (fuel : Nat) : Read Statement := do
  match (← here).token with
  | .word "pass" =>
    advance
    return .pass
  | .word "break" =>
    advance
    return .leave
  | .word "continue" =>
    advance
    return .again
  | .word "return" =>
    advance
    if ← atEnd then return .answer none else return .answer (some (← exprs fuel))
  | .word "raise" =>
    advance
    if ← atEnd then return .raise none
    let e ← expr fuel
    if ← passedWord "from" then discard (expr fuel)
    return .raise (some e)
  | .word "import" =>
    advance
    return .bring (← modules fuel)
  | .word "from" =>
    advance
    let m ← moduleName fuel
    unless ← passedWord "import" do unexpected
    if ← passed "(" then
      let names ← importedNames fuel
      expect ")"
      return .bringFrom m names
    else return .bringFrom m (← importedNames fuel)
  | .word "global" | .word "nonlocal" =>
    advance
    return .shared (← nameList fuel)
  | .word "del" =>
    advance
    let (items, _) ← exprItems fuel
    return .delete items
  | .word "assert" =>
    advance
    let c ← expr fuel
    let message ← if ← passed "," then do pure (some (← expr fuel)) else pure none
    return .claim c message
  | _ =>
    let e ← exprs fuel
    match (← here).token with
    | .symbol "=" =>
      advance
      assigned fuel fuel e
    | .symbol ":" =>
      advance
      discard (expr fuel)
      if ← passed "=" then return .assign [e] (← exprs fuel) else return .pass
    | .symbol s =>
      match updates.lookup s with
      | some op =>
        advance
        return .update op e (← exprs fuel)
      | none => return .expression e
    | _ => return .expression e

/-- Complain of a statement that does not end where it should. What looks like one for writing is
told apart. -/
def unclear {α : Type} (start : Word) (s : Statement) : Read α := do
  match s with
  | .expression (.name f) =>
    if f = "print" || f = "exec" then
      let rest := (← get).takeWhile fun w => match w.token with
        | .newline | .finish | .symbol ";" => false
        | _ => true
      match rest.getLast?, rest.head?.map Word.token with
      | some w, some (.name _) | some w, some (.text _) | some w, some (.int _) =>
        throw ⟨start.line, "Missing parentheses in call to '" ++ f ++ "'. Did you mean " ++ f
          ++ "(...)?", start.left, start.left - (w.left - w.size)⟩
      | _, _ => unexpected
    else unexpected
  | _ => unexpected

mutual

/-- Read a statement, or several ones in a line. -/
def statement : Nat → Read (List Located)
  | 0 => unexpected
  | fuel + 1 => do
    let t ← here
    let located (s : Statement) : List Located := [.mk t.line s]
    match t.token with
    | .word "if" =>
      advance
      let c ← bound fuel
      let yes ← block "'if' statement" t.line fuel
      return located (.cond c yes (← otherwise fuel))
    | .word "while" =>
      advance
      let c ← bound fuel
      let body ← block "'while' statement" t.line fuel
      return located (.loop c body (← elseBlock fuel))
    | .word "for" =>
      advance
      let target ← targets fuel
      unless ← passedWord "in" do unexpected
      let source ← exprs fuel
      let body ← block "'for' statement" t.line fuel
      return located (.each target source body (← elseBlock fuel))
    | .word "def" =>
      advance
      let f ← name
      expect "("
      let params ← parameters ")" fuel
      expect ")"
      if ← passed "->" then discard (expr fuel)
      return located (.define f params (← block "function definition" t.line fuel))
    | .word "try" =>
      advance
      let body ← block "'try' statement" t.line fuel
      let hs ← handlers fuel
      let no ← elseBlock fuel
      let line := (← here).line
      let hasLast ← passedWord "finally"
      if hs.isEmpty && !hasLast then fail "expected 'except' or 'finally' block"
      let last ← if hasLast then block "'finally' statement" line fuel else pure []
      return located (.attempt body hs no last)
    | .word "with" =>
      advance
      let items ← withItems fuel
      return located (.with' items (← block "'with' statement" t.line fuel))
    | _ => simples fuel

/-- Read simple statements in a line. -/
def simples : Nat → Read (List Located)
  | 0 => unexpected
  | fuel + 1 => do
    let start ← here
    let line := start.line
    let s ← simple fuel
    if ← passed ";" then
      match (← here).token with
      | .newline =>
        advance
        return [.mk line s]
      | .finish => return [.mk line s]
      | _ => return .mk line s :: (← simples fuel)
    else
      match (← here).token with
      | .newline =>
        advance
        return [.mk line s]
      | .finish => return [.mk line s]
      | _ => unclear start s

/-- Read a block behind a colon: in the same line, or set in. The words say what it belongs to. -/
def block (what : String) (line : Nat) : Nat → Read (List Located)
  | 0 => unexpected
  | fuel + 1 => do
    unless ← passed ":" do
      let forced := ["'else' statement", "'try' statement", "'finally' statement",
        "function definition"].contains what
      match (← here).token, forced with
      | .newline, _ | _, true => fail "expected ':'"
      | _, _ => unexpected
    match (← here).token with
    | .newline =>
      advance
      match (← here).token with
      | .indent =>
        advance
        statements fuel
      | _ => fail ("expected an indented block after " ++ what ++ " on line " ++ toString line)
    | _ => simples fuel

/-- Read the statements of a block up to its end. -/
def statements : Nat → Read (List Located)
  | 0 => unexpected
  | fuel + 1 => do
    match (← here).token with
    | .dedent =>
      advance
      return []
    | .finish => return []
    | _ =>
      let s ← statement fuel
      return s ++ (← statements fuel)

/-- Read what is done if a condition does not hold. -/
def otherwise : Nat → Read (List Located)
  | 0 => unexpected
  | fuel + 1 => do
    let line := (← here).line
    if ← passedWord "elif" then
      let c ← bound fuel
      let yes ← block "'elif' statement" line fuel
      return [.mk line (.cond c yes (← otherwise fuel))]
    else elseBlock fuel

def elseBlock : Nat → Read (List Located)
  | 0 => unexpected
  | fuel + 1 => do
    let line := (← here).line
    if ← passedWord "else" then block "'else' statement" line fuel else return []

def handlers : Nat → Read (List Handler)
  | 0 => unexpected
  | fuel + 1 => do
    let line := (← here).line
    if ← passedWord "except" then
      let kinds ← if ← isAt ":" then pure none else do pure (some (← exprs fuel))
      let as' ← if ← passedWord "as" then do pure (some (← name)) else pure none
      let body ← block "'except' statement" line fuel
      return .mk kinds as' body :: (← handlers fuel)
    else return []

def withItems : Nat → Read (List (Expr × Option Expr))
  | 0 => unexpected
  | fuel + 1 => do
    let e ← expr fuel
    let target ← if ← passedWord "as" then do pure (some (← ranked 0 fuel)) else pure none
    if ← passed "," then return (e, target) :: (← withItems fuel) else return [(e, target)]

end

/-- The statements of a whole script. -/
def scriptFrom : Nat → Nat → Read (List Located)
  | 0, _ => return []
  | n + 1, fuel => do
    match (← here).token with
    | .finish => return []
    | .newline =>
      advance
      scriptFrom n fuel
    | _ =>
      let s ← statement fuel
      return s ++ (← scriptFrom n fuel)

/-- The statements that a text writes. -/
def script? (s : List Char) : Except Misread (List Located) :=
  let tokens := Token.ofText s
  let fuel := 30 * (tokens.length + s.length) + 100
  ((scriptFrom (tokens.length + 1) fuel).run tokens).map (·.1)

end SvgSkeleton.Shell.Interpreter
