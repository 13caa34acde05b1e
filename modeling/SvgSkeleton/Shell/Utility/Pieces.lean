import SvgSkeleton.Shell.Calendar
import SvgSkeleton.Shell.Whole
import SvgSkeleton.Shell.Regex.Posix
import SvgSkeleton.Shell.Utility.Options
import SvgSkeleton.Shell.Utility.Path

/-!
`split` and `csplit`: a file in pieces that are files of their own, of equal size or from one line
that is looked for to the next.
-/

namespace SvgSkeleton.Shell.Pieces

/-! ### Names of pieces -/

/-- How pieces are named: the letters of the ending, how many of them there are, whether more are
used when these are used up, and where counting starts. -/
structure Naming where
  first : Bytes
  letters : Bytes
  length : Nat
  grows : Bool
  start : Nat
  last : Bytes

/-- The letters of a number, in so many places. -/
def lettersOf (letters : Bytes) : Nat → Nat → Bytes
  | 0, _ => []
  | places + 1, n =>
    lettersOf letters places (n / letters.length) ++ [letters.getD (n % letters.length) 'a']

/-- The ending of a piece; nothing if there are no more endings. An ending that grows begins with
the last letter, so that it comes behind those that are shorter. -/
def ending (letters : Bytes) (grows : Bool) : Nat → Nat → Nat → Bytes → Option Bytes
  | 0, _, _, _ => none
  | fuel + 1, length, n, before =>
    let count := Nat.pow letters.length length
    let usable := if grows then count / letters.length * (letters.length - 1) else count
    if n < usable then some (before ++ lettersOf letters length n)
    else if grows then
      ending letters grows fuel (length + 1) (n - usable) (before ++ [letters.getLast?.getD 'z'])
    else none

/-- The name of a piece. -/
def Naming.name? (s : Naming) (n : Nat) : Option Bytes :=
  (ending s.letters s.grows 64 s.length (n + s.start) []).map (s.first ++ · ++ s.last)

/-! ### Equal pieces -/

/-- How a text is taken apart. -/
inductive Way where
  | lines (n : Nat)
  | bytes (n : Nat)
  /-- Whole lines, together no more bytes than this. -/
  | lineBytes (n : Nat)
  /-- So many pieces; the one with a number alone is shown. -/
  | chunks (n : Nat) (only : Option Nat)
  | lineChunks (n : Nat) (only : Option Nat)
  | dealt (n : Nat) (only : Option Nat)

/-- Pieces of so many items. -/
def inGroups {α : Type} (n : Nat) : Nat → List α → List (List α)
  | 0, _ => []
  | fuel + 1, xs => if xs.isEmpty then [] else xs.take n :: inGroups n fuel (xs.drop n)

/-- Lines in pieces of no more bytes than a number. Lines that are longer are cut. The state is the
piece at hand, latest line first, and its length. -/
def filled (n : Nat) : Nat → List Bytes → Nat → List Bytes → List Bytes
  | 0, held, _, _ => [held.reverse.flatten]
  | _ + 1, held, _, [] => if held.isEmpty then [] else [held.reverse.flatten]
  | fuel + 1, held, size, line :: rest =>
    if size + line.length ≤ n then filled n fuel (line :: held) (size + line.length) rest
    else if !held.isEmpty then held.reverse.flatten :: filled n fuel [] 0 (line :: rest)
    else line.take n :: filled n fuel [] 0 (line.drop n :: rest)

/-- The sizes of so many chunks of a text; the first ones take what is left over. -/
def chunkSizes (size n : Nat) : List Nat :=
  (List.range n).map fun i => size / n + if i < size % n then 1 else 0

/-- A text in parts of some sizes. -/
def takeSizes : List Nat → Bytes → List Bytes
  | [], _ => []
  | n :: ns, s => s.take n :: takeSizes ns (s.drop n)

/-- Lines in chunks: each ends with the line that holds the last byte of its share, the ends of
which are given. -/
def takeEnds (sep : Char) : List Nat → Nat → Bytes → List Bytes
  | [], _, _ => []
  | goal :: goals, done, s =>
    if goal ≤ done then [] :: takeEnds sep goals done s
    else
      let n := goal - done - 1
      let tail := s.drop n
      let more := (tail.takeWhile (· != sep)).length + 1
      let part := s.take (n + more)
      part :: takeEnds sep goals (done + part.length) (s.drop part.length)

/-- The sums of the beginnings of a list. -/
def sums : Nat → List Nat → List Nat
  | _, [] => []
  | n, x :: xs => (n + x) :: sums (n + x) xs

/-- The pieces of a text. -/
def Way.pieces (way : Way) (sep : Char) (s : Bytes) : List Bytes :=
  let lines := (Bytes.splitAt sep s).map (· ++ [sep])
  let lines := match lines.reverse with
    | last :: before => if last = [sep] then before.reverse else (last.dropLast :: before).reverse
    | [] => []
  match way with
  | .lines n => (inGroups n (lines.length + 1) lines).map List.flatten
  | .bytes n => inGroups n (s.length + 1) s
  | .lineBytes n => filled n (2 * s.length + 2) [] 0 lines
  | .chunks n _ => takeSizes (chunkSizes s.length n) s
  | .lineChunks n _ => takeEnds sep (sums 0 (chunkSizes s.length n)) 0 s
  | .dealt n _ => (List.range n).map fun i =>
      ((lines.zipIdx.filter fun l => l.2 % n == i).map (·.1)).flatten

/-- The one piece that is shown. -/
def Way.only? : Way → Option Nat
  | .chunks _ k | .lineChunks _ k | .dealt _ k => k
  | _ => none

/-- How many pieces there are, if that is known before. -/
def Way.count? : Way → Option Nat
  | .chunks n _ | .lineChunks n _ | .dealt n _ => some n
  | _ => none

/-! ### The options of `split` -/

inductive Fault where
  | lines (text : Bytes)
  | bytes (text : Bytes)
  | chunks (text : Bytes)
  | chunk (text : Bytes)
  | severalWays
  | suffixLength (text : Bytes)
  | separator (text : Bytes)
  | emptySeparator
  | extraOperand (text : Bytes)
  | start (text : Bytes)
  | suffix (text : Bytes)

def Fault.message : Fault → Bytes
  | .lines text => "invalid number of lines: ".toList ++ Quoting.plain text
  | .bytes text => "invalid number of bytes: ".toList ++ Quoting.plain text
  | .chunks text => "invalid number of chunks: ".toList ++ Quoting.plain text
  | .chunk text => "invalid chunk number: ".toList ++ Quoting.plain text
  | .severalWays => "cannot split in more than one way".toList
  | .suffixLength text => "invalid suffix length: ".toList ++ Quoting.plain text
  | .separator text => "multi-character separator ".toList ++ Quoting.plain text
  | .emptySeparator => "empty record separator".toList
  | .extraOperand text => "extra operand ".toList ++ Quoting.plain text
  | .start text => Quoting.plain text ++ ": invalid start value for numerical suffix".toList
  | .suffix text => "invalid suffix ".toList ++ Quoting.plain text
    ++ ", contains directory separator".toList

def Fault.offersHelp : Fault → Bool
  | .severalWays | .extraOperand _ | .start _ | .suffix _ => true
  | _ => false

def filterLetter : Char := Char.ofNat 256
def verboseLetter : Char := Char.ofNat 257
def numericLetter : Char := Char.ofNat 258
def hexLetter : Char := Char.ofNat 259
def suffixLetter : Char := Char.ofNat 260

def splitForms : List OptionForm :=
  [setting 'a' ["suffix-length"], setting suffixLetter ["additional-suffix"],
   setting 'b' ["bytes"], setting 'C' ["line-bytes"], flag 'd' [],
   variant numericLetter ["numeric-suffixes"], flag 'x' [], variant hexLetter ["hex-suffixes"],
   flag 'e' ["elide-empty-files"], setting filterLetter ["filter"], setting 'l' ["lines"],
   setting 'n' ["number"], setting 't' ["separator"], flag 'u' ["unbuffered"],
   flag verboseLetter ["verbose"]]

/-- A number of one or more. -/
def positive (make : Bytes → Fault) (text : Bytes) : Except Fault Nat :=
  match Amount.nat? text with
  | some (n + 1) => .ok (n + 1)
  | _ => .error (make text)

/-- A way to take apart into a number of chunks. -/
def chunksOf (text : Bytes) : Except Fault Way := do
  let (make, rest) : (Nat → Option Nat → Way) × Bytes := match text with
    | 'l' :: '/' :: r => (.lineChunks, r)
    | 'r' :: '/' :: r => (.dealt, r)
    | r => (.chunks, r)
  let first := rest.takeWhile (· != '/')
  match rest.drop first.length with
  | [] => return make (← positive .chunks first) none
  | _ :: second =>
    let n ← positive .chunks second
    match Bytes.toNat? first with
    | some k => if k = 0 || n < k then throw (.chunk first) else return make n (some k)
    | none => throw (.chunk first)

/-- The way that options ask for. -/
def wayOf (a : Arguments) : Except Fault Way := do
  let ways := a.options.filter fun o => "bCln".toList.contains o.1
  match ways with
  | [] => return .lines 1000
  | [('b', text)] => return .bytes (← positive .bytes text)
  | [('C', text)] => return .lineBytes (← positive .bytes text)
  | [('l', text)] => return .lines (← positive .lines text)
  | [(_, text)] => chunksOf text
  | _ => throw .severalWays

/-- How pieces are named by options. -/
def namingOf (a : Arguments) (way : Way) (first : Bytes) : Except Fault Naming := do
  let numeric := a.last? (String.ofList ['d', numericLetter, 'x', hexLetter])
  let hex := numeric = some 'x' || numeric = some hexLetter
  let letters := match numeric with
    | none => "abcdefghijklmnopqrstuvwxyz".toList
    | some _ => if hex then "0123456789abcdef".toList else "0123456789".toList
  let given := (a.value? (if hex then hexLetter else numericLetter)).getD []
  let start ← if given.isEmpty then pure 0
    else if hex then
      match given.foldlM (fun n c => (Text.hexValue c).map (n * 16 + ·)) 0 with
      | some n => pure n
      | none => throw (.start given)
    else
      match Bytes.toNat? given with
      | some n => pure n
      | none => throw (.start given)
  let length ← match a.value? 'a' with
    | none => pure 0
    | some text =>
      match Bytes.toNat? text with
      | some n => pure n
      | none => throw (.suffixLength text)
  let needed (count : Nat) : Nat :=
    ((List.range 64).find? fun k => count ≤ Nat.pow letters.length k).getD 2
  let last := (a.value? suffixLetter).getD []
  if last.contains '/' then throw (.suffix last)
  let usual := match way.count? with
    | some n => max 2 (needed (n + start))
    | none => 2
  return ⟨first, letters, if length = 0 then usual else length,
    length = 0 && given.isEmpty && way.count?.isNone, start, last⟩

/-- The separator of lines that options ask for. -/
def separatorOf (a : Arguments) : Except Fault Char :=
  match a.value? 't' with
  | none => .ok '\n'
  | some [] => .error .emptySeparator
  | some ['\\', '0'] => .ok '\x00'
  | some [c] => .ok c
  | some text => .error (.separator text)

/-- The arguments with a number behind a dash as the number of lines. -/
def linesFirst (args : List Bytes) : List Bytes :=
  args.map fun a =>
    match a with
    | '-' :: c :: r => if c.isDigit && r.all Char.isDigit then '-' :: 'l' :: c :: r else a
    | _ => a

/-- Write the pieces from a number on. -/
def writePieces (call : Caller) (name : Bytes) (a : Arguments) (naming : Naming) :
    Nat → List Bytes → Shell Nat
  | _, [] => return 0
  | n, piece :: rest => do
    match naming.name? n with
    | none =>
      utilityError name "output file suffixes exhausted".toList
      return 1
    | some path =>
      let status ← match a.value? filterLetter with
        | some command => do
          if a.has verboseLetter then
            write 1 ("executing with FILE=".toList ++ Quoting.always path ++ ['\n'])
          let source ← newStream (.source piece)
          let (status, _) ← keepingChannels do
            lead 0 (some source)
            inProcess do
              setVariable "FILE".toList ⟨some path, true, false⟩
              call "sh".toList ["-c".toList, command]
          pure status
        | none => do
          if a.has verboseLetter then
            write 1 ("creating file ".toList ++ Quoting.always path ++ ['\n'])
          match ← putFile path false piece with
          | .ok () => pure 0
          | .error e =>
            fileError name path e
            pure 1
      if status != 0 && !a.has filterLetter then return 1
      writePieces call name a naming (n + 1) rest

def split (call : Caller) : Utility := fun name args =>
  withOptions splitForms (fun name a => do
    let plan : Except Fault (Way × Naming × Char) := do
      let way ← wayOf a
      let sep ← separatorOf a
      if let _ :: _ :: extra :: _ := a.operands then throw (.extraOperand extra)
      return (way, ← namingOf a way (a.operands.getD 1 ['x']), sep)
    match plan with
    | .error fault =>
      utilityError name fault.message
      if fault.offersHelp then tryHelp name
      return 1
    | .ok (way, naming, sep) =>
      let path := a.operands.headD ['-']
      match ← readOperand path with
      | .error e =>
        if failsLate e then fileError name path e
        else
          utilityError name ("cannot open ".toList ++ Quoting.always path
            ++ " for reading: ".toList ++ reasonText e)
        return 1
      | .ok content =>
        let pieces := way.pieces sep content
        match way.only? with
        | some k =>
          write 1 (pieces.getD (k - 1) [])
          return 0
        | none =>
          let pieces := if a.has 'e' || a.has filterLetter then pieces.filter (!·.isEmpty)
            else pieces
          writePieces call name a naming 0 pieces) name (linesFirst args)

/-! ### `csplit` -/

/-- Where a piece ends. -/
inductive Mark where
  | line (n : Nat)
  /-- The line that an expression matches, or one so far from it; the lines before it may be left
  out. -/
  | found (m : Matcher) (offset : Int) (skips : Bool)

/-- A mark as it is written, with how often it is used again; without a number that is as often as
it is found. -/
structure Step where
  text : Bytes
  mark : Mark
  again : Option Nat

inductive MarkFault where
  | invalid (text : Bytes)
  | unclosed (text : Bytes) (c : Char)
  | zero (text : Bytes)
  | smaller (text : Bytes) (n : Nat)
  | repeats (text : Bytes)
  | expression (text message : Bytes)
  | offset (text : Bytes)

def MarkFault.message : MarkFault → Bytes
  | .invalid text => Quoting.plain text ++ ": invalid pattern".toList
  | .unclosed text c => text ++ ": closing delimiter ".toList ++ Quoting.plain [c]
    ++ " missing".toList
  | .zero text => text ++ ": line number must be greater than zero".toList
  | .smaller text n => "line number ".toList ++ Quoting.plain text
    ++ " is smaller than preceding line number, ".toList ++ Bytes.ofNat n
  | .repeats text => text ++ ": integer required between ".toList ++ Quoting.plain ['\x7b']
    ++ " and ".toList ++ Quoting.plain ['\x7d']
  | .expression text message => text ++ ": invalid regular expression: ".toList ++ message
  | .offset text => text ++ ": integer expected after delimiter".toList

/-- Read a mark. The line of the one before is given. -/
def readMark (previous : Nat) (text : Bytes) : Except MarkFault Mark := do
  match text with
  | c :: r =>
    if c = '/' || c = '%' then
      let back := r.reverse.dropWhile (· != c)
      if back.isEmpty then throw (.unclosed text c)
      let expression := back.tail.reverse
      let after := r.drop (expression.length + 1)
      let offset ← match after with
        | [] => pure 0
        | s =>
          match Bytes.toInt? s with
          | some n => pure n
          | none => throw (.offset text)
      match Regex.Posix.matcher .basic false expression with
      | .ok m => return .found m offset (c == '%')
      | .error fault => throw (.expression text fault.message.toList)
    else
      match Bytes.toNat? text with
      | some 0 => throw (.zero text)
      | some n => if n < previous then throw (.smaller text previous) else return .line n
      | none => throw (.invalid text)
  | [] => throw (.invalid text)

/-- Read the marks of a call. -/
def readSteps (previous : Nat) : List Bytes → Except MarkFault (List Step)
  | [] => .ok []
  | text :: rest => do
    let mark ← readMark previous text
    let previous := match mark with
      | .line n => n
      | _ => previous
    match rest with
    | ('\x7b' :: r) :: rest =>
      match r.getLast?, r.dropLast with
      | some '\x7d', ['*'] => return ⟨text, mark, none⟩ :: (← readSteps previous rest)
      | some '\x7d', digits =>
        match Bytes.toNat? digits with
        | some n => return ⟨text, mark, some n⟩ :: (← readSteps previous rest)
        | none => throw (.repeats ('\x7b' :: r))
      | _, _ => throw (.repeats ('\x7b' :: r))
    | rest => return ⟨text, mark, some 0⟩ :: (← readSteps previous rest)

/-- What is known while marks are followed: the lines that are left, the number of the first of
them, and of the line at which the last expression was found; and the pieces, latest first. -/
structure Cut where
  left : List Bytes
  number : Nat
  found : Nat
  pieces : List Bytes

/-- What ends all: a complaint, or the end of the text. -/
inductive Halt where
  | fault (message : Bytes) (c : Cut)
  | done (c : Cut)

/-- The words for how often a mark was used before. -/
def onRepetition (n : Nat) : Bytes :=
  if n = 0 then [] else " on repetition ".toList ++ Bytes.ofNat n

/-- Follow a mark once. -/
def Cut.follow (c : Cut) (suppresses : Bool) (step : Step) (repetition : Nat) :
    Except Halt Cut :=
  match step.mark with
  | .line n =>
    let goal := n * (repetition + 1)
    let outOfRange (c : Cut) : Except Halt Cut :=
      .error (.fault (Quoting.plain (Bytes.ofNat n) ++ ": line number out of range".toList
        ++ onRepetition repetition) c)
    let count := goal - c.number
    let piece := (c.left.take count).flatten
    let rest := c.left.drop count
    let next : Cut := { c with left := rest, number := c.number + min count c.left.length,
                               pieces := piece :: c.pieces }
    if c.left.isEmpty && !suppresses then outOfRange { c with pieces := [] :: c.pieces }
    else if c.left.length < count then outOfRange next
    else
      let next := if suppresses then { next with left := rest.drop 1, number := next.number + 1 }
        else next
      if next.left.isEmpty && !suppresses then outOfRange next else .ok next
  | .found m offset skips =>
    let start := c.found + 1 - c.number
    let behind := c.left.drop start
    match behind.findIdx? fun line => m.isMatch (Bytes.chomp line) with
    | none =>
      let all : Cut := { c with left := [], pieces := if skips then c.pieces
        else c.left.flatten :: c.pieces }
      match step.again with
      | none => .error (.done all)
      | some _ =>
        .error (.fault (Quoting.plain step.text ++ ": match not found".toList
          ++ onRepetition repetition) all)
    | some i =>
      let line := c.number + start + i
      let goal : Int := line + offset
      let count := (goal - c.number).toNat
      let piece := (c.left.take count).flatten
      let next : Cut := ⟨c.left.drop count, c.number + min count c.left.length,
        if 0 < offset then goal.toNat else line, if skips then c.pieces else piece :: c.pieces⟩
      if goal < c.number || c.left.length < count then
        .error (.fault (Quoting.plain step.text ++ ": line number out of range".toList) next)
      else if suppresses then
        .ok { next with left := next.left.drop 1, number := next.number + 1 }
      else .ok next

/-- Follow a mark as often as it is to be used. -/
def Cut.repeated (suppresses : Bool) (step : Step) : Nat → Nat → Cut → Except Halt Cut
  | 0, _, c => .ok c
  | fuel + 1, n, c =>
    if step.again.any (· < n) then .ok c
    else do Cut.repeated suppresses step fuel (n + 1) (← c.follow suppresses step n)

/-- The pieces of a text, and a complaint that ends all. -/
def cutAt (suppresses : Bool) (lines : List Bytes) (steps : List Step) :
    List Bytes × Option Bytes :=
  let start : Cut := ⟨lines, 1, 0, []⟩
  match steps.foldlM (fun c step => c.repeated suppresses step (lines.length + 2 +
      step.again.getD 0) 0) start with
  | .ok c => ((c.left.flatten :: c.pieces).reverse, none)
  | .error (.done c) => (c.pieces.reverse, none)
  | .error (.fault message c) => (c.pieces.reverse, some message)

def suppressLetter : Char := Char.ofNat 256

def csplitForms : List OptionForm :=
  [setting 'b' ["suffix-format"], setting 'f' ["prefix"], flag 'k' ["keep-files"],
   setting 'n' ["digits"], flag 's' ["quiet", "silent"], flag 'q' [],
   flag 'z' ["elide-empty-files"], flag suppressLetter ["suppress-matched"]]

/-- The ending of a piece by a format with one directive. -/
def formatted (format : Bytes) (n : Nat) : Bytes :=
  let before := format.takeWhile (· != '%')
  let r := (format.drop before.length).drop 1
  let flags := r.takeWhile fun c => "-+ #0'".toList.contains c
  let r := r.drop flags.length
  let width := r.takeWhile Char.isDigit
  match r.drop width.length with
  | c :: after =>
    before ++ showInteger flags c (Text.ofDigits 10 width) none n ++ after
  | [] => before

/-- Write pieces from a number on, and tell of their sizes; the paths that have been written. -/
def writeAll (name : Bytes) (a : Arguments) (naming : Nat → Bytes) :
    Nat → List Bytes → Shell (List Bytes × Bool)
  | _, [] => return ([], true)
  | n, piece :: rest => do
    if piece.isEmpty && a.has 'z' then writeAll name a naming n rest
    else
      let path := naming n
      match ← putFile path false piece with
      | .error e =>
        fileError name path e
        return ([], false)
      | .ok () =>
        unless a.has 's' || a.has 'q' do write 1 (Bytes.ofNat piece.length ++ ['\n'])
        let (paths, good) ← writeAll name a naming (n + 1) rest
        return (path :: paths, good)

def csplit : Utility := withOptions csplitForms fun name a => do
  match a.operands with
  | [] => misused name "missing operand".toList 1
  | [path] => misused name ("missing operand after ".toList ++ Quoting.plain path) 1
  | path :: patterns =>
    let digits := ((a.value? 'n').bind Bytes.toNat?).getD 2
    let first := (a.value? 'f').getD ['x', 'x']
    let naming (n : Nat) : Bytes := first ++ match a.value? 'b' with
      | some format => formatted format n
      | none =>
        let ds := Bytes.ofNat n
        List.replicate (digits - ds.length) '0' ++ ds
    match ← readOperand path, readSteps 0 patterns with
    | _, .error fault =>
      utilityError name fault.message
      return 1
    | .error e, _ =>
      if failsLate e then
        utilityError name ("read error: ".toList ++ reasonText e)
        write 1 "0\n".toList
      else
        utilityError name ("cannot open ".toList ++ Quoting.always path
          ++ " for reading: ".toList ++ reasonText e)
      return 1
    | .ok content, .ok steps =>
      let (pieces, fault) := cutAt (a.has suppressLetter) (Bytes.lines content) steps
      match fault with
      | none =>
        let (_, good) ← writeAll name a naming 0 pieces
        return if good then 0 else 1
      | some message =>
        utilityError name message
        let (paths, _) ← writeAll name a naming 0 pieces
        unless a.has 'k' do
          paths.forM fun path => do
            if let .ok (place, _) ← entry? path then eraseNode place
        return 1

end SvgSkeleton.Shell.Pieces
