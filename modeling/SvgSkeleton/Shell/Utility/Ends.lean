import SvgSkeleton.Shell.Whole
import SvgSkeleton.Shell.Utility.Options

/-!
`head` and `tail`: the beginning and the end of a text.
-/

namespace SvgSkeleton.Shell

namespace Ends

/-- How much of a text is kept. -/
structure Extent where
  /-- Are bytes counted, and not lines? -/
  bytes : Bool
  /-- The sign in front of the number. -/
  sign : Option Char
  size : Nat

/-- The pieces of a text that end in a character, with it. -/
def piecesWith (ending : Char) (s : Bytes) : List Bytes :=
  s.foldr (fun c ls =>
    if c = ending then [c] :: ls
    else
      match ls with
      | [] => [[c]]
      | l :: ls => (c :: l) :: ls) []

/-- The beginning of a text: some lines or bytes, or all but the last ones. -/
def first (ending : Char) (e : Extent) (s : Bytes) : Bytes :=
  if e.bytes then if e.sign = some '-' then s.take (s.length - e.size) else s.take e.size
  else
    let ls := piecesWith ending s
    (if e.sign = some '-' then ls.take (ls.length - e.size) else ls.take e.size).flatten

/-- The end of a text: some lines or bytes, or all from one on. -/
def last (ending : Char) (e : Extent) (s : Bytes) : Bytes :=
  if e.bytes then if e.sign = some '+' then s.drop (e.size - 1) else s.drop (s.length - e.size)
  else
    let ls := piecesWith ending s
    (if e.sign = some '+' then ls.drop (e.size - 1) else ls.drop (ls.length - e.size)).flatten

/-- Letters for options that have only long names. -/
def pidLetter : Char := Char.ofNat 256
def retryLetter : Char := Char.ofNat 257
def spanLetter : Char := Char.ofNat 258

def forms : List OptionForm :=
  [setting 'n' ["lines"], setting 'c' ["bytes"], flag 'q' ["quiet", "silent"],
   flag 'v' ["verbose"], flag 'z' ["zero-terminated"]]

def tailForms : List OptionForm :=
  forms ++ [variant 'f' ["follow"], flag 'F' [], setting 's' ["sleep-interval"],
    setting pidLetter ["pid"], flag retryLetter ["retry"]]

/-- The arguments with an old form of an extent, `-5c`, written as options. -/
def modernized (signs : Bytes) (args : List Bytes) : List Bytes :=
  match args with
  | (sign :: c :: r) :: rest =>
    let text := c :: r
    let digits := text.takeWhile Char.isDigit
    let letters := text.drop digits.length
    if !signs.contains sign || digits.isEmpty || !letters.all "bckmlqvzf".toList.contains then args
    else
      let size := if sign = '+' then '+' :: digits else digits
      let unit := letters.filter "bkm".toList.contains
      let option : Bytes := if letters.contains 'c' || !unit.isEmpty then ['-', 'c'] else ['-', 'n']
      let others := letters.filter "qvz".toList.contains
      (option :: (size ++ unit) :: others.map (['-', ·])) ++ rest
  | args => args

/-- How much is read at a time. -/
def blockSize : Nat := 8192

/-- What an operand holds from which only the beginning is needed. -/
def beginningOf (ending : Char) (e : Extent) (path : Bytes) : Shell (Except OsError Bytes) := do
  if e.sign = some '-' then readOperand path
  else if path = ['-'] then
    if let some e ← inputFault? then return .error e
    if e.bytes then return .ok (← readUpTo 0 e.size)
    return .ok (← takeUsed blockSize fun s =>
      let kept := first ending e s
      (kept, kept.length))
  else if e.bytes then
    match ← nodeAt? path with
    | .ok (.folder _) => return .error .isFolder
    | .error e => return .error e
    | .ok _ =>
      match ← openToRead path with
      | .error e => return .error e
      | .ok i =>
        let spare := 1000
        lead spare (some i)
        let s ← readUpTo spare e.size
        lead spare none
        return .ok s
  else readOperand path

/-- `head` and `tail`, which differ in the part that they keep. -/
def keeping (isHead : Bool) (name : Bytes) (a : Arguments) : Shell Nat := do
  let letter := (a.last? "nc").getD 'n'
  let text := (a.value? letter).getD ['1', '0']
  let bytes := letter == 'c'
  let sign := (text.head?).filter fun c => c == '-' || c == '+'
  let digits := if sign.isSome then text.drop 1 else text
  match Amount.upTo Amount.wordLimit digits with
  | .error fault =>
    let shown := if sign = some '-' then digits else text
    utilityError name ((if bytes then "invalid number of bytes: " else
      "invalid number of lines: ").toList ++ Quoting.plain shown ++ fault.note)
    return 1
  | .ok size =>
    let e : Extent := ⟨bytes, sign, size⟩
    let ending := if a.has 'z' then '\x00' else '\n'
    let headed := match a.last? "qv" with
      | some c => c == 'v'
      | none => a.operands.length > 1
    let operands := if a.operands.isEmpty then [['-']] else a.operands
    let (outcomes, _) ← operands.foldlM (fun (outcomes, begun) path => do
      let content ← if isHead then beginningOf ending e path else readOperand path
      let title : Shell Unit := do
        if headed then
          let shown := if path = ['-'] then "standard input".toList else path
          write 1 ((if begun then ['\n'] else []) ++ "==> ".toList ++ shown ++ " <==\n".toList)
      match content with
      | .error err =>
        if failsLate err then
          title
          let shown := if path = ['-'] then "standard input".toList else path
          let fails := if !isHead && err = .badChannel && (← streamOf? 0).isNone
            then "cannot fstat " else "error reading "
          utilityError name (fails.toList ++ Quoting.always shown ++ ": ".toList
            ++ reasonText err)
          return (false :: outcomes, true)
        utilityError name ("cannot open ".toList ++ Quoting.always path ++ " for reading: ".toList
          ++ reasonText err)
        return (false :: outcomes, begun)
      | .ok s =>
        title
        write 1 (if isHead then first ending e s else last ending e s)
        return (true :: outcomes, true)) (([] : List Bool), false)
    return if outcomes.all id then 0 else 1

end Ends

def head : Utility := fun name args =>
  withOptions Ends.forms (Ends.keeping true) name (Ends.modernized ['-'] args)

def tail : Utility := fun name args =>
  let isOld := (Ends.modernized ['-'] args) != args
  let several := args.length > 2 && isOld
  match args, several with
  | (_ :: text) :: _, true => do
    utilityError name ("option used in invalid context -- ".toList ++ text.takeWhile Char.isDigit)
    return 1
  | (sign :: text) :: _, _ => do
    let digits := text.takeWhile Char.isDigit
    if (Ends.modernized ['-', '+'] args) != args && Amount.wordLimit < Text.ofDigits 10 digits then
      utilityError name ("invalid number: ".toList ++ Quoting.plain (sign :: text)
        ++ Amount.Fault.outOfRange.note)
      return 1
    withOptions Ends.tailForms (Ends.keeping false) name (Ends.modernized ['-', '+'] args)
  | _, _ => withOptions Ends.tailForms (Ends.keeping false) name (Ends.modernized ['-', '+'] args)

end SvgSkeleton.Shell
