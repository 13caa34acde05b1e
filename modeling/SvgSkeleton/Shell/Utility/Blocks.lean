import SvgSkeleton.Shell.Whole
import SvgSkeleton.Shell.Utility.Options

/-!
`dd`: blocks that are read, changed and written.
-/

namespace SvgSkeleton.Shell

namespace Blocks

/-- The names of operands. -/
def names : List String :=
  ["if", "of", "ibs", "obs", "bs", "cbs", "count", "skip", "seek", "iseek", "oseek", "iflag",
   "oflag", "conv", "status"]

/-- The changes that can be asked for. -/
def conversions : List String :=
  ["block", "unblock", "lcase", "ucase", "swab", "sync", "notrunc", "nocreat", "excl", "noerror",
   "fsync", "fdatasync", "sparse"]

/-- What is wrong with the operands. -/
inductive Fault where
  | unknown (arg : Bytes)
  | badNumber (s : Bytes) (why : Amount.Fault)
  | badConversion (s : Bytes)
  | badStatus (s : Bytes)
  | together (one other : String)

def Fault.message : Fault → Bytes
  | .unknown arg => "unrecognized operand ".toList ++ Quoting.plain arg
  | .badNumber s why => "invalid number: ".toList ++ Quoting.plain s ++ why.note
  | .badConversion s => "invalid conversion: ".toList ++ Quoting.plain s
  | .badStatus s => "invalid status level: ".toList ++ Quoting.plain s
  | .together one other => ("cannot combine " ++ one ++ " and " ++ other).toList

/-- Is help offered behind the message? -/
def Fault.offersHelp : Fault → Bool
  | .unknown _ | .badConversion _ | .badStatus _ => true
  | _ => false

/-- A product of amounts, such as `2x1k`. -/
def number? (s : Bytes) : Option Nat :=
  let factor (part : Bytes) : Option Nat :=
    if !part.head?.any Char.isDigit then none
    else
      match part.getLast? with
      | some 'c' => Bytes.toNat? part.dropLast
      | some 'w' => (Bytes.toNat? part.dropLast).map (2 * ·)
      | some 'B' => (Bytes.toNat? part.dropLast).or (Amount.nat? part)
      | _ => Amount.nat? part
  ((Bytes.splitAt 'x' s).mapM factor).map fun (ns : List Nat) => ns.foldl (· * ·) 1

/-- Check a number, which is at least one that is given and at most another one. -/
def checkNumber (low high : Nat) (s : Bytes) : Except Fault Unit :=
  match number? s with
  | none => .error (.badNumber s .malformed)
  | some n =>
    if n < low then .error (.badNumber s .malformed)
    else if high < n then .error (.badNumber s .tooLarge)
    else .ok ()

/-- What is copied, and how. -/
structure Job where
  values : List (Bytes × Bytes)
  conversions : List String
  inputFlags : List String

namespace Job

def value? (j : Job) (name : String) : Option Bytes := j.values.lookup name.toList

def number (j : Job) (name : String) (usual : Nat) : Nat :=
  ((j.value? name).bind number?).getD usual

def converts (j : Job) (name : String) : Bool := j.conversions.contains name

/-- How many bytes a number of blocks is; the number may be one of bytes. -/
def bytes (j : Job) (name flag : String) (block : Nat) : Option Nat :=
  (j.value? name).map fun s =>
    let n := (number? s).getD 0
    if j.inputFlags.contains flag || (s.getLast? = some 'B' && (Bytes.toNat? s.dropLast).isSome)
    then n else n * block

end Job

/-- The job that operands describe. -/
def jobOf (operands : List Bytes) : Except Fault Job := do
  let values ← operands.mapM fun arg => do
    let name := arg.takeWhile (· != '=')
    if !arg.contains '=' || !names.contains (String.ofList name) then throw (.unknown arg)
    let value := arg.drop (name.length + 1)
    match String.ofList name with
    | "ibs" | "obs" | "bs" | "cbs" =>
      checkNumber 1 (Amount.offsetLimit - 1) value
    | "count" | "skip" | "seek" | "iseek" | "oseek" =>
      checkNumber 0 Amount.offsetLimit value
    | "conv" =>
      if let some bad := (Bytes.splitAt ',' value).find? fun c =>
          !conversions.contains (String.ofList c) then throw (.badConversion bad)
    | "status" =>
      if !(["none", "noxfer", "progress"].contains (String.ofList value)) then
        throw (.badStatus value)
    | _ => pure ()
    return (name, value)
  let listOf (name : String) : List String :=
    (values.filter (·.1 == name.toList)).flatMap fun v =>
      (Bytes.splitAt ',' v.2).map String.ofList
  let job : Job := ⟨values.reverse, listOf "conv", listOf "iflag"⟩
  if job.converts "lcase" && job.converts "ucase" then throw (.together "lcase" "ucase")
  if job.converts "block" && job.converts "unblock" then throw (.together "block" "unblock")
  if job.converts "excl" && job.converts "nocreat" then throw (.together "excl" "nocreat")
  return job

/-- The text with each two bytes exchanged. -/
def swapped : Bytes → Bytes
  | a :: b :: r => b :: a :: swapped r
  | s => s

/-- The text in blocks of a size; the last may be shorter. -/
def blocks (size : Nat) : Nat → Bytes → List Bytes
  | 0, _ => []
  | fuel + 1, s => if s.isEmpty then [] else s.take size :: blocks size fuel (s.drop size)

/-- What the conversions make of a text. -/
def Job.convert (j : Job) (size : Nat) (s : Bytes) : Bytes :=
  let s := if j.converts "sync" then
      let filler := if j.converts "block" || j.converts "unblock" then ' ' else '\x00'
      s ++ List.replicate ((size - s.length % size) % size) filler
    else s
  let s := if j.converts "swab" then swapped s else s
  let s := if j.converts "lcase" then s.map Char.toLower
    else if j.converts "ucase" then s.map Char.toUpper else s
  let record := j.number "cbs" 0
  if record = 0 then s
  else if j.converts "block" then
    (piecesAt '\n' s).flatMap fun line =>
      (line ++ List.replicate (record - line.length) ' ').take record
  else if j.converts "unblock" then
    (blocks record (s.length + 1) s).flatMap fun r =>
      (r.reverse.dropWhile (· == ' ')).reverse ++ ['\n']
  else s

/-- How many blocks there are in so many bytes, the complete ones and the others. -/
def tally (size n : Nat) (what : String) : Bytes :=
  Bytes.ofNat (n / size) ++ '+' :: (if n % size = 0 then ['0'] else ['1'])
    ++ (" records " ++ what ++ "\n").toList

/-- Read what is to be copied: from a file, or from the input. -/
def Job.read (j : Job) (name : Bytes) (skipped : Nat) (wanted : Option Nat) :
    Shell (Option Bytes) := do
  let shown := (j.value? "if").getD "standard input".toList
  let cut (s : Bytes) : Bytes :=
    match wanted with
    | some n => (s.drop skipped).take n
    | none => s.drop skipped
  let late (n : Nat) : Shell Unit := do
    if skipped > n then
      utilityError name (Quoting.ifNeeded shown ++ ": cannot skip to specified offset".toList)
  match j.value? "if" with
  | none =>
    if let some e ← inputFault? then
      utilityError name ("error reading 'standard input': ".toList ++ reasonText e)
      return none
    let s ← match wanted with
      | some n => readUpTo 0 (skipped + n)
      | none => readAll 0
    late s.length
    return some (cut s)
  | some path =>
    match ← nodeAt? path with
    | .error e =>
      utilityError name ("failed to open ".toList ++ Quoting.always path ++ ": ".toList
        ++ reasonText e)
      return none
    | .ok (.folder _) =>
      utilityError name ("error reading ".toList ++ Quoting.always path ++ ": ".toList
        ++ reasonText .isFolder)
      return none
    | .ok node =>
      let s ← do
        match ← openToRead path, wanted with
        | .ok i, some n =>
          let spare := 1000
          lead spare (some i)
          let s ← readUpTo spare (skipped + n)
          lead spare none
          pure s
        | _, _ => pure ((← readFile path).toOption.getD [])
      if node.isFile then late s.length
      return some (cut s)

/-- Complain of a place in a file that is too far from its beginning. -/
def tooFar (name path : Bytes) (start : Nat) : Shell Bool := do
  let _ ← openToWrite path false true
  utilityError name ("failed to truncate to ".toList ++ Bytes.ofNat start
    ++ " bytes in output file ".toList ++ Quoting.always path ++ ": ".toList ++ reasonText .tooBig)
  return false

/-- Write what has been copied to a file. -/
def Job.writeTo (j : Job) (name path : Bytes) (start : Nat) (s : Bytes) : Shell Bool := do
  let refuse (e : OsError) : Shell Bool := do
    utilityError name ("failed to open ".toList ++ Quoting.always path ++ ": ".toList
      ++ reasonText e)
    return false
  match ← nodeAt? path with
  | .ok (.folder _) => refuse .isFolder
  | .ok (.file old) =>
    if j.converts "excl" then return ← refuse .present
    let kept := if j.converts "notrunc" then old else old.extract 0 start
    let new := if s.isEmpty && start ≤ kept.size then kept
      else overwrite kept start (Bytes.toByteArray s)
    match ← putFile path false (Bytes.ofByteArray new) with
    | .ok () => return true
    | .error e => refuse e
  | .error .noEntry =>
    if j.converts "nocreat" then return ← refuse .noEntry
    match ← putFile path false (Bytes.ofByteArray (Bytes.zeros start) ++ s) with
    | .ok () => return true
    | .error e => refuse e
  | .ok _ =>
    match ← putFile path false s with
    | .ok () => return true
    | .error e => refuse e
  | .error e => refuse e

/-- The greatest size of a block. -/
def memoryLimit : Nat := 1 <<< 35

/-- A size in the unit that keeps it short, rounded to the nearest number. -/
def roundedSize (n : Nat) : Bytes :=
  let power := n.log2 / 10
  let unit := Nat.pow 1024 power
  let tenths := (n * 20 / unit + 1) / 2
  let shown := if tenths < 100 then Bytes.ofNat (tenths / 10) ++ '.' :: Bytes.ofNat (tenths % 10)
    else Bytes.ofNat ((2 * n / unit + 1) / 2)
  shown ++ ' ' :: ("KMGTPE".toList.drop (power - 1)).take 1 ++ ['i', 'B']

/-- Copy. -/
def run (name : Bytes) (j : Job) : Shell Nat := do
  let both := (j.value? "bs").bind number?
  let inSize := both.getD (j.number "ibs" 512)
  let outSize := both.getD (j.number "obs" 512)
  let skipped := ((j.bytes "skip" "skip_bytes" inSize).or
    (j.bytes "iseek" "skip_bytes" inSize)).getD 0
  let start := ((j.bytes "seek" "seek_bytes" outSize).or
    (j.bytes "oseek" "seek_bytes" outSize)).getD 0
  let exhausted (kind : String) (size : Nat) : Shell Nat := do
    utilityError name (("memory exhausted by " ++ kind ++ " buffer of size ").toList
      ++ Bytes.ofNat size ++ " bytes (".toList ++ roundedSize size ++ [')'])
    return 1
  if memoryLimit < inSize then return ← exhausted "input" inSize
  if memoryLimit < outSize then return ← exhausted "output" outSize
  if let some path := j.value? "of" then
    if fileLimit < start then
      let _ ← tooFar name path start
      utilityError name (Quoting.ifNeeded path ++ ": cannot seek: Invalid argument".toList)
      write 2 (tally inSize 0 "in" ++ tally outSize 0 "out" ++ "0 bytes copied\n".toList)
      return 1
  let some s ← j.read name skipped (j.bytes "count" "count_bytes" inSize) | return 1
  let out := j.convert inSize s
  let done ← match j.value? "of" with
    | some path => j.writeTo name path start out
    | none => do
      write 1 out
      pure true
  if !done then return 1
  let status := (j.value? "status").map String.ofList
  if status != some "none" then
    write 2 (tally inSize s.length "in" ++ tally outSize out.length "out")
    if status != some "noxfer" then
      write 2 (Bytes.ofNat out.length ++ " bytes copied\n".toList)
  return 0

end Blocks

def dd : Utility := withOptions [] fun name a => do
  match Blocks.jobOf a.operands with
  | .error f =>
    if f.offersHelp then misused name f.message 1
    else
      utilityError name f.message
      return 1
  | .ok job => Blocks.run name job

end SvgSkeleton.Shell
