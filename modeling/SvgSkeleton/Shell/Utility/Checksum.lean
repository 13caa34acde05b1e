import SvgSkeleton.Shell.Digest
import SvgSkeleton.Shell.Utility.Encode

/-!
`md5sum`, `sha1sum` and those like them, `cksum` and `sum`: they show numbers that tell texts apart,
and check texts against such numbers.
-/

namespace SvgSkeleton.Shell.Checksum

/-! ### Digests -/

/-- A digest: its name, the name that `cksum` knows it by, how many hexadecimal digits it has, and
how it is computed. -/
structure Kind where
  name : String
  short : String
  digits : Nat
  digest : Bytes → Bytes

def kinds : List Kind :=
  [⟨"MD5", "md5", 32, Digest.md5⟩, ⟨"SHA1", "sha1", 40, Digest.sha1⟩,
   ⟨"SHA224", "sha224", 56, Digest.sha224⟩, ⟨"SHA256", "sha256", 64, Digest.sha256⟩,
   ⟨"SHA384", "sha384", 96, Digest.sha384⟩, ⟨"SHA512", "sha512", 128, Digest.sha512⟩,
   ⟨"BLAKE2b", "blake2b", 128, Digest.blake2b⟩]

def kindOf? (short : String) : Option Kind := kinds.find? (·.short == short)

/-! ### Lines with digests -/

/-- How digests are shown. -/
structure Style where
  tagged : Bool
  binary : Bool
  zero : Bool

/-- The name with escapes for what would break a line, if it holds any. -/
def escaped? (name : Bytes) : Option Bytes :=
  if name.any fun c => c == '\\' || c == '\n' || c == '\r' then
    some (name.flatMap fun c => match c with
      | '\\' => ['\\', '\\']
      | '\n' => ['\\', 'n']
      | '\r' => ['\\', 'r']
      | c => [c])
  else none

/-- The name without escapes. -/
def unescaped : Bytes → Bytes
  | '\\' :: 'n' :: r => '\n' :: unescaped r
  | '\\' :: 'r' :: r => '\r' :: unescaped r
  | '\\' :: '\\' :: r => '\\' :: unescaped r
  | c :: r => c :: unescaped r
  | [] => []

/-- The line for a file. -/
def Style.line (style : Style) (kind : Kind) (path digest : Bytes) : Bytes :=
  let shown := if style.zero then none else escaped? path
  let mark := if shown.isSome then ['\\'] else []
  let name := shown.getD path
  let body :=
    if style.tagged then kind.name.toList ++ " (".toList ++ name ++ ") = ".toList ++ digest
    else digest ++ [' ', if style.binary then '*' else ' '] ++ name
  mark ++ body ++ [if style.zero then '\x00' else '\n']

/-- What a line says: the digest by which a file is to be checked, and the file. -/
structure Entry where
  kind : Kind
  digest : Bytes
  path : Bytes

/-- Read a line with the name of the digest in it. -/
def taggedEntry? (allowed : List Kind) (line : Bytes) : Option Entry :=
  allowed.findSome? fun kind =>
    let name := kind.name.toList
    if !name.isPrefixOf line then none
    else
      let rest := line.drop name.length
      let rest := if rest.head? = some ' ' then rest.drop 1 else rest
      match rest with
      | '(' :: rest =>
        let digest := (rest.reverse.takeWhile (· != ' ')).reverse
        let before := rest.take (rest.length - digest.length)
        let marks := [") = ".toList, ")= ".toList]
        match marks.find? fun m => m.reverse.isPrefixOf before.reverse with
        | some m =>
          if digest.length = kind.digits && digest.all isHexadecimal then
            some ⟨kind, digest, before.take (before.length - m.length)⟩
          else none
        | none => none
      | _ => none
where
  isHexadecimal (c : Char) : Bool :=
    c.isDigit || ('a' ≤ c && c ≤ 'f') || ('A' ≤ c && c ≤ 'F')

/-- Read a line that begins with a digest. -/
def plainEntry? (kind : Kind) (line : Bytes) : Option Entry :=
  let digest := line.takeWhile taggedEntry?.isHexadecimal
  if digest.length != kind.digits then none
  else
    match line.drop kind.digits with
    | ' ' :: c :: x :: path =>
      some ⟨kind, digest, if c = ' ' || c = '*' then x :: path else c :: x :: path⟩
    | [' ', c] => some ⟨kind, digest, [c]⟩
    | _ => none

/-- Read a line. Where no digest is given, the line names its own. -/
def entry? (kind : Option Kind) (line : Bytes) : Option Entry :=
  let line := line.dropWhile fun c => c == ' ' || c == '\t'
  let (isEscaped, line) := match line with
    | '\\' :: r => (true, r)
    | r => (false, r)
  let tagged := taggedEntry? (match kind with
    | some k => [k]
    | none => kinds) line
  let found := tagged.or (kind.bind fun k => plainEntry? k line)
  found.map fun e => if isEscaped then { e with path := unescaped e.path } else e

/-! ### Checks -/

/-- What a check tells of. -/
structure Report where
  quiet : Bool
  silent : Bool
  warns : Bool
  strict : Bool
  ignoresMissing : Bool

/-- What a check has found: how many lines could be read, how many files have the digest that they
are to have, how many have another, how many could not be read, and how many lines mean nothing. -/
structure Findings where
  lines : Nat
  matching : Nat
  failing : Nat
  unreadable : Nat
  malformed : Nat

/-- Check the file of an entry. -/
def Entry.check (e : Entry) (name : Bytes) (report : Report) (f : Findings) :
    Shell Findings := do
  let f := { f with lines := f.lines + 1 }
  let shown := match escaped? e.path with
    | some s => '\\' :: s
    | none => e.path
  let tell (s : String) : Shell Unit :=
    if report.silent then return () else write 1 (shown ++ s.toList)
  match ← readOperand e.path with
  | .error reason =>
    if reason = .noEntry && report.ignoresMissing then return f
    fileError name e.path reason
    tell ": FAILED open or read\n"
    return { f with unreadable := f.unreadable + 1 }
  | .ok content =>
    if e.kind.digest content = e.digest.map Char.toLower then
      unless report.quiet do tell ": OK\n"
      return { f with matching := f.matching + 1 }
    tell ": FAILED\n"
    return { f with failing := f.failing + 1 }

/-- Check the files of all lines, from a line number on. -/
def checkLines (name path : Bytes) (kind : Option Kind) (report : Report) :
    Nat → List Bytes → Findings → Shell Findings
  | _, [], f => return f
  | n, line :: rest, f => do
    let line := Bytes.chomp line
    let line := if line.getLast? = some '\r' then line.dropLast else line
    if line.isEmpty || line.head? = some '#' then checkLines name path kind report (n + 1) rest f
    else
      match entry? kind line with
      | some e => checkLines name path kind report (n + 1) rest (← e.check name report f)
      | none =>
        if report.warns then
          utilityError name (path ++ ": ".toList ++ Bytes.ofNat n
            ++ ": improperly formatted ".toList ++ (match kind with
              | some k => k.name.toList ++ [' ']
              | none => []) ++ "checksum line".toList)
        checkLines name path kind report (n + 1) rest { f with malformed := f.malformed + 1 }

/-- Warn that something has been found, so many times. -/
def warn (name : Bytes) (n : Nat) (one many : String) : Shell Unit :=
  if n = 0 then return ()
  else utilityError name ("WARNING: ".toList ++ Bytes.ofNat n ++ ' ' ::
    (if n = 1 then one else many).toList)

/-- Check the files that a list of digests names. -/
def checkList (name path : Bytes) (kind : Option Kind) (report : Report) : Shell Bool := do
  match ← readOperand path with
  | .error .isFolder =>
    utilityError name (path ++ ": read error".toList)
    return false
  | .error e =>
    fileError name path e
    return false
  | .ok content =>
    let shown := if path = ['-'] then "'standard input'".toList else Quoting.ifNeeded path
    let f ← checkLines name shown kind report 1 (Bytes.lines content) ⟨0, 0, 0, 0, 0⟩
    if f.lines = 0 then
      utilityError name (shown ++ ": no properly formatted checksum lines found".toList)
      return false
    unless report.silent do
      warn name f.malformed "line is improperly formatted" "lines are improperly formatted"
      warn name f.unreadable "listed file could not be read" "listed files could not be read"
      warn name f.failing "computed checksum did NOT match" "computed checksums did NOT match"
      if report.ignoresMissing && f.matching = 0 then
        utilityError name (shown ++ ": no file was verified".toList)
    return f.matching != 0 && f.failing = 0 && f.unreadable = 0
      && !(report.strict && f.malformed != 0)

/-! ### Utilities -/

def tagLetter : Char := Char.ofNat 256
def quietLetter : Char := Char.ofNat 257
def statusLetter : Char := Char.ofNat 258
def strictLetter : Char := Char.ofNat 259
def missingLetter : Char := Char.ofNat 260
def untaggedLetter : Char := Char.ofNat 261
def rawLetter : Char := Char.ofNat 262
def codedLetter : Char := Char.ofNat 263

def forms : List OptionForm :=
  [flag 'c' ["check"], flag 'w' ["warn"], flag 'z' ["zero"], flag 'b' ["binary"],
   flag 't' ["text"], flag tagLetter ["tag"], flag quietLetter ["quiet"],
   flag statusLetter ["status"], flag strictLetter ["strict"],
   flag missingLetter ["ignore-missing"]]

/-- The report that options ask for. -/
def reportOf (a : Arguments) : Report :=
  ⟨a.last? (String.ofList [quietLetter, statusLetter, 'w']) = some quietLetter,
   a.last? (String.ofList [quietLetter, statusLetter, 'w']) = some statusLetter,
   a.last? (String.ofList [quietLetter, statusLetter, 'w']) = some 'w',
   a.has strictLetter, a.has missingLetter⟩

/-- What is wrong with a set of options. -/
def fault? (a : Arguments) (tagged : Bool) : Option String :=
  let checks := a.has 'c'
  if tagged && !checks && a.last? "bt" = some 't' then some "--tag does not support --text mode"
  else if a.has 'z' && checks then
    some "the --zero option is not supported when verifying checksums"
  else if a.has tagLetter && checks then
    some "the --tag option is meaningless when verifying checksums"
  else if a.has 'b' && checks || a.has 't' && checks then
    some "the --binary and --text options are meaningless when verifying checksums"
  else if a.has missingLetter && !checks then
    some "the --ignore-missing option is meaningful only when verifying checksums"
  else if a.has statusLetter && !checks then
    some "the --status option is meaningful only when verifying checksums"
  else if a.has 'w' && !checks then
    some "the --warn option is meaningful only when verifying checksums"
  else if a.has quietLetter && !checks then
    some "the --quiet option is meaningful only when verifying checksums"
  else if a.has strictLetter && !checks then
    some "the --strict option is meaningful only when verifying checksums"
  else none

/-- Do something with what each operand holds; with the input if there is none. -/
def overOperands (name : Bytes) (a : Arguments) (act : Bytes → Bytes → Shell Unit) :
    Shell Nat := forOperands name a.operands act

/-- Show digests or check them. -/
def run (kind : Kind) (style : Style) (checked : Option Kind) (name : Bytes) (a : Arguments) :
    Shell Nat := do
  match fault? a (a.has tagLetter) with
  | some fault => misused name fault.toList 1
  | none =>
    if a.has 'c' then
      let lists := if a.operands.isEmpty then [['-']] else a.operands
      let outcomes ← lists.mapM fun path => checkList name path checked (reportOf a)
      return if outcomes.all id then 0 else 1
    else overOperands name a fun path content =>
      write 1 (style.line kind path (kind.digest content))

def styleOf (a : Arguments) : Style :=
  ⟨a.has tagLetter, a.last? "bt" = some 'b', a.has 'z'⟩

/-- The utility that shows a digest. -/
def digestSum (kind : Kind) : Utility := withOptions forms fun name a =>
  run kind (styleOf a) (some kind) name a

/-- The digest BLAKE2b of another length. -/
def shortened (bits : Nat) : Kind :=
  ⟨if bits = 512 then "BLAKE2b" else "BLAKE2b-" ++ toString bits, "blake2b", bits / 4,
   Digest.blake2bOf (bits / 8)⟩

/-- The length of a digest that a text asks for. -/
def length? (name : Bytes) (a : Arguments) : Shell (Option Nat) := do
  match a.value? 'l' with
  | none => return some 512
  | some text =>
    match Bytes.toNat? text with
    | none =>
      utilityError name ("invalid length: ".toList ++ Quoting.plain text)
      return none
    | some n =>
      if n > 512 then
        utilityError name ("invalid length: ".toList ++ Quoting.plain text)
        utilityError name "maximum digest length for 'BLAKE2b' is 512 bits".toList
        return none
      else if n % 8 != 0 then
        utilityError name ("invalid length: ".toList ++ Quoting.plain text)
        utilityError name "length is not a multiple of 8".toList
        return none
      else return some (if n = 0 then 512 else n)

def b2sum : Utility := withOptions (setting 'l' ["length"] :: forms) fun name a => do
  match ← length? name a with
  | none => return 1
  | some bits => run (shortened bits) (styleOf a) (some (shortened bits)) name a

/-- The digests by their lengths in bits, as `shasum` is asked for them. -/
def shasum : Utility := withOptions (setting 'a' ["algorithm"] :: forms) fun name a => do
  let wanted := (a.value? 'a').getD ['1']
  match kindOf? ("sha" ++ String.ofList wanted) with
  | some kind => run kind (styleOf a) (some kind) name a
  | none => return 1

/-- The line for a sum of the bytes. -/
def sumLine (algorithm : String) (named : Bool) (path content : Bytes) : Bytes :=
  let size := content.length
  let after := if named then ' ' :: path else []
  let blocks (n : Nat) : Bytes := Bytes.ofNat ((size + n - 1) / n)
  match algorithm with
  | "bsd" =>
    let digits := Bytes.ofNat (Digest.bsd content)
    List.replicate (5 - digits.length) '0' ++ digits ++ ' ' :: Bytes.padLeft 5 (blocks 1024)
      ++ after
  | "sysv" => Bytes.ofNat (Digest.sysv content) ++ ' ' :: blocks 512 ++ after
  | _ => Bytes.ofNat (Digest.crc content) ++ ' ' :: Bytes.ofNat size ++ after

def sum : Utility := withOptions [flag 'r' [], flag 's' ["sysv"]] fun name a =>
  let algorithm := if a.last? "rs" = some 's' then "sysv" else "bsd"
  overOperands name a fun path content =>
    write 1 (sumLine algorithm (!a.operands.isEmpty) path content ++ ['\n'])

/-- The names of the sums of bytes that `cksum` knows. -/
def sums : List String := ["bsd", "sysv", "crc"]

def cksumForms : List OptionForm :=
  [setting 'a' ["algorithm"], setting 'l' ["length"], flag untaggedLetter ["untagged"],
   flag rawLetter ["raw"], flag codedLetter ["base64"]] ++ forms

/-- Complain of a name that is none of those that an option takes. -/
def invalidChoice (name : Bytes) (option : String) (given : Bytes) (valid : List String) :
    Shell Nat := do
  utilityError name ("invalid argument ".toList ++ Quoting.plain given ++ " for ".toList
    ++ Quoting.plain option.toList)
  write 2 "Valid arguments are:\n".toList
  valid.forM fun v => write 2 ("  - ".toList ++ Quoting.plain v.toList ++ ['\n'])
  tryHelp name
  return 1

/-- Everything that `cksum` computes, by its name. -/
def algorithms : List String :=
  ["bsd", "sysv", "crc", "md5", "sha1", "sha224", "sha256", "sha384", "sha512", "blake2b", "sm3"]

/-- The digest or sum that a name is the beginning of. -/
def chosen? (given : Bytes) : Option String :=
  let begun := algorithms.filter fun n => given.isPrefixOf n.toList
  if algorithms.contains (String.ofList given) then some (String.ofList given)
  else if begun.length = 1 then begun.head? else none

def cksum : Utility := withOptions cksumForms fun name a => do
  let given := (a.value? 'a').getD "crc".toList
  match chosen? given with
  | none => invalidChoice name "--algorithm" given algorithms
  | some algorithm =>
    if a.has 'l' && algorithm != "blake2b" then
      misused name "--length is only supported with --algorithm=blake2b".toList 1
    else if sums.contains algorithm then
      if a.has 'c' && a.has 'a' then
        utilityError name "--check is not supported with --algorithm=\x7bbsd,sysv,crc\x7d".toList
        return 1
      else if a.has 'c' then run (shortened 512) (styleOf a) none name a
      else overOperands name a fun path content =>
        write 1 (sumLine algorithm (!a.operands.isEmpty) path content ++ ['\n'])
    else
      match ← length? name a with
      | none => return 1
      | some bits =>
        let kind := if algorithm = "blake2b" then shortened bits
          else (kindOf? algorithm).getD (shortened 512)
        if a.has rawLetter then
          overOperands name a fun _ content => write 1 (Digest.bytesOf (kind.digest content))
        else
          let last := a.last? (String.ofList [tagLetter, untaggedLetter])
          let kind := if a.has codedLetter then
              { kind with digest := fun s =>
                  let bytes := Digest.bytesOf (kind.digest s)
                  Encode.base64.encode (bytes.length + 1) bytes }
            else kind
          run kind ⟨last != some untaggedLetter, a.last? "bt" = some 'b', a.has 'z'⟩ (some kind)
            name a

end SvgSkeleton.Shell.Checksum
