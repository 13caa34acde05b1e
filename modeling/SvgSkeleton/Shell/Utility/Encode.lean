import SvgSkeleton.Shell.Utility.Options

/-!
`base64`, `base32` and `basenc`: bytes as letters and digits, each of which stands for some bits.
-/

namespace SvgSkeleton.Shell

namespace Encode

/-- An alphabet: its digits, how many bits each stands for, and how many digits make a group; groups
that are not full are padded. -/
structure Alphabet where
  digits : Bytes
  bits : Nat
  group : Nat

def upperLetters : String := "ABCDEFGHIJKLMNOPQRSTUVWXYZ"

def base64 : Alphabet :=
  ⟨(upperLetters ++ "abcdefghijklmnopqrstuvwxyz0123456789+/").toList, 6, 4⟩

def base64url : Alphabet :=
  ⟨(upperLetters ++ "abcdefghijklmnopqrstuvwxyz0123456789-_").toList, 6, 4⟩

def base32 : Alphabet := ⟨(upperLetters ++ "234567").toList, 5, 8⟩

def base32hex : Alphabet := ⟨"0123456789ABCDEFGHIJKLMNOPQRSTUV".toList, 5, 8⟩

def base16 : Alphabet := ⟨"0123456789ABCDEF".toList, 4, 2⟩

namespace Alphabet

/-- How many bytes make a group. -/
def groupBytes (a : Alphabet) : Nat := a.bits * a.group / 8

/-- The digits of a group of bytes. -/
def encodeGroup (a : Alphabet) (g : Bytes) : Bytes :=
  let n := g.foldl (fun n c => n * 256 + c.toNat) 0 <<< (8 * (a.groupBytes - g.length))
  let used := (8 * g.length + a.bits - 1) / a.bits
  (List.range a.group).map fun i =>
    if i < used then
      a.digits.getD (n >>> (a.bits * (a.group - 1 - i)) % (1 <<< a.bits)) '='
    else '='

def encode (a : Alphabet) : Nat → Bytes → Bytes
  | 0, _ => []
  | fuel + 1, s =>
    if s.isEmpty then []
    else a.encodeGroup (s.take a.groupBytes) ++ a.encode fuel (s.drop a.groupBytes)

/-- The bytes of the digits of a group that are known, and whether it is a group. -/
def decodeGroup (a : Alphabet) (g : Bytes) : Bytes × Bool :=
  let known := (g.map a.digits.idxOf?).takeWhile Option.isSome |>.filterMap id
  let padding := g.drop known.length
  let n := known.foldl (fun n d => n * (1 <<< a.bits) + d) 0 <<< (a.bits * (a.group - known.length))
  let size := known.length * a.bits / 8
  let bytes := (List.range size).map fun i =>
    Char.ofNat (n >>> (8 * (a.groupBytes - 1 - i)) % 256)
  let needed := (8 * size + a.bits - 1) / a.bits
  let whole := g.length = a.group && size > 0 && padding.all (· == '=') && known.length = needed
  (bytes, whole)

/-- The bytes of a text up to the first group that is none, and whether all are. -/
def decode (a : Alphabet) : Nat → Bytes → Bytes × Bool
  | 0, _ => ([], true)
  | fuel + 1, s =>
    if s.isEmpty then ([], true)
    else
      let (bytes, valid) := a.decodeGroup (s.take a.group)
      if valid then
        let (more, valid) := a.decode fuel (s.drop a.group)
        (bytes ++ more, valid)
      else (if a.bits = 6 then bytes else [], false)

end Alphabet

/-- A text in lines of a width. -/
def wrapped (width : Nat) : Nat → Bytes → Bytes
  | 0, s => s
  | fuel + 1, s =>
    if s.length ≤ width then s ++ ['\n']
    else s.take width ++ '\n' :: wrapped width fuel (s.drop width)

def forms : List OptionForm :=
  [flag 'd' ["decode"], setting 'w' ["wrap"], flag 'i' ["ignore-garbage"]]

/-- The alphabets of `basenc`, with letters for the options that choose them. -/
def alphabets : List (Char × String × Alphabet) :=
  [(Char.ofNat 256, "base64", base64), (Char.ofNat 257, "base64url", base64url),
   (Char.ofNat 258, "base32", base32), (Char.ofNat 259, "base32hex", base32hex),
   (Char.ofNat 260, "base16", base16)]

def run (alphabet : Alphabet) (name : Bytes) (a : Arguments) : Shell Nat := do
  let width := (a.value? 'w').getD ['7', '6']
  match a.operands, Bytes.toNat? width with
  | _, none =>
    utilityError name ("invalid wrap size: ".toList ++ Quoting.plain width)
    return 1
  | _ :: extra :: _, _ => misused name ("extra operand ".toList ++ Quoting.plain extra) 1
  | operands, some width =>
    let path := operands.headD ['-']
    match ← readOperand path with
    | .error e =>
      if failsLate e then utilityError name ("read error: ".toList ++ reasonText e)
      else fileError name path e
      return 1
    | .ok content =>
      if a.has 'd' then
        let counts (c : Char) : Bool :=
          if a.has 'i' then c = '=' || alphabet.digits.contains c else c != '\n'
        let text := content.filter counts
        let (bytes, valid) := alphabet.decode (text.length + 1) text
        write 1 bytes
        if valid then return 0
        utilityError name "invalid input".toList
        return 1
      else
        let text := alphabet.encode (content.length + 1) content
        unless text.isEmpty do
          write 1 (if width = 0 then text else wrapped width text.length text)
        return 0

end Encode

def base64 : Utility := withOptions Encode.forms (Encode.run Encode.base64)

def base32 : Utility := withOptions Encode.forms (Encode.run Encode.base32)

def basenc : Utility :=
  withOptions (Encode.forms ++ Encode.alphabets.map fun x => flag x.1 [x.2.1]) fun name a => do
    match a.last? (String.ofList (Encode.alphabets.map (·.1))) with
    | none => misused name "missing encoding type".toList 1
    | some c =>
      match Encode.alphabets.find? (·.1 == c) with
      | some x => Encode.run x.2.2 name a
      | none => return 1

end SvgSkeleton.Shell
