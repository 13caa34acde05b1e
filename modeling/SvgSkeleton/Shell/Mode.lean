import SvgSkeleton.Shell.Bytes

/-!
Permissions of files as numbers, and the changes to them that are written with letters, as in
`u+x,go-w`.
-/

namespace SvgSkeleton.Shell.Mode

/-- What a change of permissions takes its bits from. -/
inductive Bits where
  | given (bits : Nat)
  /-- Those that the owner, the group or the others have. -/
  | copied (mask : Nat)

/-- A change of permissions. -/
structure Change where
  /-- Whose bits are changed; without a mention those of all, where new files may have them. -/
  whose : Nat
  op : Char
  bits : Bits
  /-- Bits for running come in if some are there, or for a folder. -/
  runnable : Bool

def ofOwner : Nat := 0o4700

def ofGroup : Nat := 0o2070

def ofOthers : Nat := 0o1007

def running : Nat := 0o111

def all : Nat := 0o7777

/-- The bits of a mode that are none of a mask. -/
def without (mode mask : Nat) : Nat := mode - (mode &&& mask)

/-- Whose bits the letters in front of an operator mean, and what follows them. -/
def whose : Bytes → Nat × Bytes
  | 'u' :: r => let (n, r) := whose r; (n ||| ofOwner, r)
  | 'g' :: r => let (n, r) := whose r; (n ||| ofGroup, r)
  | 'o' :: r => let (n, r) := whose r; (n ||| ofOthers, r)
  | 'a' :: r => let (n, r) := whose r; (n ||| all, r)
  | r => (0, r)

/-- The bits that letters mean, whether one of them is `X`, and what follows them. -/
def letters : Bytes → Nat × Bool × Bytes
  | 'r' :: r => let (n, x, r) := letters r; (n ||| 0o444, x, r)
  | 'w' :: r => let (n, x, r) := letters r; (n ||| 0o222, x, r)
  | 'x' :: r => let (n, x, r) := letters r; (n ||| 0o111, x, r)
  | 's' :: r => let (n, x, r) := letters r; (n ||| 0o6000, x, r)
  | 't' :: r => let (n, x, r) := letters r; (n ||| 0o1000, x, r)
  | 'X' :: r => let (n, _, r) := letters r; (n, true, r)
  | r => (0, false, r)

def isOctal (c : Char) : Bool := '0' ≤ c && c ≤ '7'

/-- The number that octal digits write. -/
def octal? (s : Bytes) : Option Nat :=
  if s.isEmpty || !s.all isOctal then none else some (Text.ofDigits 8 s)

/-- The changes that follow each other for the same ones, and what follows them. -/
def operations (who : Nat) : Nat → Bytes → Option (List Change × Bytes)
  | 0, _ => none
  | fuel + 1, s =>
    match s with
    | op :: r =>
      if op != '+' && op != '-' && op != '=' then none
      else
        let (c, r) : Change × Bytes :=
          match r with
          | 'u' :: r => (⟨who, op, .copied 0o700, false⟩, r)
          | 'g' :: r => (⟨who, op, .copied 0o070, false⟩, r)
          | 'o' :: r => (⟨who, op, .copied 0o007, false⟩, r)
          | r =>
            let digits := r.takeWhile isOctal
            if digits.isEmpty then
              let (bits, x, r) := letters r
              (⟨who, op, .given bits, x⟩, r)
            else (⟨if who = 0 then all else who, op, .given (Text.ofDigits 8 digits), false⟩,
              r.drop digits.length)
        match r with
        | [] | ',' :: _ => some ([c], r)
        | r => (operations who fuel r).map fun (cs, r) => (c :: cs, r)
    | [] => none

/-- The changes that a text describes. -/
def changes? : Nat → Bytes → Option (List Change)
  | 0, _ => none
  | fuel + 1, s => do
    let (who, r) := whose s
    let (cs, r) ← operations who fuel r
    match r with
    | [] => return cs
    | _ :: r => return cs ++ (← changes? fuel r)

/-- The bits that some have, for all. -/
def spread (bits : Nat) : Nat :=
  let one (mask : Nat) : Nat := if bits &&& mask != 0 then mask else 0
  one 0o444 ||| one 0o222 ||| one 0o111

/-- The permissions after a change. -/
def Change.apply (c : Change) (isFolder : Bool) (mask mode : Nat) : Nat :=
  let bits := match c.bits with
    | .given b => b
    | .copied m => spread (mode &&& m)
  let bits := if c.runnable && (isFolder || mode &&& running != 0) then bits ||| running else bits
  let bits := if c.whose = 0 then without bits mask else bits &&& c.whose
  match c.op with
  | '+' => mode ||| bits
  | '-' => without mode bits
  | _ =>
    let kept := if c.whose = 0 then 0 else without mode c.whose
    let special := if isFolder then mode &&& 0o6000 else 0
    kept ||| special ||| bits

/-- The permissions that a text makes of others. -/
def change? (text : Bytes) (isFolder : Bool) (mask mode : Nat) : Option Nat :=
  match octal? text with
  | some n =>
    if n > all then none
    else some (if isFolder && text.length < 5 then n ||| (mode &&& 0o6000) else n)
  | none => (changes? (text.length + 1) text).map fun cs =>
      cs.foldl (fun mode c => c.apply isFolder mask mode) mode

/-- The digits of permissions, at least so many. -/
def shown (width mode : Nat) : Bytes :=
  let digits := Nat.toDigits 8 mode
  List.replicate (width - digits.length) '0' ++ digits

/-- The letters of the permissions of the owner, the group and the others. -/
def lettersOf (mode : Nat) : Bytes :=
  let three (shift : Nat) (special : Bool) (lower upper : Char) : Bytes :=
    let bits := mode >>> shift
    let runs := bits &&& 1 != 0
    [if bits &&& 4 != 0 then 'r' else '-', if bits &&& 2 != 0 then 'w' else '-',
      if special then (if runs then lower else upper) else if runs then 'x' else '-']
  three 6 (mode &&& 0o4000 != 0) 's' 'S' ++ three 3 (mode &&& 0o2000 != 0) 's' 'S'
    ++ three 0 (mode &&& 0o1000 != 0) 't' 'T'

end SvgSkeleton.Shell.Mode
