import SvgSkeleton.Shell.Regex.Posix

/-!
What a script of `sed` is: a list of commands, each for some of the lines. The ends of blocks and
the labels are commands too, and places to jump to.
-/

namespace SvgSkeleton.Shell.Sed

/-- Which line a command is for. -/
inductive Address where
  | line (n : Nat)
  | last
  /-- Without an expression the last one that was used is meant. -/
  | regex (m : Option Matcher)
  /-- Every so many lines from one on. -/
  | every (first step : Nat)

/-- Where a range of lines ends. -/
inductive RangeEnd where
  | at (a : Address)
  /-- So many lines on. -/
  | after (n : Nat)
  /-- At the next line whose number is a multiple. -/
  | multiple (n : Nat)

/-- A piece of a replacement. -/
inductive Piece where
  | text (s : Bytes)
  | group (n : Nat)
  /-- The letter of a change of case: what follows, or the next character, in upper or lower case,
  or nothing of it any more. -/
  | case (letter : Char)

structure Substitution where
  /-- Without an expression the last one that was used is meant. -/
  regex : Option Matcher
  replacement : List Piece
  all : Bool
  /-- The first match that is replaced. -/
  nth : Option Nat
  prints : Bool
  /-- Is the result run as a command? -/
  runs : Bool
  file : Option Bytes

inductive Action where
  /-- Jump behind the end of the block if the line is not meant. -/
  | block (next : Nat)
  | blockEnd
  | substitute (s : Substitution)
  | translate (table : List (Char × Char))
  /-- A command without an argument, by its letter. -/
  | letter (c : Char)
  /-- Show the line in lines of a width. -/
  | list (width : Option Nat)
  | quit (prints : Bool) (status : Nat)
  | append (text : Bytes)
  | insert (text : Bytes)
  | change (text : Bytes)
  | label (name : Bytes)
  | jump (letter : Char) (name : Bytes)
  /-- Read a file, or the next line of it. -/
  | readFile (path : Bytes)
  | readLine (path : Bytes)
  /-- Write the line, or the first line in it, to a file. -/
  | writeLines (path : Bytes)
  | writeFirst (path : Bytes)
  /-- Run a command; without one the line is the command. -/
  | run (command : Option Bytes)
  | nothing

structure Instruction where
  first : Option Address
  last : Option RangeEnd
  negated : Bool
  action : Action

instance : Inhabited Instruction := ⟨⟨none, none, false, .nothing⟩⟩

/-- The files that a script writes to. -/
def filesOf (program : Array Instruction) : List Bytes :=
  (program.toList.filterMap fun x =>
    match x.action with
    | .writeLines path | .writeFirst path => some path
    | .substitute s => s.file
    | _ => none).eraseDups

/-- The labels that a script jumps to, but does not have. -/
def missingLabels (program : Array Instruction) : List Bytes :=
  let labels := program.toList.filterMap fun x =>
    match x.action with
    | .label name => some name
    | _ => none
  program.toList.filterMap fun x =>
    match x.action with
    | .jump _ name => if name.isEmpty || labels.contains name then none else some name
    | _ => none

end SvgSkeleton.Shell.Sed
