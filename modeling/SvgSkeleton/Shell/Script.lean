import SvgSkeleton.Shell.Bytes

/-!
The form of scripts: words with what is to be expanded in them, redirections, and commands.
-/

namespace SvgSkeleton.Shell

/-- What `${name...}` does when the variable has no value, or has one. -/
inductive Fallback where
  /-- `-`: the word stands in. -/
  | use
  /-- `=`: the word stands in and becomes the value. -/
  | assign
  /-- `+`: the word stands in for a value that there is. -/
  | instead
  /-- `?`: the word is the message of a failure. -/
  | fail
  deriving DecidableEq, Repr

/-- How a redirection opens its file, or what else it does. -/
inductive Direction where
  | read
  | write
  /-- A file that is there is written anew, whatever the settings of the shell are. -/
  | replace
  | append
  | readWrite
  /-- The channel becomes a copy of another one. -/
  | copy
  /-- The channel reads the text of a here-document, by its number in the script. -/
  | here (id : Nat)
  deriving DecidableEq, Repr

mutual

/-- A part of a word. What is quoted is neither split into fields nor a pattern. -/
inductive Part where
  | text (quoted : Bool) (chars : Bytes)
  | parameter (quoted : Bool) (name : Bytes)
  | length (quoted : Bool) (name : Bytes)
  /-- With a colon an empty value counts as none. -/
  | fallback (quoted : Bool) (name : Bytes) (kind : Fallback) (colon : Bool) (word : List Part)
  | trim (quoted : Bool) (name : Bytes) (suffix longest : Bool) (pattern : List Part)
  | output (quoted : Bool) (body : Command)
  | arithmetic (quoted : Bool) (expr : List Part)
  | badSubstitution

inductive Command where
  | nothing
  | simple (line : Nat) (assignments : List (Bytes × List Part)) (words : List (List Part))
      (redirections : List (Nat × Direction × List Part))
  | group (body : Command)
  | subshell (line : Nat) (body : Command)
  | redirected (line : Nat) (body : Command) (redirections : List (Nat × Direction × List Part))
  | cond (test yes no : Command)
  | loop (negated : Bool) (test body : Command)
  | each (line : Nat) (name : Bytes) (words : Option (List (List Part))) (body : Command)
  | select (line : Nat) (word : List Part) (arms : List (List (List Part) × Command))
  | define (name : Bytes) (body : Command)
  | pipeline (negated : Bool) (commands : List Command)
  | both (first second : Command)
  | either (first second : Command)
  | inTurn (first second : Command)
  | background (body : Command)

end

abbrev Word := List Part

/-- Does the command hold no others? -/
def Command.isSimple : Command → Bool
  | .simple .. => true
  | _ => false

/-- A channel, what is done with it, and the word that says with which file. -/
abbrev Redirection := Nat × Direction × Word

/-- The commands whose failures end the script, and whose assignments stay. -/
def specialCommands : List String :=
  [".", ":", "break", "continue", "eval", "exec", "exit", "export", "readonly", "return", "set",
   "shift", "times", "trap", "unset", "local"]

def isSpecialCommand (name : Bytes) : Bool := specialCommands.contains (String.ofList name)

instance : Inhabited Part := ⟨.badSubstitution⟩
instance : Inhabited Command := ⟨.nothing⟩

/-- The part with everything in it quoted. -/
def Part.quote : Part → Part
  | .text _ s => .text true s
  | .parameter _ n => .parameter true n
  | .length _ n => .length true n
  | .fallback _ n k c w => .fallback true n k c w
  | .trim _ n s l p => .trim true n s l p
  | .output _ b => .output true b
  | .arithmetic _ e => .arithmetic true e
  | .badSubstitution => .badSubstitution

end SvgSkeleton.Shell
