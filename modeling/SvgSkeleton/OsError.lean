/-!
Why the system refuses to open a file or to run a program.
-/

namespace SvgSkeleton

inductive OsError where
  | noEntry
  | badChannel
  | denied
  | present
  | notFolder
  | isFolder
  | noSpace
  | brokenPipe
  | nameTooLong
  | notEmpty
  | tooManyLinks
  | nulInName
  | tooBig
  | nulInData
  | notText
  | other (reason : String)
  deriving DecidableEq, Repr

namespace OsError

/-- The reason in words. -/
def text : OsError → String
  | .noEntry => "No such file or directory"
  | .badChannel => "Bad file descriptor"
  | .denied => "Permission denied"
  | .present => "File exists"
  | .notFolder => "Not a directory"
  | .isFolder => "Is a directory"
  | .noSpace => "No space left on device"
  | .brokenPipe => "Broken pipe"
  | .nameTooLong => "File name too long"
  | .notEmpty => "Directory not empty"
  | .tooManyLinks => "Too many levels of symbolic links"
  | .tooBig => "File too large"
  | .nulInName => "file name contained an unexpected NUL byte"
  | .nulInData => "nul byte found in provided data"
  | .notText => "stream did not contain valid UTF-8"
  | .other reason => reason

/-- The number that the system gives the reason, if it is one of the system's own. -/
def number? : OsError → Option Nat
  | .noEntry => some 2
  | .badChannel => some 9
  | .denied => some 13
  | .present => some 17
  | .notFolder => some 20
  | .isFolder => some 21
  | .tooBig => some 27
  | .noSpace => some 28
  | .brokenPipe => some 32
  | .nameTooLong => some 36
  | .notEmpty => some 39
  | .tooManyLinks => some 40
  | _ => none

/-- The reasons that have a number. -/
def numbered : List OsError :=
  [.noEntry, .badChannel, .denied, .present, .notFolder, .isFolder, .tooBig, .noSpace, .brokenPipe,
   .nameTooLong, .notEmpty, .tooManyLinks]

/-- The reason with a number. -/
def ofNumber? (n : Nat) : Option OsError := numbered.find? (·.number? == some n)

def message (e : OsError) : String :=
  match e.number? with
  | some n => e.text ++ " (os error " ++ toString n ++ ")"
  | none => e.text

end OsError
end SvgSkeleton
