import SvgSkeleton.OsError

/-!
Template manifests are turned into JSON text by a compiler. The compiler gets the source and may
read the files next to it.
-/

namespace SvgSkeleton.Template

/-- What a compiler sees besides the source: the text of a file by its path from the folder of the
manifest, and that folder's place on disk if it has one. -/
structure Imports where
  read : String → Option String
  searchFolder : Option String

/-- Why a template is not compiled. -/
inductive Failure where
  | noCompiler
  | cannotRun (program : String) (reason : OsError)
  | cannotSend (program : String) (reason : OsError)
  | notText (program : String)
  | reported (text : String)
  deriving DecidableEq, Repr

def Failure.message : Failure → String
  | .noCompiler => "no template compiler is configured"
  | .cannotRun program reason => "failed to run '" ++ program ++ "': " ++ reason.message
  | .cannotSend program reason =>
    "failed to send source to '" ++ program ++ "': " ++ reason.message
  | .notText program => "'" ++ program ++ "' produced output that is not UTF-8"
  | .reported text => text

/-- From a source to JSON text. -/
abbrev Compiler := String → Imports → Except Failure String

end SvgSkeleton.Template
