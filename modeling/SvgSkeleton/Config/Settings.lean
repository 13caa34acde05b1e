import SvgSkeleton.Catalog
import SvgSkeleton.Json.Fault
import SvgSkeleton.OsError

/-!
The settings that a configuration file can hold, and what can be wrong with those of a run. What a
file does not set is `none`.
-/

namespace SvgSkeleton.Config

structure Settings where
  fontsFolder : Option String
  templateCommand : Option String
  maxDepth : Option Nat
  debug : Option Bool
  vars : Option (Catalog String)

def Settings.empty : Settings := ⟨none, none, none, none, none⟩

/-- The settings by name. -/
inductive Field where
  | fontsFolder
  | templateCommand
  | maxDepth
  | debug
  | vars
  deriving DecidableEq, Repr

namespace Field

/-- All settings, in the order of a file that lists only their values. -/
def all : List Field := [.fontsFolder, .templateCommand, .maxDepth, .debug, .vars]

def name : Field → String
  | .fontsFolder => "fonts_dir"
  | .templateCommand => "jsonnet_command"
  | .maxDepth => "max_include_depth"
  | .debug => "debug"
  | .vars => "variables"

def ofName? (name : String) : Option Field := all.find? (·.name = name)

end Field
end SvgSkeleton.Config

/-! ### Faults -/

namespace SvgSkeleton.Config

inductive Fault where
  | unreadable (path : String) (reason : OsError)
  | json (reason : Json.SyntaxError)
  | toml
  | unknownFormat
  | badDefinition (definition : String)
  | badVariableName (name : String)
  | fontsFolder (path : String) (reason : OsError)
  deriving DecidableEq, Repr

def Fault.message : Fault → String
  | .unreadable path reason => "Config file " ++ path ++ ": " ++ reason.message
  | .json reason => "Invalid JSON config: " ++ reason.message
  | .toml => "Invalid TOML config"
  | .unknownFormat => "Config file must be .json or .toml format"
  | .badDefinition definition =>
    "Invalid variable definition: " ++ definition ++ ". Use NAME=VALUE format."
  | .badVariableName name => "Invalid custom variable name '" ++ name ++ "'"
  | .fontsFolder path reason => "Cannot read fonts directory " ++ path ++ ": " ++ reason.message

end SvgSkeleton.Config
