/-!
The flags of the command line: how each is written, whether it takes a value, and what the help
says about it.
-/

namespace SvgSkeleton.CommandLine

inductive Flag where
  | folder
  | out
  | watch
  | config
  | verbose
  | define
  | fontsFolder
  | templateCommand
  | maxDepth
  | stats
  | debug
  | help
  | version
  deriving DecidableEq, Repr

namespace Flag

/-- All flags, in the order in which the help lists them. -/
def all : List Flag :=
  [.folder, .out, .watch, .config, .verbose, .define, .fontsFolder, .templateCommand, .maxDepth,
   .stats, .debug, .help, .version]

/-- The name behind two dashes. -/
def long : Flag → String
  | .folder => "in-folder"
  | .out => "out-file"
  | .watch => "watch"
  | .config => "config"
  | .verbose => "verbose"
  | .define => "define"
  | .fontsFolder => "fonts-dir"
  | .templateCommand => "jsonnet"
  | .maxDepth => "max-depth"
  | .stats => "stats"
  | .debug => "debug"
  | .help => "help"
  | .version => "version"

/-- The letter behind one dash. -/
def short? : Flag → Option Char
  | .folder => some 'i'
  | .out => some 'o'
  | .watch => some 'w'
  | .config => some 'c'
  | .verbose => some 'v'
  | .define => some 'D'
  | .debug => some 'd'
  | .help => some 'h'
  | .version => some 'V'
  | .fontsFolder | .templateCommand | .maxDepth | .stats => none

/-- What the value of the flag is called, if it takes one. -/
def valueName? : Flag → Option String
  | .folder | .fontsFolder => some "DIR"
  | .out | .config => some "FILE"
  | .define => some "NAME=VALUE"
  | .templateCommand => some "CMD"
  | .maxDepth => some "N"
  | .watch | .verbose | .stats | .debug | .help | .version => none

def takesValue (f : Flag) : Bool := f.valueName?.isSome

/-- What the flag is for. -/
def summary : Flag → String
  | .folder => "Skeleton folder containing collagen.json or collagen.jsonnet"
  | .out => "Path of the SVG file to write"
  | .watch => "Watch the skeleton folder and regenerate on changes"
  | .config => "Configuration file path (.toml or .json)"
  | .verbose => "Increase verbosity (can be used multiple times)"
  | .define => "Define a variable for the top-level manifest"
  | .fontsFolder => "Folder of <Name>.woff2 files usable as bundled fonts"
  | .templateCommand => "Jsonnet executable used for collagen.jsonnet manifests"
  | .maxDepth => "Maximum nesting of included skeletons"
  | .stats => "Show detailed generation statistics"
  | .debug => "Log every generation phase"
  | .help => "Print help"
  | .version => "Print version"

/-- The flag with the given name. -/
def ofLong? (name : String) : Option Flag := all.find? (·.long = name)

/-- The flag with the given letter. -/
def ofShort? (letter : Char) : Option Flag := all.find? (·.short? = some letter)

/-- The flag with a place for its value. -/
def shown (f : Flag) : String :=
  "--" ++ f.long ++
    match f.valueName? with
    | some name => " <" ++ name ++ ">"
    | none => if f = .verbose then "..." else ""

/-- The flag as the help shows it, its letter first. -/
def entry (f : Flag) : String :=
  (match f.short? with
    | some letter => "  -" ++ letter.toString ++ ", "
    | none => "      ") ++ f.shown

/-- How wide the first column of the help is. -/
def column : Nat := (all.map (·.entry.length)).foldl max 0 + 2

/-- The line of the help about the flag. -/
def helpLine (f : Flag) : String :=
  f.entry ++ String.ofList (List.replicate (column - f.entry.length) ' ') ++ f.summary ++ "\n"

end Flag
end SvgSkeleton.CommandLine
