import SvgSkeleton.CommandLine.Arguments
import SvgSkeleton.Config
import SvgSkeleton.Generate
import SvgSkeleton.Template.Command

/-!
The command line: from arguments and files to a picture, and to what is said about it. What the
arguments set wins over the configuration file.
-/

namespace SvgSkeleton

/-- The name of the program. -/
def programName : String := "clgn"

def programVersion : String := "0.1.0"

namespace CommandLine

/-! ### Options -/

/-- The settings of the configuration file, if one is given. -/
def settings (tree : FileTree) (cwd : Place) (given : Given) : Outcome Config.Settings :=
  match given.config with
  | none => .ok .empty
  | some path => Config.load tree cwd path

/-- The folder of further fonts. -/
def fontsFolder (settings : Config.Settings) (given : Given) : Option String :=
  given.fontsFolder.or settings.fontsFolder

/-- The fonts that come with the program, and those of the folder of further fonts. -/
def fonts (tree : FileTree) (cwd : Place) (settings : Config.Settings) (given : Given) :
    Outcome FontTable :=
  match fontsFolder settings given with
  | none => .ok .builtin
  | some path => (FontTable.builtin.extendFromFolder tree cwd path).map (·.1)

/-- The command that compiles templates. -/
def command (settings : Config.Settings) (given : Given) : Template.Command :=
  match given.templateCommand.or settings.templateCommand with
  | some program => ⟨program, []⟩
  | none => .default

/-- A variable and its value, around the first equals sign of a definition. -/
def definition (text : String) : Outcome (String × String) :=
  match Text.splitFirst ['='] text.toList with
  | some (name, value) => .ok (String.ofList name, String.ofList value)
  | none => .error (.config (.badDefinition text))

/-- The variables: those that are defined by arguments, then the others of the configuration. -/
def globals (settings : Config.Settings) (given : Given) : Outcome (List (String × String)) := do
  let defined ← given.definitions.mapM definition
  let others := (settings.vars.getD .empty).entries
  return defined ++ others.filter fun v => !defined.any (·.1 == v.1)

/-- The options of a run. -/
def options (tree : FileTree) (cwd : Place) (settings : Config.Settings) (given : Given) :
    Outcome Options := do
  let fonts ← fonts tree cwd settings given
  let vars ← globals settings given
  return {
    debug := given.debug || settings.debug.getD false
    maxDepth := (given.maxDepth.or settings.maxDepth).getD defaultMaxDepth
    vars := vars
    fonts := fonts
    compiler := some ((command settings given).compiler (.ofTree tree cwd)) }

/-! ### What is said -/

/-- A line with a number in it. -/
def numberLine (before : String) (n : Nat) (after : String) : String :=
  before ++ toString n ++ after ++ "\n"

/-- The line before a picture is generated. -/
def heading (request : Request) : String :=
  if request.given.watch then "👀 Watching " ++ request.folder ++ " for changes...\n"
  else "🔨 Generating " ++ request.folder ++ " -> " ++ request.out ++ "\n"

/-- The counts of a picture. -/
def statistics (d : Document) (elapsed : Nat) : String :=
  "\n📊 Detailed Generation Statistics:\n"
    ++ numberLine "   Manifest size: " d.sourceSize " bytes"
    ++ numberLine "   Output size: " d.outputSize " bytes"
    ++ numberLine "   Generate time: " elapsed "ms"
    ++ "\n   Breakdown:\n"
    ++ numberLine "     Elements: " d.stats.elements ""
    ++ numberLine "     Text nodes: " d.stats.texts ""
    ++ numberLine "     Images: " d.stats.images ""
    ++ numberLine "     Font faces: " d.stats.fontFaces ""
    ++ numberLine "     Nested SVGs: " d.stats.nestedSvgs ""
    ++ numberLine "     Interpolations: " d.stats.interpolations ""
    ++ numberLine "     Embedded bytes: " d.stats.embeddedBytes ""
    ++ if d.stats.includes = 0 then "" else numberLine "     Includes: " d.stats.includes ""

/-- The lines after a picture has been written, in `elapsed` milliseconds. -/
def success (request : Request) (d : Document) (elapsed : Nat) : String :=
  if request.given.watch then "✅ Initial generation successful\n"
  else "✅ Generation successful!\n"
    ++ numberLine "   Output: " d.outputSize " bytes"
    ++ numberLine "   Time: " elapsed "ms"
    ++ if request.given.stats then statistics d elapsed else ""

/-- The line about a failure. -/
def failure (e : Error) : String := "error[" ++ e.kind.name ++ "]: " ++ e.message ++ "\n"

/-- The line about a picture that is not generated at the beginning of a watch. -/
def initialFailure (e : Error) : String := "❌ Initial generation failed: " ++ e.message ++ "\n"

/-- How the program is called. -/
def usageText : String :=
  "Usage: " ++ programName ++ " [OPTIONS] " ++ Flag.folder.shown ++ " " ++ Flag.out.shown ++ "\n"

/-- What the program is for, and its flags. -/
def helpText : String :=
  "Collagen - compile a folder of manifests and assets into a single self-contained SVG\n\n"
    ++ usageText ++ "\nOptions:\n" ++ String.join (Flag.all.map Flag.helpLine)

/-! ### Runs -/

/-- What a run leaves behind besides files: its status, and what it has written to its two
outputs. -/
structure Report where
  status : Nat
  output : String
  errors : String
  deriving DecidableEq, Repr

/-- The report of a run that does not come to generate anything. -/
def Stop.report : Stop → Report
  | .help => ⟨0, helpText, ""⟩
  | .version => ⟨0, programName ++ " " ++ programVersion ++ "\n", ""⟩
  | .misuse reason =>
    ⟨2, "", "error: " ++ reason.message ++ "\n\n" ++ usageText
      ++ "\nFor more information, try '--help'.\n"⟩

/-- The request and the options of a run. The error is the report of a run that ends here. -/
def prepare (tree : FileTree) (cwd : Place) (args : List String) :
    Except Report (Request × Options) :=
  match parse args with
  | .error stop => .error stop.report
  | .ok request =>
    match settings tree cwd request.given >>= fun s => options tree cwd s request.given with
    | .error e => .error ⟨1, "", failure e⟩
    | .ok options => .ok (request, options)

/-- The absolute path of a folder that is seen from another one. -/
def pathFrom (cwd : Place) (folder : String) : List UInt8 :=
  let path := Text.bytesOf folder
  if FileTree.isAbsolute path then path else FileTree.absolutePath cwd ++ 0x2F :: path

/-- Can the folder of a request be watched, where that is asked for? Something must stand there. -/
def checkWatch (tree : FileTree) (cwd : Place) (request : Request) : Outcome Unit :=
  if request.given.watch then
    match tree.locate [] (pathFrom cwd request.folder) with
    | .ok _ => .ok ()
    | .error reason => .error (.notWatched reason)
  else .ok ()

/-- The picture if it goes to a channel of the program, else nothing. -/
def pictureOn (tree : FileTree) (cwd : Place) (channel : Nat) (request : Request) (d : Document) :
    String :=
  match tree.locateTarget cwd (Text.bytesOf request.out) with
  | .error _ => ""
  | .ok place =>
    match tree.at? place with
    | some (.special (.stream n)) => if n = channel then d.svg else ""
    | _ => ""

/-- The report of a run whose picture is not generated. A watch goes on. -/
def failed (request : Request) (e : Error) : Report :=
  if request.given.watch then ⟨0, heading request, initialFailure e⟩
  else ⟨1, heading request, failure e⟩

/-- A run in the folder `cwd` that takes `elapsed` milliseconds: its report, and the tree with the
picture written. -/
def run (tree : FileTree) (cwd : Place) (elapsed : Nat) (args : List String) : Report × FileTree :=
  match prepare tree cwd args with
  | .error report => (report, tree)
  | .ok (request, options) =>
    match checkWatch tree cwd request with
    | .error e => (⟨1, heading request, failure e⟩, tree)
    | .ok () =>
      match generateFile tree cwd request.folder request.out options with
      | .error e => (failed request e, tree)
      | .ok (document, after) =>
        let shown (channel : Nat) : String := pictureOn tree cwd channel request document
        (⟨0, heading request ++ shown 1 ++ success request document elapsed, shown 2⟩, after)

end CommandLine
end SvgSkeleton
