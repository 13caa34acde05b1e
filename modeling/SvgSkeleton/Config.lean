import SvgSkeleton.Config.Settings
import SvgSkeleton.Config.TomlFile
import SvgSkeleton.Error
import SvgSkeleton.FileTree
import SvgSkeleton.Json.Typed

/-!
Configuration files. The end of a file's name tells its format: `.json` or `.toml`.

A file in JSON holds an object of settings, or a list of their values in order. A setting may be
`null`. Unknown and repeated settings are refused.
-/

/-! ### Settings in JSON -/

namespace SvgSkeleton.Config

open Json

/-- A text with its name, put in after those that are there. -/
def insertText (done : Catalog String) : ValueReader (Catalog String) := fun s =>
  (member stringValue s).map (Parsed.map fun m => done.insert m.1 m.2)

/-- An object whose values are texts. -/
def textsValue : ValueReader (Catalog String) := fun s =>
  match next? s with
  | some ⟨'\x7b', r, h⟩ => (objectBody insertText .empty r).map (Parsed.below h)
  | _ => mismatch "a map" (skipGap s)

/-- The settings with one of them read. -/
def readField (settings : Settings) (field : Field) : ValueReader Settings := fun s =>
  match field with
  | .fontsFolder =>
    (optional stringValue s).map (Parsed.map fun v => { settings with fontsFolder := v })
  | .templateCommand =>
    (optional stringValue s).map (Parsed.map fun v => { settings with templateCommand := v })
  | .maxDepth => (optional naturalValue s).map (Parsed.map fun v => { settings with maxDepth := v })
  | .debug => (optional boolValue s).map (Parsed.map fun v => { settings with debug := v })
  | .vars => (optional textsValue s).map (Parsed.map fun v => { settings with vars := v })

/-- A fault of the whole object, found behind one of its keys: its place is behind the gap that
follows, and behind the brace if the object ends there. -/
def keyFault {n : Nat} (reason : Reason) (s : List Char) : Scan (Settings × List Field) n :=
  match skipGap s with
  | '\x7d' :: r => faultBehind reason r
  | r => faultBehind reason r

/-- A setting with its name, from behind the opening quote of the name. -/
def readMember (done : Settings × List Field) : ValueReader (Settings × List Field) := fun s =>
  match stringBody s with
  | .error e => .error e
  | .ok ⟨key, r, hr⟩ =>
    match Field.ofName? key with
    | none => keyFault (.unknownField key (Field.all.map Field.name)) r
    | some field =>
      if done.2.contains field then keyFault (.repeatedField key) r
      else
        (valueAfterColon (readField done.1 field) r).map fun p =>
          (p.map (·, field :: done.2)).below hr

/-- What a list of settings must be. -/
def listShape : String := "struct ConfigFile with 5 elements"

/-- The end of a list of settings, from behind the last of them. -/
def listEnd {bound : Nat} (settings : Settings) (s : List Char) (h : s.length < bound) :
    Scan Settings bound :=
  match next? s with
  | none => fault .endInList []
  | some ⟨']', r, hr⟩ => .ok (Parsed.below h ⟨settings, r, hr⟩)
  | some ⟨',', r, _⟩ =>
    match skipGap r with
    | ']' :: t => fault .trailingComma (']' :: t)
    | t => fault .trailingCharacters t
  | some ⟨c, r, _⟩ => fault .trailingCharacters (c :: r)

/-- The settings of a list, of which `read` have been read. -/
def listFrom {bound : Nat} (settings : Settings) (read : Nat) (fields : List Field)
    (s : List Char) (h : s.length < bound) : Scan Settings bound :=
  match fields with
  | [] => listEnd settings s h
  | field :: fields =>
    match next? s with
    | none => fault .endInList []
    | some ⟨']', r, _⟩ => faultBehind (.wrongLength read listShape) r
    | some ⟨c, r, hr⟩ =>
      if read = 0 then
        one settings read field fields s h
      else if c = ',' then
        match skipGap r with
        | [] => fault .endInValue []
        | ']' :: t => fault .trailingComma (']' :: t)
        | _ => one settings read field fields r (Nat.lt_trans hr h)
      else fault .listCommaOrEndExpected (c :: r)
where
  /-- Read a setting and then the others. -/
  one (settings : Settings) (read : Nat) (field : Field) (fields : List Field) (s : List Char)
      (h : s.length < bound) : Scan Settings bound :=
    match readField settings field s with
    | .error e => .error e
    | .ok ⟨settings, r, hr⟩ => listFrom settings (read + 1) fields r (Nat.lt_trans hr h)

/-- The settings of a file. -/
def settingsValue : ValueReader Settings := fun s =>
  match next? s with
  | some ⟨'[', r, h⟩ => listFrom .empty 0 Field.all r h
  | some ⟨'\x7b', r, h⟩ =>
    (objectBody readMember (.empty, []) r).map fun p => (p.map (·.1)).below h
  | _ => mismatch "struct ConfigFile" (skipGap s)

/-- The settings that a JSON text holds. -/
def ofJson (text : String) : Except SyntaxError Settings := whole settingsValue text

end SvgSkeleton.Config

/-! ### Files of settings -/

namespace SvgSkeleton.Config

/-- Does the path end with these characters? -/
def endsWith (path ending : String) : Bool := ending.toList.isSuffixOf path.toList

/-- The settings that the text of a file holds. -/
def ofText (path text : String) : Except Fault Settings :=
  if endsWith path ".json" then (ofJson text).mapError .json
  else if endsWith path ".toml" then
    match Toml.settings text with
    | some settings => .ok settings
    | none => .error .toml
  else .error .unknownFormat

/-- The text of a file. -/
def readText (tree : FileTree) (cwd : Place) (path : String) : Except OsError String := do
  match Text.decode? (← tree.read cwd (Text.bytesOf path)) with
  | some text => return text
  | none => .error .notText

/-- The settings of a file. -/
def load (tree : FileTree) (cwd : Place) (path : String) : Outcome Settings :=
  match readText tree cwd path with
  | .error reason => .error (.config (.unreadable path reason))
  | .ok text => (ofText path text).mapError .config

end SvgSkeleton.Config
