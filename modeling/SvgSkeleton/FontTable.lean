import SvgSkeleton.Catalog
import SvgSkeleton.Error
import SvgSkeleton.FileTree

/-!
The fonts that manifests may call for by name. Every file of a folder whose extension is `woff2`,
in letters of either case, adds the font that its stem names; a later one takes the place of an
earlier one of that name.
-/

namespace SvgSkeleton

/-- The bytes of woff2 fonts by their family names. -/
abbrev FontTable := Catalog ByteArray

namespace FontTable

/-- The bytes of a font. -/
def get (fonts : FontTable) (name : String) : Outcome ByteArray :=
  match fonts.find? name with
  | some bytes => .ok bytes
  | none => .error (.unknownBundledFont name)

/-- The first bytes of a font, filled up with zeros to its size. -/
def outline (head : List UInt8) (size : Nat) : ByteArray :=
  ⟨(head ++ List.replicate (size - head.length) 0).toArray⟩

/-- The fonts that come with the program. Of each the table holds the signature and the size; the
glyphs are not part of this library. -/
def builtin : FontTable :=
  .ofList [
    ("Open Sans", outline
      [0x77, 0x4F, 0x46, 0x32, 0x00, 0x01, 0x00, 0x00,
       0x00, 0x00, 0xEF, 0xBF, 0xBD, 0xEF, 0xBF, 0xBD] 78346),
    ("Source Code Pro", outline
      [0x77, 0x4F, 0x46, 0x32, 0x00, 0x01, 0x00, 0x00,
       0x00, 0x00, 0xEF, 0xBF, 0xBD, 0x04, 0x00, 0x11] 106976)]

/-- The ASCII letter in lower case. -/
def lowerByte (b : UInt8) : UInt8 := if 0x41 ≤ b && b ≤ 0x5A then b + 0x20 else b

/-- The stem of a file name that has the extension `woff2`. A name without anything before its
last dot has no extension. -/
def woff2Stem? (name : FileName) : Option FileName :=
  match name.reverse.dropWhile (· != 0x2E) with
  | [] | [_] => none
  | _ :: stem =>
    let ext := (name.reverse.takeWhile (· != 0x2E)).reverse
    if ext.map lowerByte = Text.bytesOf "woff2" then some stem.reverse else none

/-- The family name that a file name gives; a stem that is not text gives none. -/
def familyName? (name : FileName) : Option String :=
  (woff2Stem? name).bind fun stem => Text.decode? ⟨stem.toArray⟩

/-- The table and the number of fonts loaded, after one more file. -/
def load (done : FontTable × Nat) (file : FileName × ByteArray) : FontTable × Nat :=
  match familyName? file.1 with
  | none => done
  | some name => (Catalog.insert done.1 name file.2, done.2 + 1)

/-- The table with the fonts of some files, and how many of the files were fonts. -/
def extend (fonts : FontTable) (files : List (FileName × ByteArray)) : FontTable × Nat :=
  files.foldl load (fonts, 0)

/-- A path with a name behind it. -/
def entryPath (path : List UInt8) (name : FileName) : List UInt8 :=
  if FileTree.endsInSlash path then path ++ name else path ++ 0x2F :: name

/-- The files among the entries of the folder that a path denotes, with their contents, links
followed. -/
def filesIn (tree : FileTree) (cwd : Place) (path : List UInt8)
    (entries : List (FileName × FileTree)) : List (FileName × ByteArray) :=
  entries.filterMap fun e =>
    match tree.locate cwd (entryPath path e.1) with
    | .error _ => none
    | .ok place =>
      if tree.isFileAt place then (tree.contentAt place).toOption.map (e.1, ·) else none

/-- The table with the fonts of a folder, and how many there are. -/
def extendFromFolder (fonts : FontTable) (tree : FileTree) (cwd : Place) (path : String) :
    Outcome (FontTable × Nat) :=
  match tree.readFolder cwd (Text.bytesOf path) with
  | .ok entries => .ok (fonts.extend (filesIn tree cwd (Text.bytesOf path) entries))
  | .error reason => .error (.config (.fontsFolder path reason))

end FontTable
end SvgSkeleton
