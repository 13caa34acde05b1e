import SvgSkeleton.Markup.Element

/-!
The images and fonts that can be embedded: their kinds with their media types, and how they are
written into a document.
-/

namespace SvgSkeleton

inductive ImageKind where
  | png
  | jpeg
  | gif
  | svg
  | webp
  | bmp
  | ico
  | avif
  | tiff
  deriving DecidableEq, Repr

namespace ImageKind

/-- The names of each kind, which are also its file extensions. -/
def names : List (String × ImageKind) :=
  [("png", .png), ("jpg", .jpeg), ("jpeg", .jpeg), ("gif", .gif), ("svg", .svg), ("webp", .webp),
   ("bmp", .bmp), ("ico", .ico), ("avif", .avif), ("tif", .tiff), ("tiff", .tiff)]

/-- The kind of a name, whose ASCII letters may be of either case. -/
def ofName? (name : String) : Option ImageKind := names.lookup name.toLower

def mediaType : ImageKind → String
  | .png => "image/png"
  | .jpeg => "image/jpeg"
  | .gif => "image/gif"
  | .svg => "image/svg+xml"
  | .webp => "image/webp"
  | .bmp => "image/bmp"
  | .ico => "image/x-icon"
  | .avif => "image/avif"
  | .tiff => "image/tiff"

end ImageKind

inductive FontFormat where
  | woff2
  | woff
  | trueType
  | openType
  deriving DecidableEq, Repr

namespace FontFormat

/-- The format of a font file by its extension in lower case; any other extension, or none, is
taken for woff2. -/
def ofExtension : Option String → FontFormat
  | some "woff" => .woff
  | some "ttf" => .trueType
  | some "otf" => .openType
  | _ => .woff2

def mediaType : FontFormat → String
  | .woff2 => "font/woff2"
  | .woff => "font/woff"
  | .trueType => "font/ttf"
  | .openType => "font/otf"

/-- The name of the format in a style sheet. -/
def cssName : FontFormat → String
  | .woff2 => "woff2"
  | .woff => "woff"
  | .trueType => "truetype"
  | .openType => "opentype"

end FontFormat

/-! ### Base64

The alphabet and the padding are the standard ones: three bytes become four characters, and a last
group of one or two bytes is filled up with `=`.
-/

namespace Base64

/-- The sixty-four digits, in order of their value. -/
def alphabet : Array Char :=
  "ABCDEFGHIJKLMNOPQRSTUVWXYZabcdefghijklmnopqrstuvwxyz0123456789+/".toList.toArray

/-- The digit of a value, taken modulo 64. -/
def digit (n : Nat) : Char := alphabet.getD (n % 64) '='

/-- The four characters of a full group. -/
def group (a b c : UInt8) : List Char :=
  let n := a.toNat * 65536 + b.toNat * 256 + c.toNat
  [digit (n / 262144), digit (n / 4096), digit (n / 64), digit n]

/-- The characters of a last group, of two, one or no bytes. -/
def lastGroup : List UInt8 → List Char
  | [a, b] =>
    let n := a.toNat * 1024 + b.toNat * 4
    [digit (n / 4096), digit (n / 64), digit n, '=']
  | [a] =>
    let n := a.toNat * 16
    [digit (n / 64), digit n, '=', '=']
  | _ => []

/-- The groups already written, in reverse, and then those of the bytes that are left. -/
def encodeAfter (written : List Char) : List UInt8 → List Char
  | a :: b :: c :: r => encodeAfter ((group a b c).reverse ++ written) r
  | last => written.reverse ++ lastGroup last

/-- The bytes in Base64. -/
def encode (bytes : List UInt8) : String := String.ofList (encodeAfter [] bytes)

end Base64

end SvgSkeleton

/-! ### Assets inside a document

Data addresses, and the rules of a style sheet that define fonts.
-/

namespace SvgSkeleton

/-- The address that holds the bytes themselves. -/
def dataUri (mediaType : String) (bytes : ByteArray) : String :=
  "data:" ++ mediaType ++ ";base64," ++ Base64.encode bytes.data.toList

namespace Css

/-- A character inside a quoted string of a style sheet. -/
def escapeChar (c : Char) : List Char :=
  if c = '\\' || c = '"' then ['\\', c] else [c]

def escape (s : String) : String := String.ofList (s.toList.flatMap escapeChar)

/-- A further descriptor of a rule. -/
def descriptor (d : String × String) : String := " " ++ d.1 ++ ": " ++ d.2 ++ ";"

/-- The rule that defines a font face. -/
def fontFaceRule (family : String) (format : FontFormat) (bytes : ByteArray)
    (descriptors : Attributes) : String :=
  "@font-face \x7b font-family: \"" ++ escape family ++ "\"; src: url("
    ++ dataUri format.mediaType bytes ++ ") format(\"" ++ format.cssName ++ "\");"
    ++ String.join (descriptors.toList.map descriptor) ++ " \x7d"

end Css
end SvgSkeleton
