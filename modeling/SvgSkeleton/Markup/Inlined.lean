import SvgSkeleton.Text.Character
import SvgSkeleton.Text.Search

/-!
What an SVG document holds between the tags of its outermost element. The document may begin with
byte-order marks, processing instructions, comments and document types, with blanks between them.
-/

namespace SvgSkeleton.Markup

/-- What is wrong with an SVG document. -/
inductive SvgFault where
  | openInstruction
  | openComment
  | openDoctype
  | noSvg
  | openTag
  | notClosed
  deriving DecidableEq, Repr

def SvgFault.message : SvgFault → String
  | .openInstruction => "unterminated XML declaration"
  | .openComment => "unterminated comment"
  | .openDoctype => "unterminated doctype"
  | .noSvg => "document does not start with an <svg> element"
  | .openTag => "unterminated <svg> tag"
  | .notClosed => "missing closing </svg> tag"

open Text

/-- What follows a document type, whose end is the first `>` outside of square brackets. -/
def afterDoctype (inSubset : Bool) : List Char → Option (List Char)
  | [] => none
  | c :: r =>
    if c = '[' then afterDoctype true r
    else if c = ']' then afterDoctype false r
    else if c = '>' && !inSubset then some r
    else afterDoctype inSubset r

theorem length_afterDoctype_lt {b : Bool} {s t : List Char} (h : afterDoctype b s = some t) :
    t.length < s.length := by
  induction s generalizing b with
  | nil => simp [afterDoctype] at h
  | cons c r ih =>
    simp only [afterDoctype] at h
    simp only [List.length_cons]
    split at h
    · have := ih h; omega
    split at h
    · have := ih h; omega
    split at h
    · obtain rfl := Option.some.inj h; omega
    · have := ih h; omega

theorem length_splitFirst_lt {piece s before after : List Char} (hp : piece ≠ [])
    (h : splitFirst piece s = some (before, after)) : after.length < s.length := by
  have hl := congrArg List.length (eq_append_of_splitFirst h)
  have := List.length_pos_iff.mpr hp
  simp only [List.length_append] at hl
  omega

theorem length_trimStart_le (s : List Char) : (trimStart s).length ≤ s.length :=
  (List.dropWhile_sublist isBlank).length_le

/-- What follows the item of a prolog that the text begins with, if it begins with one: a
processing instruction, a comment or a document type. -/
def afterItem (s : List Char) : Option (Except SvgFault (List Char)) :=
  if "<?".toList.isPrefixOf s then
    match splitFirst "?>".toList s with
    | none => some (.error .openInstruction)
    | some (_, after) => some (.ok after)
  else if "<!--".toList.isPrefixOf s then
    match splitFirst "-->".toList s with
    | none => some (.error .openComment)
    | some (_, after) => some (.ok after)
  else if "<!DOCTYPE".toList.isPrefixOf s || "<!doctype".toList.isPrefixOf s then
    match afterDoctype false s with
    | none => some (.error .openDoctype)
    | some after => some (.ok after)
  else none

theorem length_afterItem_lt {s after : List Char} (h : afterItem s = some (.ok after)) :
    after.length < s.length := by
  unfold afterItem at h
  split at h
  · split at h
    · cases h
    · next hs =>
      cases h
      exact length_splitFirst_lt (by decide) hs
  split at h
  · split at h
    · cases h
    · next hs =>
      cases h
      exact length_splitFirst_lt (by decide) hs
  split at h
  · split at h
    · cases h
    · next hs =>
      cases h
      exact length_afterDoctype_lt hs
  · cases h

/-- The document from its first element on. -/
def skipProlog (s : List Char) : Except SvgFault (List Char) :=
  match _h : afterItem s with
  | none => .ok s
  | some (.error fault) => .error fault
  | some (.ok after) => skipProlog (trimStart after)
termination_by s.length
decreasing_by
  have := length_afterItem_lt _h
  have := length_trimStart_le after
  omega

/-- What is left of a start tag before its `>`, in reverse, and what follows that. A `>` inside
quotes does not count. -/
def splitTag (passed : List Char) (quote : Option Char) : List Char →
    Option (List Char × List Char)
  | [] => none
  | c :: r =>
    match quote with
    | some q => splitTag (c :: passed) (if c = q then none else some q) r
    | none =>
      if c = '"' || c = '\'' then splitTag (c :: passed) (some c) r
      else if c = '>' then some (passed, r)
      else splitTag (c :: passed) none r

/-- Does the name of the tag end here? -/
def endsName : List Char → Bool
  | [] => false
  | c :: _ => isBlank c || c == '>' || c == '/'

/-- The markup between the outermost tags, exactly as it stands in the document. -/
def innerOfSvg (document : List Char) : Except SvgFault (List Char) := do
  let s ← skipProlog (trimStart (document.dropWhile (· == '\uFEFF')))
  match "<svg".toList.isPrefixOf? s with
  | none => .error .noSvg
  | some tag =>
    if !endsName tag then .error .noSvg
    else
      match splitTag [] none tag with
      | none => .error .openTag
      | some ('/' :: _, _) => .ok []
      | some (_, body) =>
        match splitLast "</svg".toList body with
        | none => .error .notClosed
        | some (inner, _) => .ok inner

/-- The markup inside an SVG document. -/
def inner (document : String) : Except SvgFault String :=
  (innerOfSvg document.toList).map String.ofList

end SvgSkeleton.Markup
