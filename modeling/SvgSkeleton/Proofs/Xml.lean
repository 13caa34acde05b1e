import Mathlib.Data.List.Basic
import SvgSkeleton.Markup.Element

/-!
XML, as far as pictures use it: a tree of elements with attributes in double quotes and text
between them. What stands for markup is written as a reference in both, and `>` is too. Names and
characters are those of XML 1.0. Blanks in attribute values are read as they are written.
-/

namespace SvgSkeleton

namespace Xml

/-- Is the character in one of the ranges of code points? -/
def inRanges (ranges : List (Nat × Nat)) (c : Char) : Bool :=
  ranges.any fun r => r.1 ≤ c.toNat && c.toNat ≤ r.2

/-- A character that a document may have. -/
def isChar (c : Char) : Bool :=
  inRanges [(0x9, 0xA), (0xD, 0xD), (0x20, 0xD7FF), (0xE000, 0xFFFD), (0x10000, 0x10FFFF)] c

/-- A character that a name may start with. -/
def isNameStart (c : Char) : Bool :=
  c = ':' || c = '_' || c.isAlpha ||
    inRanges [(0xC0, 0xD6), (0xD8, 0xF6), (0xF8, 0x2FF), (0x370, 0x37D), (0x37F, 0x1FFF),
      (0x200C, 0x200D), (0x2070, 0x218F), (0x2C00, 0x2FEF), (0x3001, 0xD7FF), (0xF900, 0xFDCF),
      (0xFDF0, 0xFFFD), (0x10000, 0xEFFFF)] c

def isNameChar (c : Char) : Bool :=
  isNameStart c || c = '-' || c = '.' || c.isDigit ||
    inRanges [(0xB7, 0xB7), (0x300, 0x36F), (0x203F, 0x2040)] c

/-- A name of an element or an attribute. -/
def isName (s : String) : Bool :=
  match s.toList with
  | [] => false
  | c :: r => isNameStart c && r.all isNameChar

/-- The characters that have references, and the names of those. -/
def references : List (Char × String) :=
  [('&', "amp"), ('<', "lt"), ('>', "gt"), ('"', "quot"), ('\'', "apos")]

/-- How characters are written where the marks stand for something else. -/
inductive Writes (marks : List Char) : List Char → List Char → Prop
  | nil : Writes marks [] []
  | plain {c : Char} {s w : List Char} (hc : c ∉ marks) (h : Writes marks s w) :
      Writes marks (c :: s) (c :: w)
  | reference {c : Char} {name : String} {s w : List Char} (hr : (c, name) ∈ references)
      (h : Writes marks s w) : Writes marks (c :: s) ('&' :: name.toList ++ ';' :: w)

def textMarks : List Char := ['&', '<', '>']

def attrMarks : List Char := '"' :: textMarks

/-- How attributes are written. -/
inductive WritesAttrs : List (String × String) → List Char → Prop
  | nil : WritesAttrs [] []
  | cons {name value : String} {rest : List (String × String)} {v w : List Char}
      (hn : isName name = true) (hv : Writes attrMarks value.toList v) (h : WritesAttrs rest w) :
      WritesAttrs ((name, value) :: rest) (' ' :: name.toList ++ '=' :: '"' :: v ++ '"' :: w)

mutual

/-- The text is that of the node. -/
inductive Reads : Node → List Char → Prop
  | text {content : String} {w : List Char} (h : Writes textMarks content.toList w) :
      Reads (.text content false) w
  | single {name : String} {attrs : Attributes} {paired : Bool} {a : List Char}
      (hn : isName name = true) (hd : attrs.names.Nodup) (ha : WritesAttrs attrs.toList a) :
      Reads (.element name attrs [] paired) ('<' :: name.toList ++ a ++ ['/', '>'])
  | pair {name : String} {attrs : Attributes} {children : List Node} {paired : Bool}
      {a w : List Char} (hn : isName name = true) (hd : attrs.names.Nodup)
      (ha : WritesAttrs attrs.toList a) (hc : ReadsAll children w) :
      Reads (.element name attrs children paired)
        ('<' :: name.toList ++ a ++ '>' :: w ++ '<' :: '/' :: name.toList ++ ['>'])

inductive ReadsAll : List Node → List Char → Prop
  | nil : ReadsAll [] []
  | cons {node : Node} {nodes : List Node} {v w : List Char} (hn : Reads node v)
      (hr : ReadsAll nodes w) : ReadsAll (node :: nodes) (v ++ w)

end

/-- The text is a well-formed document with the element as its tree. -/
def IsDocument (e : Element) (text : String) : Prop :=
  Reads e.toNode text.toList ∧ ∀ c ∈ text.toList, isChar c = true

mutual

/-- Elements and attributes have names, which do not occur twice in an element, and no text is
markup already. -/
def Proper : Node → Prop
  | .text _ raw => raw = false
  | .element name attrs children _ =>
    isName name = true ∧ attrs.names.Nodup ∧ (∀ n ∈ attrs.names, isName n = true) ∧
      AllProper children

def AllProper : List Node → Prop
  | [] => True
  | node :: rest => Proper node ∧ AllProper rest

end

/-! ### Only what is proper has a text -/

lemma isName_of_writesAttrs {attrs : List (String × String)} {w : List Char}
    (h : WritesAttrs attrs w) : ∀ n ∈ attrs.map (·.1), isName n = true := by
  induction h with
  | nil => simp
  | cons hn _ _ ih => exact List.forall_mem_cons.mpr ⟨hn, ih⟩

mutual

theorem proper_of_reads {node : Node} {w : List Char} : Reads node w → Proper node
  | .text _ => by rw [Proper]
  | .single hn hd ha => by
    rw [Proper, AllProper]
    exact ⟨hn, hd, isName_of_writesAttrs ha, trivial⟩
  | .pair hn hd ha hc => by
    rw [Proper]
    exact ⟨hn, hd, isName_of_writesAttrs ha, allProper_of_readsAll hc⟩
termination_by structural h => h

theorem allProper_of_readsAll {nodes : List Node} {w : List Char} :
    ReadsAll nodes w → AllProper nodes
  | .nil => by rw [AllProper]; trivial
  | .cons hn hr => by
    rw [AllProper]
    exact ⟨proper_of_reads hn, allProper_of_readsAll hr⟩

end

/-! ### What is printed for a proper node is its text -/

/-- The function writes what the marks stand for as references and all else as it is. -/
def Escapes (marks : List Char) (f : Char → List Char) : Prop :=
  ∀ c, (c ∉ marks ∧ f c = [c]) ∨
    ∃ name, (c, name) ∈ references ∧ f c = '&' :: name.toList ++ [';']

lemma writes_flatMap {marks : List Char} {f : Char → List Char} (hf : Escapes marks f)
    (s : List Char) : Writes marks s (s.flatMap f) := by
  induction s with
  | nil => exact .nil
  | cons c s ih =>
    rw [List.flatMap_cons]
    rcases hf c with ⟨hc, h⟩ | ⟨name, hr, h⟩
    · rw [h]
      exact .plain hc ih
    · rw [h, List.append_assoc]
      exact .reference hr ih

lemma escapes_text : Escapes textMarks Markup.escapeTextChar := by
  intro c
  by_cases hc : c ∈ textMarks
  · right
    simp only [textMarks, List.mem_cons, List.not_mem_nil, or_false] at hc
    rcases hc with rfl | rfl | rfl
    · exact ⟨"amp", by decide, rfl⟩
    · exact ⟨"lt", by decide, rfl⟩
    · exact ⟨"gt", by decide, rfl⟩
  · refine .inl ⟨hc, ?_⟩
    unfold Markup.escapeTextChar
    split
    · exact absurd (by decide) hc
    · exact absurd (by decide) hc
    · exact absurd (by decide) hc
    · rfl

lemma escapes_attr : Escapes attrMarks Markup.escapeAttrChar := by
  intro c
  by_cases hq : c = '"'
  · subst hq
    exact .inr ⟨"quot", by decide, rfl⟩
  · have h : Markup.escapeAttrChar c = Markup.escapeTextChar c := by
      unfold Markup.escapeAttrChar
      split
      · exact absurd rfl hq
      · rfl
    rw [h, attrMarks, List.mem_cons, not_or]
    exact (escapes_text c).imp (fun hc => ⟨⟨hq, hc.1⟩, hc.2⟩) id

lemma toList_printAttrs (attrs : List (String × String)) :
    (Markup.printAttrs attrs).toList =
      attrs.flatMap fun a =>
        ' ' :: a.1.toList ++ '=' :: '"' :: (Markup.escapeAttr a.2).toList ++ ['"'] := by
  have h (out : String) :
      (attrs.foldl (fun out a => out ++ " " ++ a.1 ++ "=\"" ++ Markup.escapeAttr a.2 ++ "\"")
        out).toList = out.toList ++ attrs.flatMap fun a =>
          ' ' :: a.1.toList ++ '=' :: '"' :: (Markup.escapeAttr a.2).toList ++ ['"'] := by
    induction attrs generalizing out with
    | nil => simp
    | cons a rest ih =>
      rw [List.foldl_cons, ih, List.flatMap_cons]
      simp
  exact h ""

lemma writesAttrs_print {attrs : List (String × String)}
    (h : ∀ n ∈ attrs.map (·.1), isName n = true) :
    WritesAttrs attrs (Markup.printAttrs attrs).toList := by
  rw [toList_printAttrs]
  induction attrs with
  | nil => exact .nil
  | cons a rest ih =>
    obtain ⟨hn, h⟩ := List.forall_mem_cons.mp h
    have hv : Writes attrMarks a.2.toList (Markup.escapeAttr a.2).toList := by
      rw [Markup.escapeAttr, String.toList_ofList]
      exact writes_flatMap escapes_attr _
    have hw := WritesAttrs.cons hn hv (ih h)
    rw [List.flatMap_cons]
    simpa using hw

/-- What is printed for a proper node is its text. -/
lemma reads_print :
    (∀ node, Proper node → Reads node (Markup.print node).toList) ∧
      ∀ nodes, AllProper nodes → ReadsAll nodes (Markup.printAll nodes).toList := by
  refine Markup.print.mutual_induct _ _ ?raw ?text ?single ?pair ?nil ?cons
  case raw =>
    intro content h
    rw [Proper] at h
    cases h
  case text =>
    intro content raw hraw h
    rw [Proper] at h
    subst h
    rw [Markup.print, if_neg hraw, Markup.escapeText, String.toList_ofList]
    exact .text (writes_flatMap escapes_text _)
  case single =>
    intro name attrs children paired hs h
    rw [Proper] at h
    obtain ⟨hn, hd, ha, -⟩ := h
    obtain rfl : children = [] := by simp_all
    have hr : Reads (.element name attrs [] paired) _ := .single hn hd (writesAttrs_print ha)
    rw [Markup.print, if_pos hs]
    simpa using hr
  case pair =>
    intro name attrs children paired hp ih h
    rw [Proper] at h
    obtain ⟨hn, hd, ha, hc⟩ := h
    have hr : Reads (.element name attrs children paired) _ :=
      .pair hn hd (writesAttrs_print ha) (ih hc)
    rw [Markup.print, if_neg hp]
    simpa using hr
  case nil => exact fun _ => .nil
  case cons =>
    intro node rest hn hr h
    rw [AllProper] at h
    rw [Markup.printAll, String.toList_append]
    exact .cons (hn h.1) (hr h.2)

/-- **The XML of a tree is a well-formed document of that tree exactly if the tree is proper and has
only characters of XML.** -/
theorem isDocument_print_iff {e : Element} :
    IsDocument e (Markup.printElement e) ↔
      Proper e.toNode ∧ ∀ c ∈ (Markup.printElement e).toList, isChar c = true :=
  and_congr_left fun _ => ⟨proper_of_reads, reads_print.1 _⟩

/-! ### Where tags open -/

/-- Behind every `<` comes a slash or the start of a name. -/
def TagsOpen (w : List Char) : Prop :=
  ∀ a b, w = a ++ '<' :: b → ∃ c r, b = c :: r ∧ (c = '/' ∨ isNameStart c = true)

lemma tagsOpen_append {v w : List Char} (hv : TagsOpen v) (hw : TagsOpen w) :
    TagsOpen (v ++ w) := by
  intro a b h
  rcases List.append_eq_append_iff.mp h with ⟨x, rfl, hx⟩ | ⟨x, rfl, hx⟩
  · exact hw x b hx
  · cases x with
    | nil => exact hw [] b hx.symm
    | cons d x =>
      obtain ⟨rfl, rfl⟩ := List.cons.inj hx
      obtain ⟨c, r, rfl, hc⟩ := hv a x rfl
      exact ⟨c, r ++ w, rfl, hc⟩

lemma tagsOpen_of_notMem {w : List Char} (h : '<' ∉ w) : TagsOpen w := by
  rintro a b rfl
  exact absurd (by simp) h

lemma tagsOpen_cons {c : Char} {r : List Char} (hc : c = '/' ∨ isNameStart c = true)
    (hr : '<' ∉ c :: r) : TagsOpen ('<' :: c :: r) := by
  intro a b h
  cases a with
  | nil =>
    obtain ⟨-, rfl⟩ := List.cons.inj h
    exact ⟨c, r, rfl, hc⟩
  | cons d a =>
    obtain ⟨-, h⟩ := List.cons.inj h
    exact absurd (by simp [h]) hr

lemma isName_iff {s : String} :
    isName s = true ↔ ∃ c r, s.toList = c :: r ∧ isNameStart c = true ∧
      ∀ d ∈ r, isNameChar d = true := by
  unfold isName
  cases s.toList with
  | nil => simp
  | cons c r => simp

lemma notMem_of_isName {s : String} {d : Char} (h : isName s = true)
    (hd : isNameChar d = false) : d ∉ s.toList := by
  obtain ⟨c, r, hs, hc, hr⟩ := isName_iff.mp h
  rw [hs, List.mem_cons, not_or]
  refine ⟨?_, fun hm => absurd ((hr _ hm).symm.trans hd) (by decide)⟩
  rintro rfl
  simp [isNameChar, hc] at hd

lemma notMem_of_writes {marks s w : List Char} (hm : '<' ∈ marks) (h : Writes marks s w) :
    '<' ∉ w := by
  have href : ∀ r ∈ references, '<' ∉ r.2.toList := by decide
  induction h with
  | nil => exact List.not_mem_nil
  | plain hc _ ih =>
    rw [List.mem_cons, not_or]
    refine ⟨?_, ih⟩
    rintro rfl
    exact hc hm
  | reference hr _ ih =>
    have := href _ hr
    simp_all

lemma notMem_of_writesAttrs {attrs : List (String × String)} {w : List Char}
    (h : WritesAttrs attrs w) : '<' ∉ w := by
  induction h with
  | nil => exact List.not_mem_nil
  | cons hn hv _ ih =>
    have hn := notMem_of_isName (d := '<') hn (by decide)
    have hv := notMem_of_writes (by decide) hv
    simp_all

lemma tagsOpen_name {s : String} (h : isName s = true) : TagsOpen ('<' :: s.toList) := by
  obtain ⟨c, r, hs, hc, -⟩ := isName_iff.mp h
  have hmem := notMem_of_isName (d := '<') h (by decide)
  rw [hs] at hmem ⊢
  exact tagsOpen_cons (.inr hc) hmem

lemma tagsOpen_slash_name {s : String} (h : isName s = true) :
    TagsOpen ('<' :: '/' :: s.toList) :=
  tagsOpen_cons (.inl rfl) (by simpa using notMem_of_isName (d := '<') h (by decide))

mutual

theorem tagsOpen_of_reads {node : Node} {w : List Char} : Reads node w → TagsOpen w
  | .text h => tagsOpen_of_notMem (notMem_of_writes (by decide) h)
  | .single hn _ ha =>
    tagsOpen_append (tagsOpen_append (tagsOpen_name hn)
      (tagsOpen_of_notMem (notMem_of_writesAttrs ha))) (tagsOpen_of_notMem (by decide))
  | .pair hn _ ha hc => by
    have hopen := tagsOpen_append (tagsOpen_name hn)
      (tagsOpen_of_notMem (notMem_of_writesAttrs ha))
    have hgt : TagsOpen ['>'] := tagsOpen_of_notMem (by decide)
    have hin := tagsOpen_append hgt (tagsOpen_of_readsAll hc)
    exact tagsOpen_append (tagsOpen_append (tagsOpen_append hopen hin) (tagsOpen_slash_name hn)) hgt
termination_by structural h => h

theorem tagsOpen_of_readsAll {nodes : List Node} {w : List Char} : ReadsAll nodes w → TagsOpen w
  | .nil => tagsOpen_of_notMem List.not_mem_nil
  | .cons hn hr => tagsOpen_append (tagsOpen_of_reads hn) (tagsOpen_of_readsAll hr)

end

end Xml
end SvgSkeleton
