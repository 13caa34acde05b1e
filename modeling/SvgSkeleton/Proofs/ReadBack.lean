import SvgSkeleton.Proofs.Outline
import SvgSkeleton.Proofs.Xml
import SvgSkeleton.Proofs.XmlReader

/-!
What is written can be read back. A tree without markup in it, and with names that cannot be taken
for anything else, is read back from its XML as its normal form: empty texts are gone, texts that
touch are one, and an element with children has two tags. So nothing in a text or in a value is
taken for a tag, and what is written says which normal form it was.
-/

namespace SvgSkeleton

/-! ### Normal forms -/

/-- Put a node in front: text joins a text behind it, and empty text goes. -/
def Node.join : Node → List Node → List Node
  | .text s false, .text t false :: rest => .text (s ++ t) false :: rest
  | .text s false, nodes => if s = "" then nodes else .text s false :: nodes
  | node, nodes => node :: nodes

mutual

/-- The node with the normal forms of its children. An element that has children, be they empty
texts, is paired. -/
def Node.normal : Node → Node
  | .element name attrs children paired =>
    .element name attrs (Node.normalAll children) (paired || !children.isEmpty)
  | .text content raw => .text content raw

/-- The nodes without empty texts, and with one text for texts that touch. -/
def Node.normalAll : List Node → List Node
  | [] => []
  | node :: rest => node.normal.join (Node.normalAll rest)

end

def Element.normal (e : Element) : Element :=
  ⟨e.name, e.attrs, Node.normalAll e.children, e.paired || !e.children.isEmpty⟩

mutual

/-- The elements of a node and inside it, with the names of their attributes. Texts, values and the
way to write an empty element are left out. -/
def Node.elements : Node → List Node
  | .element name attrs children _ =>
    [.element name attrs.outline (Node.elementsOf children) true]
  | .text .. => []

def Node.elementsOf : List Node → List Node
  | [] => []
  | node :: rest => node.elements ++ Node.elementsOf rest

end

@[simp] lemma Node.join_element (name : String) (attrs : Attributes) (children nodes : List Node)
    (paired : Bool) : join (.element name attrs children paired) nodes =
      .element name attrs children paired :: nodes := rfl

lemma Node.join_text_element (s name : String) (attrs : Attributes) (children nodes : List Node)
    (paired : Bool) : join (.text s false) (.element name attrs children paired :: nodes) =
      if s = "" then .element name attrs children paired :: nodes
      else .text s false :: .element name attrs children paired :: nodes := rfl

@[simp] lemma Node.join_empty (nodes : List Node) : join (.text "" false) nodes = nodes := by
  unfold join
  split <;> simp_all

/-- Texts join one after the other as they do at once. -/
lemma Node.join_join_text (s t : String) (nodes : List Node) :
    join (.text s false) (join (.text t false) nodes) = join (.text (s ++ t) false) nodes := by
  by_cases ht : t = ""
  · simp [ht]
  match nodes with
  | [] => simp [join, ht]
  | .element .. :: _ => simp [join, ht]
  | .text _ true :: _ => simp [join, ht]
  | .text v false :: rest => simp [join, String.append_assoc]

lemma Node.elementsOf_join (node : Node) (nodes : List Node) :
    elementsOf (node.join nodes) = node.elements ++ elementsOf nodes := by
  unfold join
  split
  · rfl
  · split <;> rfl
  · rfl

/-- The normal form has the same elements. -/
lemma Node.elements_normal :
    (∀ node : Node, node.normal.elements = node.elements) ∧
      ∀ nodes, Node.elementsOf (Node.normalAll nodes) = Node.elementsOf nodes := by
  refine Node.normal.mutual_induct _ _ ?element ?text ?nil ?cons
  case element =>
    intro name attrs children paired ih
    rw [normal, elements, elements, ih]
  case text =>
    intro content raw
    rfl
  case nil => rfl
  case cons =>
    intro node rest hn hr
    rw [normalAll, elementsOf_join, hn, hr, elementsOf]

namespace Xml

/-- The name is not empty, and none of its characters ends it or means something in a tag. -/
def IsPlainName (s : String) : Prop := s ≠ "" ∧ ∀ c ∈ s.toList, isPlain c = true

instance (s : String) : Decidable (IsPlainName s) :=
  decidable_of_iff (s ≠ "" ∧ s.toList.all isPlain = true)
    (and_congr_right fun _ => List.all_eq_true)

mutual

/-- No text is markup already, and all names are plain. -/
def Readable : Node → Prop
  | .text _ raw => raw = false
  | .element name attrs children _ =>
    IsPlainName name ∧ (∀ n ∈ attrs.names, IsPlainName n) ∧ AllReadable children

def AllReadable : List Node → Prop
  | [] => True
  | node :: rest => Readable node ∧ AllReadable rest

end

/-! ### Characters that are escaped -/

/-- The function writes each character so that it is read back. -/
def ReadsBack (f : Char → List Char) : Prop :=
  ∀ c text, (f c).foldlM Chars.step ⟨text, none⟩ = some ⟨c :: text, none⟩

lemma readsBack_text : ReadsBack Markup.escapeTextChar := by
  intro c text
  unfold Markup.escapeTextChar
  split
  · rfl
  · rfl
  · rfl
  · next ha _ _ =>
    have ha : c ≠ '&' := ha
    simp [Chars.step, ha]

lemma readsBack_attr : ReadsBack Markup.escapeAttrChar := by
  intro c text
  unfold Markup.escapeAttrChar
  split
  · rfl
  · exact readsBack_text c text

lemma foldlM_flatMap {f : Char → List Char} (hf : ReadsBack f) (s text : List Char) :
    (s.flatMap f).foldlM Chars.step ⟨text, none⟩ = some ⟨s.reverse ++ text, none⟩ := by
  induction s generalizing text with
  | nil => rfl
  | cons c s ih =>
    rw [List.flatMap_cons, List.foldlM_append, hf]
    show (s.flatMap f).foldlM Chars.step ⟨c :: text, none⟩ = _
    rw [ih]
    simp

namespace Reader

variable {around : List Opened} {nodes : List Node} {w : List Char}

lemma run_chars (mode : Chars → Mode) {v : List Char}
    (hstep : ∀ c ∈ v, ∀ chars, step ⟨around, nodes, mode chars⟩ c =
      (chars.step c).map fun chars => ⟨around, nodes, mode chars⟩)
    {before after : Chars} (hv : v.foldlM Chars.step before = some after) :
    run ⟨around, nodes, mode before⟩ (v ++ w) = run ⟨around, nodes, mode after⟩ w := by
  induction v generalizing before with
  | nil =>
    obtain rfl := Option.some.inj hv
    rfl
  | cons c v ih =>
    obtain ⟨hc, hstep⟩ := List.forall_mem_cons.mp hstep
    rw [List.foldlM_cons] at hv
    obtain ⟨next, hn, hv⟩ := Option.bind_eq_some_iff.mp hv
    have hs : step ⟨around, nodes, mode before⟩ c = some ⟨around, nodes, mode next⟩ := by
      rw [hc, hn]
      rfl
    rw [List.cons_append, run_cons_of_step hs]
    exact ih hstep hv

/-- Text is read as it was before it was escaped. -/
lemma run_text (s : String) (text : List Char) :
    run ⟨around, nodes, .content ⟨text, none⟩⟩ ((Markup.escapeText s).toList ++ w) =
      run ⟨around, nodes, .content ⟨s.toList.reverse ++ text, none⟩⟩ w := by
  rw [Markup.escapeText, String.toList_ofList]
  refine run_chars .content (fun c hc chars => ?_) (foldlM_flatMap readsBack_text _ _)
  have hlt : c ≠ '<' := by
    rintro rfl
    exact notMem_of_writes (by decide) (writes_flatMap escapes_text _) hc
  simp only [step, if_neg hlt]

lemma quote_notMem (s : List Char) : '"' ∉ s.flatMap Markup.escapeAttrChar := by
  rw [List.mem_flatMap]
  rintro ⟨c, -, hc⟩
  unfold Markup.escapeAttrChar at hc
  split at hc
  · exact absurd hc (by decide)
  · next hq =>
    unfold Markup.escapeTextChar at hc
    split at hc
    · exact absurd hc (by decide)
    · exact absurd hc (by decide)
    · exact absurd hc (by decide)
    · exact hq (List.mem_singleton.mp hc).symm

/-- A value is read as it was before it was escaped. -/
lemma run_value (tag : StartTag) (name value : String) :
    run ⟨around, nodes, .value tag name .empty⟩ ((Markup.escapeAttr value).toList ++ '"' :: w) =
      run ⟨around, nodes, .complete { tag with attrs := (name, value) :: tag.attrs }⟩ w := by
  rw [Markup.escapeAttr, String.toList_ofList]
  refine (run_chars (.value tag name) (fun c hc chars => ?_)
    (foldlM_flatMap readsBack_attr _ [])).trans (run_cons_of_step ?_ w)
  · have hq : c ≠ '"' := by
      rintro rfl
      exact quote_notMem _ hc
    simp only [step, if_neg hq]
  · simp [step, Chars.text?]

/-! ### Names and tags -/

lemma ne_of_isPlain {c d : Char} (hc : isPlain c = true) (hd : isPlain d = false) : c ≠ d := by
  rintro rfl
  rw [hc] at hd
  cases hd

lemma run_name (mode : List Char → Mode) {v : List Char} (hv : ∀ c ∈ v, isPlain c = true)
    (hstep : ∀ c name, isPlain c = true →
      step ⟨around, nodes, mode name⟩ c = some ⟨around, nodes, mode (c :: name)⟩)
    (name : List Char) :
    run ⟨around, nodes, mode name⟩ (v ++ w) = run ⟨around, nodes, mode (v.reverse ++ name)⟩ w := by
  induction v generalizing name with
  | nil => rfl
  | cons c v ih =>
    obtain ⟨hc, hv⟩ := List.forall_mem_cons.mp hv
    rw [List.cons_append, run_cons_of_step (hstep c name hc), ih hv]
    simp

lemma exists_cons_of_isPlainName {s : String} (h : IsPlainName s) :
    ∃ c r, s.toList = c :: r ∧ isPlain c = true ∧ ∀ d ∈ r, isPlain d = true := by
  obtain ⟨hne, hs⟩ := h
  cases hl : s.toList with
  | nil => exact absurd (String.toList_eq_nil_iff.mp hl) hne
  | cons c r =>
    rw [hl] at hs
    exact ⟨c, r, rfl, List.forall_mem_cons.mp hs⟩

/-- An attribute is read behind another one or behind the name of the tag. -/
lemma run_attr {tag : StartTag} {a : String × String} (ha : IsPlainName a.1) :
    run ⟨around, nodes, .complete tag⟩
        (' ' :: a.1.toList ++ '=' :: '"' :: (Markup.escapeAttr a.2).toList ++ ['"'] ++ w) =
      run ⟨around, nodes, .complete { tag with attrs := a :: tag.attrs }⟩ w := by
  obtain ⟨name, value⟩ := a
  obtain ⟨c, r, hs, hc, hr⟩ := exists_cons_of_isPlainName ha
  have hname : String.ofList (r.reverse ++ [c]).reverse = name := by
    rw [← String.ofList_toList (s := name), hs]
    simp
  calc run ⟨around, nodes, .complete tag⟩
        (' ' :: name.toList ++ '=' :: '"' :: (Markup.escapeAttr value).toList ++ ['"'] ++ w)
      = run ⟨around, nodes, .gap tag⟩
          (c :: (r ++ '=' :: '"' :: ((Markup.escapeAttr value).toList ++ '"' :: w))) := by
        rw [hs]
        simp only [List.cons_append, List.append_assoc, List.nil_append]
        exact run_cons_of_step rfl _
    _ = run ⟨around, nodes, .attrName tag [c]⟩
          (r ++ '=' :: '"' :: ((Markup.escapeAttr value).toList ++ '"' :: w)) :=
        run_cons_of_step (by simp [step, hc]) _
    _ = run ⟨around, nodes, .attrName tag (r.reverse ++ [c])⟩
          ('=' :: '"' :: ((Markup.escapeAttr value).toList ++ '"' :: w)) :=
        run_name (.attrName tag) hr (fun d name hd => by simp [step, hd]) [c]
    _ = run ⟨around, nodes, .equals tag name⟩
          ('"' :: ((Markup.escapeAttr value).toList ++ '"' :: w)) := by
        rw [← hname]
        exact run_cons_of_step rfl _
    _ = run ⟨around, nodes, .value tag name .empty⟩
          ((Markup.escapeAttr value).toList ++ '"' :: w) :=
        run_cons_of_step rfl _
    _ = run ⟨around, nodes, .complete { tag with attrs := (name, value) :: tag.attrs }⟩ w :=
        run_value tag name value

lemma run_attrs {attrs : List (String × String)} (h : ∀ n ∈ attrs.map (·.1), IsPlainName n)
    (tag : StartTag) :
    run ⟨around, nodes, .complete tag⟩ ((Markup.printAttrs attrs).toList ++ w) =
      run ⟨around, nodes, .complete { tag with attrs := attrs.reverse ++ tag.attrs }⟩ w := by
  rw [toList_printAttrs]
  induction attrs generalizing tag with
  | nil => rfl
  | cons a rest ih =>
    obtain ⟨ha, h⟩ := List.forall_mem_cons.mp h
    rw [List.flatMap_cons, List.append_assoc, run_attr ha, ih h]
    simp

/-- What ends a name is read as it is behind an attribute. -/
lemma run_startName_eq {c : Char} (hc : isPlain c = false) (name : List Char) :
    run ⟨around, nodes, .startName name⟩ (c :: w) =
      run ⟨around, nodes, .complete ⟨String.ofList name.reverse, []⟩⟩ (c :: w) := by
  simp only [run_cons, step, hc, Bool.false_eq_true, if_false]
  rfl

/-- A start tag is read up to its last character, which ends no name. -/
lemma run_startTag {name : String} (hn : IsPlainName name) {attrs : List (String × String)}
    (h : ∀ n ∈ attrs.map (·.1), IsPlainName n) {c : Char} (hc : isPlain c = false) :
    run ⟨around, nodes, .tag⟩ (name.toList ++ (Markup.printAttrs attrs).toList ++ c :: w) =
      run ⟨around, nodes, .complete ⟨name, attrs.reverse⟩⟩ (c :: w) := by
  obtain ⟨d, r, hs, hd, hr⟩ := exists_cons_of_isPlainName hn
  have hname : String.ofList (r.reverse ++ [d]).reverse = name := by
    rw [← String.ofList_toList (s := name), hs]
    simp
  have hslash : d ≠ '/' := ne_of_isPlain hd (by decide)
  obtain ⟨e, v, hv, he⟩ : ∃ e v, (Markup.printAttrs attrs).toList ++ c :: w = e :: v ∧
      isPlain e = false := by
    rw [toList_printAttrs]
    cases attrs with
    | nil => exact ⟨c, w, rfl, hc⟩
    | cons a rest => exact ⟨' ', _, rfl, by decide⟩
  calc run ⟨around, nodes, .tag⟩ (name.toList ++ (Markup.printAttrs attrs).toList ++ c :: w)
      = run ⟨around, nodes, .startName [d]⟩ (r ++ e :: v) := by
        rw [List.append_assoc, hs, hv]
        exact run_cons_of_step (by simp [step, hslash, hd]) _
    _ = run ⟨around, nodes, .startName (r.reverse ++ [d])⟩ (e :: v) :=
        run_name .startName hr (fun x name hx => by simp [step, hx]) [d]
    _ = run ⟨around, nodes, .complete ⟨name, []⟩⟩ ((Markup.printAttrs attrs).toList ++ c :: w) := by
        rw [run_startName_eq he, hname, hv]
    _ = run ⟨around, nodes, .complete ⟨name, attrs.reverse⟩⟩ (c :: w) := by
        rw [run_attrs h]
        simp

/-- An end tag closes the element that it names. -/
lemma run_endTag {name : String} (hn : IsPlainName name) (attrs : List (String × String))
    (before : List Node) :
    run ⟨⟨⟨name, attrs⟩, before⟩ :: around, nodes, .tag⟩ ('/' :: (name.toList ++ '>' :: w)) =
      run ⟨around, .element name ⟨attrs.reverse⟩ nodes.reverse true :: before, .content .empty⟩
        w := by
  have hgt : isPlain '>' = false := by decide
  rw [run_cons_of_step (s := ⟨_ :: around, nodes, .endName []⟩) rfl,
    run_name .endName hn.2 (fun x name hx => by simp [step, hx])]
  refine run_cons_of_step ?_ w
  simp [step, hgt, close, StartTag.attributes]

end Reader

/-! ### Nodes -/

/-- The nodes read so far between two tags and the text behind them, both latest first. -/
structure Level where
  nodes : List Node
  text : List Char

namespace Level

def flushed (l : Level) : List Node := Reader.flush (String.ofList l.text.reverse) l.nodes

/-- What has been read when one more node is. -/
def add (l : Level) : Node → Level
  | .text s _ => ⟨l.nodes, s.toList.reverse ++ l.text⟩
  | node => ⟨node.normal :: l.flushed, []⟩

lemma add_element (l : Level) (name : String) (attrs : Attributes) (children : List Node)
    (paired : Bool) : l.add (.element name attrs children paired) =
      ⟨(Node.element name attrs children paired).normal :: l.flushed, []⟩ := rfl

/-- The reader in the content of an element. -/
def reader (around : List Opened) (l : Level) : Reader :=
  ⟨around, l.nodes, .content ⟨l.text, none⟩⟩

/-- Nodes are read as their normal forms, behind what has been read. -/
lemma flushed_foldl_add {nodes : List Node} (h : AllReadable nodes) (l : Level) :
    (nodes.foldl add l).flushed =
      ((Node.text (String.ofList l.text.reverse) false).join (Node.normalAll nodes)).reverse ++
        l.nodes := by
  induction nodes generalizing l with
  | nil =>
    rw [List.foldl_nil, flushed, Reader.flush, Node.normalAll, Node.join]
    · split <;> rfl
    · simp
  | cons node rest ih =>
    rw [AllReadable] at h
    rw [List.foldl_cons, ih h.2, Node.normalAll]
    cases node with
    | text s raw =>
      obtain rfl : raw = false := by simpa [Readable] using h.1
      rw [Node.normal, Node.join_join_text]
      simp [add]
    | element name attrs children paired =>
      rw [Node.normal, Node.join_element, Node.join_text_element]
      by_cases ht : String.ofList l.text.reverse = ""
      · simp [add, flushed, Reader.flush, ht, Node.normal]
      · simp [add, flushed, Reader.flush, ht, Node.normal]

end Level

open Level (reader)

lemma run_reader_lt {around : List Opened} {l : Level} {w : List Char} :
    (reader around l).run ('<' :: w) = Reader.run ⟨around, l.flushed, .tag⟩ w :=
  Reader.run_cons_of_step rfl w

/-- What is written for a node is read as the node. -/
lemma run_print :
    (∀ node, Readable node → ∀ around l w, (reader around l).run ((Markup.print node).toList ++ w) =
      (reader around (l.add node)).run w) ∧
    ∀ nodes, AllReadable nodes → ∀ around l w,
      (reader around l).run ((Markup.printAll nodes).toList ++ w) =
        (reader around (nodes.foldl Level.add l)).run w := by
  refine Markup.print.mutual_induct _ _ ?raw ?text ?single ?pair ?nil ?cons
  case raw =>
    intro content h
    rw [Readable] at h
    cases h
  case text =>
    intro content raw hraw h around l w
    rw [Markup.print, if_neg hraw]
    exact Reader.run_text content l.text
  case single =>
    intro name attrs children paired hs h around l w
    rw [Readable] at h
    obtain ⟨hn, ha, -⟩ := h
    obtain ⟨rfl, rfl⟩ : children = [] ∧ paired = false := by simpa using hs
    have hnormal : (Node.element name attrs [] false).normal = .element name attrs [] false := rfl
    calc (reader around l).run ((Markup.print (.element name attrs [] false)).toList ++ w)
        = (reader around l).run
            ('<' :: (name.toList ++ (Markup.printAttrs attrs.toList).toList ++
              '/' :: '>' :: w)) := by
          rw [Markup.print, if_pos hs]
          simp
      _ = Reader.run ⟨around, l.flushed, .complete ⟨name, attrs.toList.reverse⟩⟩
            ('/' :: '>' :: w) := by
          rw [run_reader_lt]
          exact Reader.run_startTag hn ha (by decide)
      _ = (reader around (l.add (.element name attrs [] false))).run w := by
          rw [Reader.run_cons_of_step rfl, Reader.run_cons_of_step rfl, Level.add_element, hnormal]
          simp [reader, StartTag.attributes, Chars.empty]
  case pair =>
    intro name attrs children paired hp ih h around l w
    rw [Readable] at h
    obtain ⟨hn, ha, hc⟩ := h
    have hpaired : (paired || !children.isEmpty) = true := by
      cases paired <;> cases children <;> simp_all
    have hin := Level.flushed_foldl_add hc ⟨[], []⟩
    let inner : Opened := ⟨⟨name, attrs.toList.reverse⟩, l.flushed⟩
    calc (reader around l).run ((Markup.print (.element name attrs children paired)).toList ++ w)
        = (reader around l).run
            ('<' :: (name.toList ++ (Markup.printAttrs attrs.toList).toList ++ '>' ::
              ((Markup.printAll children).toList ++ '<' :: '/' :: (name.toList ++ '>' :: w)))) := by
          rw [Markup.print, if_neg hp]
          simp
      _ = Reader.run ⟨around, l.flushed, .complete ⟨name, attrs.toList.reverse⟩⟩
            ('>' ::
              ((Markup.printAll children).toList ++ '<' :: '/' :: (name.toList ++ '>' :: w))) := by
          rw [run_reader_lt]
          exact Reader.run_startTag hn ha (by decide)
      _ = (reader (inner :: around) ⟨[], []⟩).run
            ((Markup.printAll children).toList ++ '<' :: '/' :: (name.toList ++ '>' :: w)) :=
          Reader.run_cons_of_step rfl _
      _ = Reader.run ⟨inner :: around, (Node.normalAll children).reverse, .tag⟩
            ('/' :: (name.toList ++ '>' :: w)) := by
          rw [ih hc, run_reader_lt, hin]
          simp
      _ = (reader around (l.add (.element name attrs children paired))).run w := by
          rw [Reader.run_endTag hn, Level.add_element, Node.normal, hpaired]
          simp [reader, Chars.empty]
  case nil =>
    intro _ around l w
    rfl
  case cons =>
    intro node rest hn hr h around l w
    rw [AllReadable] at h
    rw [Markup.printAll, String.toList_append, List.append_assoc, hn h.1, hr h.2]
    rfl

/-- **The XML of a readable tree is read back as the tree's normal form**, which has the same
elements; and trees of the same XML have the same normal form. -/
theorem read_printElement {e : Element} (h : Readable e.toNode) :
    read (Markup.printElement e) = some e.normal ∧
      e.normal.toNode.elements = e.toNode.elements ∧
      ∀ other : Element, Readable other.toNode →
        Markup.printElement other = Markup.printElement e → other.normal = e.normal := by
  have hread {e : Element} (h : Readable e.toNode) :
      read (Markup.printElement e) = some e.normal := by
    have hrun := run_print.1 _ h [] ⟨[], []⟩ []
    rw [List.append_nil, Reader.run_nil] at hrun
    rw [read, Markup.printElement, show Reader.start = reader [] ⟨[], []⟩ from rfl, hrun]
    rfl
  refine ⟨hread h, Node.elements_normal.1 e.toNode, fun other ho hsame => ?_⟩
  exact Option.some.inj ((hread ho).symm.trans (hsame ▸ hread h))

/-- An element with marks in its value and in texts that touch, and with an empty text inside. -/
def marked : Element :=
  ⟨"svg", ⟨[("id", "a\"<&>")]⟩,
    [.text "" false, .text "x<" false, .element "g" ⟨[]⟩ [.text "" false] false, .text "y" false,
      .text "&z" false], false⟩

theorem read_marked :
    Readable marked.toNode ∧
      Markup.printElement marked =
        "<svg id=\"a&quot;&lt;&amp;&gt;\">x&lt;<g></g>y&amp;z</svg>" ∧
      read "<svg id=\"a&quot;&lt;&amp;&gt;\">x&lt;<g></g>y&amp;z</svg>" =
        some ⟨"svg", ⟨[("id", "a\"<&>")]⟩,
          [.text "x<" false, .element "g" ⟨[]⟩ [] true, .text "y&z" false], true⟩ := by
  have hr : Readable marked.toNode := by
    simp only [marked, Element.toNode, Readable, AllReadable, Attributes.names]
    decide
  have hp : Markup.printElement marked =
      "<svg id=\"a&quot;&lt;&amp;&gt;\">x&lt;<g></g>y&amp;z</svg>" := by decide +kernel
  refine ⟨hr, hp, ?_⟩
  rw [← hp, (read_printElement hr).1]
  rfl

end Xml
end SvgSkeleton
