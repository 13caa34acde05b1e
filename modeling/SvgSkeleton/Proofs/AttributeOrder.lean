import SvgSkeleton.Proofs.Picture
import SvgSkeleton.Store

/-!
The order of attributes. An element has the attributes that its tag declares, each once and in the
order of the declarations. The name space of a picture goes in front of them if it is not declared.
The address of an image goes in front of them in any case: one that is declared loses its place.
-/

namespace SvgSkeleton

/-- The declared names, each once, in the order of the declarations. -/
def Bindings.declared (b : Bindings) : List String := (b.map (·.1)).eraseDups

/-- The names with a further one in front, unless it is among them. -/
def behind (own : String) (names : List String) : List String :=
  if own ∈ names then names else own :: names

/-- A name that is put in front of all others is where it should be, unless it was declared behind
another one. -/
lemma cons_erase_eq_behind_iff {own : String} {names : List String} :
    own :: names.erase own = behind own names ↔ (own ∈ names → names.head? = some own) := by
  unfold behind
  split
  · next hm =>
    cases names with
    | nil => cases hm
    | cons first rest =>
      by_cases hf : first = own
      · subst hf
        simp
      · have hr : own ∈ rest := (List.mem_cons.mp hm).resolve_left (Ne.symm hf)
        simp [hf, hr, Ne.symm hf]
  · next hm => simp [hm]

namespace Resolve

open Manifest (Tag Root Loaded)

section

variable {env : Setting} {folder : String} {vars attrs : Bindings} {out : Attributes}

lemma Filled.names_eq (h : Filled vars attrs out) : out.names = attrs.declared := by
  obtain ⟨pairs, hp, rfl⟩ := h
  have hfst : pairs.map (·.1) = attrs.map (·.1) := by
    induction hp with
    | nil => rfl
    | cons ha _ ih =>
      rw [List.map_cons, List.map_cons, ih]
      cases ha <;> rfl
  rw [Attributes.names_ofList, hfst, Bindings.declared]

/-- The element that stands for a tag has the name and the attributes of the tag, in their order. -/
def Ordered (env : Setting) (folder : String) : Tag → Node → Prop
  | .container path, .element name out _ _ =>
    ∃ nested, Leads env folder path nested ∧ name = "g" ∧ out.names = nested.root.attrs.declared
  | .image _ _ attrs _ _, .element name out _ _ =>
    name = "image" ∧ out.names = "href" :: attrs.declared.erase "href" ∧
      (out.names = behind "href" attrs.declared ↔
        ("href" ∈ attrs.declared → attrs.declared.head? = some "href"))
  | .font _ attrs, .element name out _ _ => name = "defs" ∧ out.names = attrs.declared
  | .nestedSvg _ attrs, .element name out _ _ => name = "g" ∧ out.names = attrs.declared
  | .generic tagName attrs _ _, .element name out _ _ =>
    name = tagName ∧ out.names = attrs.declared
  | .text _ raw, .text _ raw' => raw = raw'
  | _, _ => False

lemma TagBecomes.ordered {t : Tag} {node : Node} (h : TagBecomes env folder vars t node) :
    Ordered env folder t node := by
  cases h with
  | container hm hr =>
    obtain ⟨ha, -⟩ := hr
    exact ⟨_, hm, rfl, by rw [Element.attrs_ofChildren, ha.names_eq]⟩
  | image _ _ ha _ =>
    have hn := ha.names_eq
    unfold Attributes.names at hn
    rw [Element.toNode, Ordered, Element.attrs_ofChildren,
      Attributes.names_setAll_set ha.nodup_names, hn]
    exact ⟨Element.name_ofChildren, rfl, cons_erase_eq_behind_iff⟩
  | font _ ha => exact ⟨rfl, ha.names_eq⟩
  | nestedSvg _ ha => exact ⟨rfl, ha.names_eq⟩
  | raw => rfl
  | text _ => rfl
  | generic ha _ => exact ⟨Element.name_ofChildren, by rw [Element.attrs_ofChildren, ha.names_eq]⟩

end

/-- **The attributes of every element of a picture are those of its tag, each once and in the order
in which the tag declares them**, behind one that is put in; except that an image loses the order
exactly if it declares its address behind another attribute. -/
theorem document_attribute_order {env : Setting} {m : Loaded} {globals : Bindings} {stats : Stats}
    {svg : Element} (h : ((document env m globals).start stats).1 = .ok svg) :
    svg.attrs.names = behind "xmlns" m.root.attrs.declared ∧
      ∀ folder tags nodes, Shown env m svg.children folder tags nodes →
        List.Forall₂ (Ordered env folder) tags nodes := by
  rw [Run.start_fst] at h
  obtain ⟨made, hmade, rfl⟩ := becomes_of_document h
  refine ⟨?_, fun folder tags nodes hs => ?_⟩
  · obtain ⟨ha, -⟩ := hmade
    show (Attributes.setDefaultFirst _ _ _).names = _
    rw [Attributes.names_setDefaultFirst, Element.attrs_ofChildren, ha.names_eq, behind]
  · obtain ⟨vars, hts⟩ := exists_tagsBecome hmade hs
    exact hts.forall₂.imp fun t node ht => ht.ordered

/-- Files with an image. -/
def dotFile : MemoryFiles := .ofList [("dot.png", "x".toUTF8)]

/-- A manifest that shows the image with these attributes. -/
def showingDot (attrs : Bindings) : Loaded :=
  ⟨⟨[("width", .text "5"), ("height", .text "5")], [], some [.image "dot.png" none attrs [] none]⟩,
    "", "collagen.json", .plain, 0⟩

lemma exists_element_of_ordered {env : Setting} {folder path : String} {kind : Option String}
    {attrs vars : Bindings} {kids : Option (List Tag)} {nodes : List Node}
    (h : List.Forall₂ (Ordered env folder) [.image path kind attrs vars kids] nodes) :
    ∃ out inner paired, nodes = [.element "image" out inner paired] ∧
      out.names = "href" :: attrs.declared.erase "href" := by
  obtain ⟨node, rest, hnode, hrest, rfl⟩ := List.forall₂_cons_left_iff.mp h
  obtain rfl := List.forall₂_nil_left_iff.mp hrest
  cases node with
  | text content raw => exact hnode.elim
  | element name out inner paired =>
    obtain ⟨rfl, hout, -⟩ := hnode
    exact ⟨out, inner, paired, rfl, hout⟩

theorem dot_in_order :
    ∃ svg out inner paired, ((document ⟨dotFile.toStore, .empty, none, 64⟩
        (showingDot [("y", .text "1"), ("x", .text "2")]) []).start .zero).1 = .ok svg ∧
      svg.attrs.names = ["xmlns", "width", "height"] ∧
      svg.children = [.element "image" out inner paired] ∧ out.names = ["href", "y", "x"] := by
  obtain ⟨svg, hsvg, -⟩ := exists_of_any (p := fun _ => true)
    (x := ((document ⟨dotFile.toStore, .empty, none, 64⟩
      (showingDot [("y", .text "1"), ("x", .text "2")]) []).start .zero).1) (by decide +kernel)
  obtain ⟨hroot, htags⟩ := document_attribute_order hsvg
  obtain ⟨out, inner, paired, hnodes, hout⟩ := exists_element_of_ordered (htags "" _ _ (.top rfl))
  exact ⟨svg, out, inner, paired, hsvg, hroot, hnodes, hout⟩

/-- An address that is declared behind another attribute is written in front of it. -/
theorem dot_out_of_order :
    ∃ svg out inner paired, ((document ⟨dotFile.toStore, .empty, none, 64⟩
        (showingDot [("width", .text "1"), ("href", .text "x")]) []).start .zero).1 = .ok svg ∧
      svg.children = [.element "image" out inner paired] ∧ out.names = ["href", "width"] ∧
      behind "href" (Bindings.declared [("width", .text "1"), ("href", .text "x")]) =
        ["width", "href"] := by
  obtain ⟨svg, hsvg, -⟩ := exists_of_any (p := fun _ => true)
    (x := ((document ⟨dotFile.toStore, .empty, none, 64⟩
      (showingDot [("width", .text "1"), ("href", .text "x")]) []).start .zero).1)
    (by decide +kernel)
  obtain ⟨made, hmade, rfl⟩ := becomes_of_document ((Run.start_fst _ _).symm.trans hsvg)
  obtain ⟨vars, hts⟩ := exists_tagsBecome hmade (.top rfl)
  obtain ⟨out, inner, paired, hnodes, hout⟩ :=
    exists_element_of_ordered (hts.forall₂.imp fun t node ht => ht.ordered)
  exact ⟨_, out, inner, paired, hsvg, hnodes, hout, by decide⟩

end Resolve
end SvgSkeleton
