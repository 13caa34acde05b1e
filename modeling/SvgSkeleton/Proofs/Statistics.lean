import SvgSkeleton.Proofs.Termination
import SvgSkeleton.Proofs.Unfolding

/-!
The statistics of a picture. They are read off the picture and off the tags that it unfolds to:
there are as many elements as have been counted, and as many texts as tags have made, and the tags
of each kind are counted at every place where they stand. Fonts are two elements and a text, and an
SVG file is an element and, unless it is empty, a text.

The nodes of a picture belong to its tags. A tag that has tags inside it, or includes them, has one
node of its own, and any other tag has all nodes of what it becomes.
-/

namespace SvgSkeleton

namespace Node

mutual

/-- A node and all nodes inside it, in document order. -/
def all : Node → List Node
  | .element name attrs inner paired => .element name attrs inner paired :: allOf inner
  | .text content raw => [.text content raw]

/-- Nodes and all nodes inside them. -/
def allOf : List Node → List Node
  | [] => []
  | node :: rest => node.all ++ allOf rest

end

def isElement : Node → Bool
  | .element .. => true
  | .text .. => false

def isText : Node → Bool
  | .element .. => false
  | .text .. => true

end Node

namespace Resolve

open Manifest (Tag Kind FontFace Root Loaded)

/-- The markup inside the SVG file that a tag shows, if it shows one. -/
def markup? (env : Setting) (o : Occurrence) : Option String :=
  match o.tag with
  | .nestedSvg path _ => do
    let file ← (joinPath o.folder path).toOption
    let text ← (env.store.readText file).toOption
    (Markup.inner text).toOption
  | _ => none

/-- Does the tag show an SVG file with something in it? -/
def showsMarkup (env : Setting) (o : Occurrence) : Bool := (markup? env o).any (!·.isEmpty)

/-- The number of tags of a kind. -/
def ofKind (kind : Kind) (met : List Occurrence) : Nat := met.countP (·.tag.kind = kind)

lemma HasMarkup.markup?_eq {env : Setting} {folder path markup : String} {vars attrs : Bindings}
    {node : Node} (h : HasMarkup env folder path markup) :
    markup? env ⟨folder, vars, .nestedSvg path attrs, node⟩ = some markup := by
  obtain ⟨file, text, hj, ht, hm⟩ := h
  simp [markup?, hj, ht, hm, Except.toOption]

/-! ### The nodes of a tag -/

/-- The nodes of a tag itself. -/
def Occurrence.nodes (o : Occurrence) : List Node :=
  if o.tag.kind = .container ∨ o.tag.children.isSome then [o.node] else o.node.all

/-- The texts that a tag makes itself. -/
def ownTexts (env : Setting) (o : Occurrence) : Nat :=
  match o.tag.kind with
  | .text | .font => 1
  | .nestedSvg => if showsMarkup env o then 1 else 0
  | _ => 0

/-- Every node belongs to one tag. -/
lemma Unfolds.allOf_eq {env : Setting} {folder : String} {vars : Bindings} {tags : List Tag}
    {nodes : List Node} {met : List Occurrence} (h : Unfolds env folder vars tags nodes met) :
    Node.allOf nodes = met.flatMap Occurrence.nodes := by
  induction h with
  | nil => rfl
  | container _ _ _ ihi ihr =>
    rw [List.flatMap_cons, List.flatMap_append, ← ihi, ← ihr, Occurrence.nodes,
      if_pos (.inl rfl)]
    rfl
  | inside hk _ _ ihi ihr =>
    rw [List.flatMap_cons, List.flatMap_append, ← ihi, ← ihr, Occurrence.nodes,
      if_pos (.inr (Option.isSome_of_eq_some hk))]
    rfl
  | leaf hk hc _ ihr =>
    rw [List.flatMap_cons, ← ihr, Occurrence.nodes, if_neg]
    · rfl
    · rintro (h | h)
      · exact hc h
      · rw [hk] at h
        cases h

/-- If each tag has so many nodes of a sort, all nodes of the sort are as many as these together. -/
lemma Unfolds.countP_allOf {env : Setting} {folder : String} {vars : Bindings} {tags : List Tag}
    {nodes : List Node} {met : List Occurrence} (h : Unfolds env folder vars tags nodes met)
    {p : Node → Bool} {own : Occurrence → Nat} (hown : ∀ o ∈ met, o.nodes.countP p = own o) :
    (Node.allOf nodes).countP p = (met.map own).sum := by
  rw [h.allOf_eq, List.countP_flatMap]
  exact congrArg List.sum (List.map_congr_left hown)

/-- A tag has as many nodes of its own as it counts elements and makes texts. -/
lemma TagBecomes.count_nodes {env : Setting} {o : Occurrence}
    (h : TagBecomes env o.folder o.vars o.tag o.node) :
    o.nodes.countP Node.isElement = ownElements o.tag ∧
      o.nodes.countP Node.isText = ownTexts env o := by
  obtain ⟨folder, vars, t, node⟩ := o
  cases h with
  | container => exact ⟨rfl, rfl⟩
  | image _ _ _ hk =>
    cases hk with
    | none => exact ⟨rfl, rfl⟩
    | some => exact ⟨rfl, rfl⟩
  | font => exact ⟨rfl, rfl⟩
  | @nestedSvg folder path markup vars attrs out hm ha =>
    have hown (node : Node) : ownTexts env ⟨folder, vars, .nestedSvg path attrs, node⟩ =
        if markup.isEmpty then 0 else 1 := by
      rw [ownTexts, showsMarkup, hm.markup?_eq, Option.any_some]
      cases markup.isEmpty <;> rfl
    rw [hown]
    by_cases he : markup.isEmpty = true
    · rw [if_pos he, if_pos he]
      exact ⟨rfl, rfl⟩
    · rw [if_neg he, if_neg he]
      exact ⟨rfl, rfl⟩
  | raw => exact ⟨rfl, rfl⟩
  | text => exact ⟨rfl, rfl⟩
  | generic _ hk =>
    cases hk with
    | none => exact ⟨rfl, rfl⟩
    | some => exact ⟨rfl, rfl⟩

/-! ### Sums over the tags -/

section

variable {env : Setting} {met : List Occurrence} {counts : List Stats}

/-- If a statistic of a tag depends on the tag only, that of all is the sum of those of each. -/
lemma stat_sum_eq (stat : Stats → Nat) (hzero : stat 0 = 0)
    (hadd : ∀ a b, stat (a + b) = stat a + stat b) {own : Tag → Nat}
    (hown : ∀ t contents, stat (ownCounts t contents) = own t)
    (h : List.Forall₂ (Counts env) met counts) : stat counts.sum = (met.map (own ·.tag)).sum := by
  induction h with
  | nil => exact hzero
  | cons ho _ ih =>
    obtain ⟨contents, -, rfl⟩ := ho
    rw [List.sum_cons, hadd, hown, ih, List.map_cons, List.sum_cons]

lemma sum_map_ite {α : Type} (p : α → Bool) (l : List α) :
    (l.map fun a => if p a then 1 else 0).sum = l.countP p := by
  induction l with
  | nil => rfl
  | cons a l ih =>
    rw [List.map_cons, List.sum_cons, ih, List.countP_cons, Nat.add_comm]

/-- A statistic that each tag of a kind raises by one is the number of these tags. -/
lemma stat_sum_eq_ofKind (stat : Stats → Nat) (hzero : stat 0 = 0)
    (hadd : ∀ a b, stat (a + b) = stat a + stat b) {kind : Kind}
    (hown : ∀ t contents, stat (ownCounts t contents) = if t.kind = kind then 1 else 0)
    (h : List.Forall₂ (Counts env) met counts) : stat counts.sum = ofKind kind met := by
  rw [stat_sum_eq stat hzero hadd hown h, ofKind, ← sum_map_ite]
  simp only [decide_eq_true_eq]

/-- The texts in a picture are those of its text tags, of its fonts and of the SVG files in it. -/
lemma sum_ownTexts (env : Setting) (met : List Occurrence) :
    (met.map (ownTexts env)).sum =
      ofKind .text met + ofKind .font met + met.countP (showsMarkup env) := by
  induction met with
  | nil => rfl
  | cons o met ih =>
    have ho : ownTexts env o = (if o.tag.kind = .text then 1 else 0) +
        (if o.tag.kind = .font then 1 else 0) + if showsMarkup env o then 1 else 0 := by
      obtain ⟨folder, vars, t, node⟩ := o
      cases t <;> simp [ownTexts, Tag.kind, showsMarkup, markup?]
    rw [List.map_cons, List.sum_cons, ih, ho, ofKind, ofKind, ofKind, ofKind, List.countP_cons,
      List.countP_cons, List.countP_cons]
    simp only [decide_eq_true_eq]
    omega

end

/-- **The statistics match the picture.** A picture that is resolved on fresh counts unfolds to one
list of tags. It has as many elements as are counted; it has as many texts as are counted, and one
more for each font tag and for each SVG file with something in it; and the tags of the list are
counted by their kinds. -/
theorem document_statistics {env : Setting} {m : Loaded} {globals : Bindings} {svg : Element}
    {stats : Stats} (h : (document env m globals).start .zero = (.ok svg, stats)) :
    ∃ met, (∀ other, Unfolds env m.folder (globals ++ m.root.vars) (m.root.children.getD [])
        svg.children other ↔ other = met) ∧
      stats.elements = svg.toNode.all.countP Node.isElement ∧
      svg.toNode.all.countP Node.isText =
        stats.texts + ofKind .font met + met.countP (showsMarkup env) ∧
      stats.texts = ofKind .text met ∧ stats.images = ofKind .image met ∧
      stats.fontFaces = (met.map (·.tag.faces.length)).sum ∧
      stats.includes = ofKind .container met ∧ stats.nestedSvgs = ofKind .nestedSvg met := by
  obtain ⟨met, counts, n, hu, hbecome, hc, rfl⟩ := document_unfolds h
  have hown (o : Occurrence) (ho : o ∈ met) : o.nodes.countP Node.isElement = ownElements o.tag ∧
      o.nodes.countP Node.isText = ownTexts env o := (hbecome o ho).count_nodes
  have helements := hu.countP_allOf fun o ho => (hown o ho).1
  have htexts := hu.countP_allOf fun o ho => (hown o ho).2
  have hcounted : counts.sum.elements = (met.map fun o => ownElements o.tag).sum :=
    stat_sum_eq Stats.elements rfl (fun _ _ => rfl) (fun _ _ => rfl) hc
  have hfaces : counts.sum.fontFaces = (met.map (·.tag.faces.length)).sum :=
    stat_sum_eq Stats.fontFaces rfl (fun _ _ => rfl) (fun _ _ => rfl) hc
  have hoftext := stat_sum_eq_ofKind Stats.texts rfl (fun _ _ => rfl) (fun _ _ => rfl) hc
  have himages := stat_sum_eq_ofKind Stats.images rfl (fun _ _ => rfl) (fun _ _ => rfl) hc
  have hincludes := stat_sum_eq_ofKind Stats.includes rfl (fun _ _ => rfl) (fun _ _ => rfl) hc
  have hsvgs := stat_sum_eq_ofKind Stats.nestedSvgs rfl (fun _ _ => rfl) (fun _ _ => rfl) hc
  -- Placeholders and the root change the number of elements only.
  have hstat (a b : Nat) (hab : a = b) : 0 + a + 0 = b := by rw [hab, Nat.zero_add, Nat.add_zero]
  refine ⟨met, fun other => hu.iff_eq, ?_, ?_, hstat _ _ hoftext, hstat _ _ himages,
    hstat _ _ hfaces, hstat _ _ hincludes, hstat _ _ hsvgs⟩
  · show 0 + counts.sum.elements + 1 = (svg.toNode :: Node.allOf svg.children).countP _
    rw [List.countP_cons_of_pos rfl, helements, hcounted, Nat.zero_add]
  · show (svg.toNode :: Node.allOf svg.children).countP _ = 0 + counts.sum.texts + 0 + _ + _
    rw [List.countP_cons_of_neg Bool.false_ne_true, htexts, sum_ownTexts, hoftext, Nat.zero_add,
      Nat.add_zero]

/-- A picture with a tag of every kind: an image, a font, two SVG files, one of them empty, a text,
and a folder that is included twice. -/
def everyKindFiles : MemoryFiles :=
  .ofList [("dot.png", "x".toUTF8), ("f.woff2", "y".toUTF8), ("full.svg", "<svg>z</svg>".toUTF8),
    ("empty.svg", "<svg></svg>".toUTF8),
    ("a/collagen.json", "\x7b\"children\":\"t\"\x7d".toUTF8)]

def everyKindSetting : Setting := ⟨everyKindFiles.toStore, .empty, none, 64⟩

def everyKindTags : List Tag :=
  [.image "dot.png" none [] [] none, .font [⟨"F", .file "f.woff2", []⟩] [],
    .nestedSvg "full.svg" [], .nestedSvg "empty.svg" [], .generic "g" [] [] (some [.container "a"]),
    .container "a", .text "u" false]

def everyKind : Loaded := ⟨⟨[], [], some everyKindTags⟩, "", "collagen.json", .plain, 0⟩

theorem everyKind_statistics :
    ∃ svg stats met, (document everyKindSetting everyKind []).start .zero = (.ok svg, stats) ∧
      stats = ⟨9, 3, 1, 1, 2, 2, 0, 2⟩ ∧
      (∀ other, Unfolds everyKindSetting "" [] everyKindTags svg.children other ↔ other = met) ∧
      svg.toNode.all.countP Node.isElement = 9 ∧
      svg.toNode.all.countP Node.isText =
        3 + ofKind .font met + met.countP (showsMarkup everyKindSetting) ∧
      ofKind .text met = 3 ∧ ofKind .image met = 1 ∧ (met.map (·.tag.faces.length)).sum = 1 ∧
      ofKind .container met = 2 ∧ ofKind .nestedSvg met = 2 := by
  have hwithin : documentWithin everyKindSetting (fun _ _ _ => throw (.assetNotFound "")) 3
      everyKind [] = document everyKindSetting everyKind [] :=
    documentWithin_eq_of_files rfl (by decide +kernel) everyKind []
  have hrun : done ((document everyKindSetting everyKind []).start .zero).1 = .ok () ∧
      ((document everyKindSetting everyKind []).start .zero).2 = ⟨9, 3, 1, 1, 2, 2, 0, 2⟩ := by
    rw [← hwithin]
    decide +kernel
  obtain ⟨svg, hsvg⟩ := done_eq_ok_iff.mp hrun.1
  have hstart : (document everyKindSetting everyKind []).start .zero =
      (.ok svg, ⟨9, 3, 1, 1, 2, 2, 0, 2⟩) := Prod.ext hsvg hrun.2
  obtain ⟨met, hu, he, ht, hot, hi, hf, hc, hn⟩ := document_statistics hstart
  exact ⟨svg, _, met, hstart, rfl, hu, he.symm, ht, hot.symm, hi.symm, hf.symm, hc.symm, hn.symm⟩

end Resolve
end SvgSkeleton
