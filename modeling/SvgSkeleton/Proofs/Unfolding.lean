import SvgSkeleton.Proofs.Picture

/-!
What a picture unfolds to. Where a container stands, all tags of the manifest that it includes
stand, at each such place again; so a picture has one list of tags in document order, each with its
folder, with the variables that are defined around it, and with the node that stands for it.

What a run counts is what these tags count. A tag counts for itself when it has been resolved, and
what is inside it has been counted by then; an included manifest counts its root, and then it counts
as an include. Only placeholders are counted wherever a text has been filled in.
-/

namespace SvgSkeleton

namespace Manifest

/-- The faces that a tag defines. -/
def Tag.faces : Tag → List FontFace
  | .font faces _ => faces
  | _ => []

end Manifest

namespace Stats

lemma ofInterpolations_add (m n : Nat) :
    ofInterpolations (m + n) = ofInterpolations m + ofInterpolations n := rfl

/-- Only placeholders have been counted. -/
def IsFilling (c : Stats) : Prop := ∃ n, c = ofInterpolations n

namespace IsFilling

lemma zero : IsFilling 0 := ⟨0, rfl⟩

lemma add {a b : Stats} : IsFilling a → IsFilling b → IsFilling (a + b)
  | ⟨m, ha⟩, ⟨n, hb⟩ => ⟨m + n, by rw [ha, hb, ofInterpolations_add]⟩

lemma sum {α : Type} {l : List α} {counts : List Stats}
    (h : List.Forall₂ (fun _ c => IsFilling c) l counts) : IsFilling counts.sum := by
  induction h with
  | nil => exact zero
  | cons hc _ ih => exact hc.add ih

end IsFilling

lemma sum_ofFontFace (contents : List ByteArray) :
    (contents.map fun b => ofFontFace b.size).sum =
      { zero with fontFaces := contents.length, embeddedBytes := (contents.map (·.size)).sum } := by
  induction contents with
  | nil => rfl
  | cons b contents ih =>
    rw [List.map_cons, List.sum_cons, ih, List.length_cons, Nat.add_comm]
    rfl

end Stats

namespace Resolve

open Manifest (Tag FontFace Root Loaded)

/-! ### The tags of a picture -/

/-- A tag of a manifest in a folder, around which `vars` are defined, and the node that stands for
it. -/
structure Occurrence where
  folder : String
  vars : Bindings
  tag : Tag
  node : Node

/-- The tags of a folder that these nodes stand for unfold to a list: each tag, and behind it those
inside it or inside the manifest that it includes. -/
inductive Unfolds (env : Setting) :
    String → Bindings → List Tag → List Node → List Occurrence → Prop
  | nil {folder : String} {vars : Bindings} : Unfolds env folder vars [] [] []
  | container {folder path name : String} {vars : Bindings} {attrs : Attributes}
      {inner : List Node} {paired : Bool} {m : Loaded} {met others : List Occurrence}
      {rest : List Tag} {nodes : List Node} (hl : Leads env folder path m)
      (hi : Unfolds env m.folder m.root.vars (m.root.children.getD []) inner met)
      (hr : Unfolds env folder vars rest nodes others) :
      Unfolds env folder vars (.container path :: rest) (.element name attrs inner paired :: nodes)
        (⟨folder, vars, .container path, .element name attrs inner paired⟩ :: (met ++ others))
  | inside {folder name : String} {vars : Bindings} {t : Tag} {kids : List Tag} {attrs : Attributes}
      {inner : List Node} {paired : Bool} {met others : List Occurrence} {rest : List Tag}
      {nodes : List Node} (hk : t.children = some kids)
      (hi : Unfolds env folder (vars ++ t.vars) kids inner met)
      (hr : Unfolds env folder vars rest nodes others) :
      Unfolds env folder vars (t :: rest) (.element name attrs inner paired :: nodes)
        (⟨folder, vars, t, .element name attrs inner paired⟩ :: (met ++ others))
  | leaf {folder : String} {vars : Bindings} {t : Tag} {node : Node} {others : List Occurrence}
      {rest : List Tag} {nodes : List Node} (hk : t.children = none) (hc : t.kind ≠ .container)
      (hr : Unfolds env folder vars rest nodes others) :
      Unfolds env folder vars (t :: rest) (node :: nodes) (⟨folder, vars, t, node⟩ :: others)

namespace Unfolds

variable {env : Setting} {folder : String} {vars : Bindings} {tags : List Tag} {nodes : List Node}

/-- There is only one list. -/
theorem unique {a b : List Occurrence} (ha : Unfolds env folder vars tags nodes a)
    (hb : Unfolds env folder vars tags nodes b) : a = b := by
  induction ha generalizing b with
  | nil =>
    cases hb
    rfl
  | container hl _ _ ihi ihr =>
    cases hb with
    | container hl' hi' hr' =>
      obtain rfl := hl.unique hl'
      rw [ihi hi', ihr hr']
    | inside hk' => cases hk'
    | leaf _ hc' => exact absurd rfl hc'
  | inside hk _ _ ihi ihr =>
    cases hb with
    | container => cases hk
    | inside hk' hi' hr' =>
      obtain rfl := Option.some.inj (hk.symm.trans hk')
      rw [ihi hi', ihr hr']
    | leaf hk' => cases hk.symm.trans hk'
  | leaf hk hc _ ihr =>
    cases hb with
    | container => exact absurd rfl hc
    | inside hk' => cases hk.symm.trans hk'
    | leaf _ _ hr' => rw [ihr hr']

lemma iff_eq {met other : List Occurrence} (h : Unfolds env folder vars tags nodes met) :
    Unfolds env folder vars tags nodes other ↔ other = met :=
  ⟨fun ho => ho.unique h, fun ho => ho ▸ h⟩

/-- Tags behind a first one are unfolded behind it. -/
lemma cons {t : Tag} {node : Node} {met others : List Occurrence} {rest : List Tag}
    (h : Unfolds env folder vars [t] [node] met) (hr : Unfolds env folder vars rest nodes others) :
    Unfolds env folder vars (t :: rest) (node :: nodes) (met ++ others) := by
  cases h with
  | container hl hi hn =>
    cases hn
    rw [List.append_nil]
    exact .container hl hi hr
  | inside hk hi hn =>
    cases hn
    rw [List.append_nil]
    exact .inside hk hi hr
  | leaf hk hc hn =>
    cases hn
    exact .leaf hk hc hr

/-- A tag that includes nothing is unfolded with what is inside it. -/
lemma single {t : Tag} {name : String} {attrs : Attributes} {inner : List Node} {paired : Bool}
    {met : List Occurrence} (hc : t.kind ≠ .container)
    (h : Unfolds env folder (vars ++ t.vars) (t.children.getD []) inner met) :
    Unfolds env folder vars [t] [.element name attrs inner paired]
      (⟨folder, vars, t, .element name attrs inner paired⟩ :: met) := by
  cases hk : t.children with
  | none =>
    rw [hk] at h
    cases h
    exact .leaf hk hc .nil
  | some kids =>
    rw [hk] at h
    rw [← List.append_nil met]
    exact .inside hk h .nil

/-- Every node is what its tag becomes. -/
lemma becomes {met : List Occurrence} (h : Unfolds env folder vars tags nodes met)
    (ht : TagsBecome env folder vars tags nodes) {o : Occurrence} (ho : o ∈ met) :
    TagBecomes env o.folder o.vars o.tag o.node := by
  induction h with
  | nil => cases ho
  | container hl _ _ ihi ihr =>
    obtain _ | ⟨hnode, hrest⟩ := ht
    rcases List.mem_cons.mp ho with rfl | hin
    · exact hnode
    · exact (List.mem_append.mp hin).elim (ihi (hnode.tagsBecome_included hl)) (ihr hrest)
  | inside hk _ _ ihi ihr =>
    obtain _ | ⟨hnode, hrest⟩ := ht
    rcases List.mem_cons.mp ho with rfl | hin
    · exact hnode
    · exact (List.mem_append.mp hin).elim (ihi (hnode.tagsBecome_inside hk)) (ihr hrest)
  | leaf _ _ _ ihr =>
    obtain _ | ⟨hnode, hrest⟩ := ht
    rcases List.mem_cons.mp ho with rfl | hin
    · exact hnode
    · exact ihr hrest hin

end Unfolds

/-! ### What a tag counts -/

/-- The bytes of the font of a face. -/
def HasBytes (env : Setting) (folder : String) (face : FontFace) (bytes : ByteArray) : Prop :=
  ∃ format, HasFont env folder face.name face.source bytes format

/-- The contents of the files that a tag embeds: an image, or the fonts of its faces. -/
inductive Embeds (env : Setting) (folder : String) : Tag → List ByteArray → Prop
  | image {path file : String} {kind : Option String} {attrs vars : Bindings}
      {kids : Option (List Tag)} {bytes : ByteArray} (h : HasAsset env folder path file bytes) :
      Embeds env folder (.image path kind attrs vars kids) [bytes]
  | font {faces : List FontFace} {attrs : Bindings} {contents : List ByteArray}
      (h : List.Forall₂ (HasBytes env folder) faces contents) :
      Embeds env folder (.font faces attrs) contents
  | none {t : Tag} (hi : t.kind ≠ .image) (hf : t.kind ≠ .font) : Embeds env folder t []

/-- The elements that a tag makes itself. Fonts are a style sheet inside their definitions. -/
def ownElements (t : Tag) : Nat :=
  match t.kind with
  | .text => 0
  | .font => 2
  | _ => 1

/-- What a tag that embeds these contents counts for itself, apart from placeholders. -/
def ownCounts (t : Tag) (contents : List ByteArray) : Stats where
  elements := ownElements t
  texts := if t.kind = .text then 1 else 0
  images := if t.kind = .image then 1 else 0
  fontFaces := t.faces.length
  includes := if t.kind = .container then 1 else 0
  nestedSvgs := if t.kind = .nestedSvg then 1 else 0
  interpolations := 0
  embeddedBytes := (contents.map (·.size)).sum

/-- What a tag counts for itself. -/
def Counts (env : Setting) (o : Occurrence) (c : Stats) : Prop :=
  ∃ contents, Embeds env o.folder o.tag contents ∧ c = ownCounts o.tag contents

/-- The tags unfold to a list, and so much is what the tags in it count, with some placeholders. -/
def Tallies (env : Setting) (folder : String) (vars : Bindings) (tags : List Tag)
    (nodes : List Node) (c : Stats) : Prop :=
  ∃ met counts filling, Unfolds env folder vars tags nodes met ∧
    List.Forall₂ (Counts env) met counts ∧ filling.IsFilling ∧ c = filling + counts.sum

namespace Tallies

variable {env : Setting} {folder : String} {vars : Bindings} {tags rest : List Tag}
  {nodes others : List Node} {t : Tag} {node : Node} {a b c : Stats}

lemma nil : Tallies env folder vars [] [] 0 :=
  ⟨[], [], 0, .nil, .nil, .zero, rfl⟩

lemma cons (ha : Tallies env folder vars [t] [node] a)
    (hb : Tallies env folder vars rest others b) :
    Tallies env folder vars (t :: rest) (node :: others) (a + b) := by
  obtain ⟨met, counts, filling, hu, hc, hf, rfl⟩ := ha
  obtain ⟨met', counts', filling', hu', hc', hf', rfl⟩ := hb
  refine ⟨met ++ met', counts ++ counts', filling + filling', hu.cons hu',
    List.rel_append hc hc', hf.add hf', ?_⟩
  rw [List.sum_append, add_add_add_comm]

/-- Filling in a text counts placeholders only. -/
lemma fill (hf : c.IsFilling) (h : Tallies env folder vars tags nodes a) :
    Tallies env folder vars tags nodes (c + a) := by
  obtain ⟨met, counts, filling, hu, hc, hf', rfl⟩ := h
  exact ⟨met, counts, c + filling, hu, hc, hf.add hf', (add_assoc ..).symm⟩

/-- A tag without tags inside it counts for itself only. -/
lemma leaf {contents : List ByteArray} (hk : t.children = none) (hc : t.kind ≠ .container)
    (he : Embeds env folder t contents) (hf : c.IsFilling) :
    Tallies env folder vars [t] [node] (c + ownCounts t contents) :=
  ⟨[⟨folder, vars, t, node⟩], [ownCounts t contents], c, .leaf hk hc .nil,
    .cons ⟨contents, he, rfl⟩ .nil, hf, by rw [List.sum_singleton]⟩

/-- A tag counts for itself when what is inside it has been counted. -/
lemma single {contents : List ByteArray} {name : String} {attrs : Attributes} {inner : List Node}
    {paired : Bool} (hc : t.kind ≠ .container) (he : Embeds env folder t contents)
    (h : Tallies env folder (vars ++ t.vars) (t.children.getD []) inner a) :
    Tallies env folder vars [t] [.element name attrs inner paired] (a + ownCounts t contents) := by
  obtain ⟨met, counts, filling, hu, hcs, hf, rfl⟩ := h
  refine ⟨_, ownCounts t contents :: counts, filling, hu.single hc,
    .cons ⟨contents, he, rfl⟩ hcs, hf, ?_⟩
  rw [List.sum_cons, add_assoc, add_comm counts.sum]

/-- A container counts for itself when its manifest has been counted. -/
lemma container {path name : String} {m : Loaded} {attrs : Attributes} {inner : List Node}
    {paired : Bool} (hl : Leads env folder path m)
    (h : Tallies env m.folder m.root.vars (m.root.children.getD []) inner a) :
    Tallies env folder vars [.container path] [.element name attrs inner paired]
      (a + ownCounts (.container path) []) := by
  obtain ⟨met, counts, filling, hu, hcs, hf, rfl⟩ := h
  refine ⟨_, ownCounts (.container path) [] :: counts, filling, .container hl hu .nil,
    .cons ⟨[], .none nofun nofun, rfl⟩ ?_, hf, ?_⟩
  · rwa [List.append_nil]
  · rw [List.sum_cons, add_assoc, add_comm counts.sum]

end Tallies

/-! ### What a run counts -/

section

variable {env : Setting} {s : Surroundings} {scope : Scope} {c : Stats}

lemma isFilling_of_fillText {element text out : String}
    (h : (fillText scope element text).Yields out c) : c.IsFilling := by
  unfold fillText at h
  split at h
  · cases h
  · next filled n _ =>
    obtain ⟨y, rfl, hy⟩ := Run.yields_count_bind_iff.mp h
    obtain ⟨-, rfl⟩ := Run.yields_pure_iff.mp hy
    exact ⟨n, add_zero _⟩

lemma isFilling_of_fillAttr {element : String} {a : String × Scalar} {out : String × String}
    (h : (fillAttr scope element a).Yields out c) : c.IsFilling := by
  obtain ⟨name, value⟩ := a
  cases value with
  | text value =>
    obtain ⟨filled, x, y, rfl, hx, hy⟩ := Run.yields_bind_iff.mp h
    obtain ⟨-, rfl⟩ := Run.yields_pure_iff.mp hy
    exact (isFilling_of_fillText hx).add .zero
  | number n =>
    obtain ⟨-, rfl⟩ := Run.yields_pure_iff.mp h
    exact .zero

lemma isFilling_of_fillAttrs {element : String} {attrs : Bindings} {out : Attributes}
    (h : (fillAttrs scope element attrs).Yields out c) : c.IsFilling := by
  obtain ⟨pairs, x, y, rfl, hx, hy⟩ := Run.yields_bind_iff.mp h
  obtain ⟨-, rfl⟩ := Run.yields_pure_iff.mp hy
  obtain ⟨counts, hc, rfl⟩ := Run.exists_of_yields_mapM hx
  exact (Stats.IsFilling.sum (hc.imp fun a c ⟨b, hb⟩ => isFilling_of_fillAttr hb)).add .zero

/-- A font face counts itself and the bytes of its font. -/
lemma exists_of_fontFace (hs : s.store = env.store) (hf : s.fonts = env.fonts) {face : FontFace}
    {rule : String} (h : (fontFace s scope face).Yields rule c) :
    ∃ bytes filling, HasBytes env s.folder face bytes ∧ filling.IsFilling ∧
      c = filling + .ofFontFace bytes.size := by
  obtain ⟨⟨bytes, format⟩, hb, h⟩ := Run.yields_ofOutcome_bind_iff.mp h
  obtain ⟨out, x, y, rfl, hd, h⟩ := Run.yields_bind_iff.mp h
  obtain ⟨-, rfl⟩ := Run.yields_count_pure_iff.mp h
  exact ⟨bytes, x, ⟨format, hasFont_of_ok hs hf hb⟩, isFilling_of_fillAttrs hd, rfl⟩

lemma exists_of_fontFaces (hs : s.store = env.store) (hf : s.fonts = env.fonts)
    {faces : List FontFace} {counts : List Stats}
    (h : List.Forall₂ (fun face c => ∃ rule, (fontFace s scope face).Yields rule c) faces counts) :
    ∃ contents filling, List.Forall₂ (HasBytes env s.folder) faces contents ∧
      filling.IsFilling ∧
      counts.sum = filling + (contents.map fun b => .ofFontFace b.size).sum := by
  induction h with
  | nil => exact ⟨[], 0, .nil, .zero, rfl⟩
  | cons hface _ ih =>
    obtain ⟨rule, hface⟩ := hface
    obtain ⟨bytes, filling, hb, hfill, rfl⟩ := exists_of_fontFace hs hf hface
    obtain ⟨contents, filling', hc, hfill', hsum⟩ := ih
    refine ⟨bytes :: contents, filling + filling', .cons hb hc, hfill.add hfill', ?_⟩
    rw [List.sum_cons, hsum, List.map_cons, List.sum_cons, add_add_add_comm]

lemma tallies_of_font (hs : s.store = env.store) (hf : s.fonts = env.fonts)
    {faces : List FontFace} {attrs : Bindings} {g : Element}
    (h : (font s scope faces attrs).Yields g c) :
    Tallies env s.folder scope.flat [.font faces attrs] [g.toNode] c := by
  obtain ⟨rules, x, y, rfl, hr, h⟩ := Run.yields_bind_iff.mp h
  obtain ⟨out, z, w, rfl, ha, h⟩ := Run.yields_bind_iff.mp h
  obtain ⟨-, rfl⟩ := Run.yields_count_pure_iff.mp h
  obtain ⟨counts, hfaces, rfl⟩ := Run.exists_of_yields_mapM hr
  obtain ⟨contents, filling, hb, hfill, hsum⟩ := exists_of_fontFaces hs hf hfaces
  have hown : ownCounts (.font faces attrs) contents =
      (contents.map fun b => .ofFontFace b.size).sum + .ofElements 2 := by
    rw [Stats.sum_ofFontFace, ← hb.length_eq]
    rfl
  have htotal : counts.sum + (z + .ofElements 2) =
      filling + z + ownCounts (.font faces attrs) contents := by
    rw [hsum, hown, add_add_add_comm]
  rw [htotal]
  exact .leaf rfl nofun (.font hb) (hfill.add (isFilling_of_fillAttrs ha))

lemma tallies_of_nestedSvg {path : String} {attrs : Bindings} {g : Element}
    (h : (nestedSvg s scope path attrs).Yields g c) :
    Tallies env s.folder scope.flat [.nestedSvg path attrs] [g.toNode] c := by
  obtain ⟨markup, -, h⟩ := Run.yields_ofOutcome_bind_iff.mp h
  obtain ⟨out, z, w, rfl, ha, h⟩ := Run.yields_bind_iff.mp h
  obtain ⟨-, rfl⟩ := Run.yields_count_pure_iff.mp h
  show Tallies env _ _ _ _ (z + ownCounts (.nestedSvg path attrs) [])
  exact .leaf rfl nofun (.none nofun nofun) (isFilling_of_fillAttrs ha)

lemma tallies_of_text {content : String} {raw : Bool} {node : Node}
    (h : (text scope content raw).Yields node c) :
    Tallies env s.folder scope.flat [.text content raw] [node] c := by
  obtain ⟨y, rfl, hrest⟩ := Run.yields_count_bind_iff.mp h
  have hy : y.IsFilling := by
    cases raw with
    | true =>
      obtain ⟨-, rfl⟩ := Run.yields_pure_iff.mp hrest
      exact .zero
    | false =>
      obtain ⟨out, z, w, rfl, hf, hlast⟩ := Run.yields_bind_iff.mp hrest
      obtain ⟨-, rfl⟩ := Run.yields_pure_iff.mp hlast
      exact (isFilling_of_fillText hf).add .zero
  rw [add_comm]
  show Tallies env _ _ _ _ (y + ownCounts (.text content raw) [])
  exact .leaf rfl nofun (.none nofun nofun) hy

/-- What a run of an include counts: its manifest with the root of it, and then itself. -/
def IncludeTallies (env : Setting) (folder path : String) (g : Element) (c : Stats) : Prop :=
  ∃ m d, Leads env folder path m ∧
    Tallies env m.folder m.root.vars (m.root.children.getD []) g.children d ∧
    c = d + .ofElements 1 + .ofInclude

variable [∀ path, (s.included path).Adds]

/-- Tags and lists of them unfold, and count what the tags in them count, if so for what they
include. -/
lemma tallies_of_tags (hs : s.store = env.store) (hf : s.fonts = env.fonts)
    (hinc : ∀ path g c, (s.included path).Yields g c → IncludeTallies env s.folder path g c) :
    (∀ scope t node c, (tag s scope t).Yields node c →
      Tallies env s.folder scope.flat [t] [node] c) ∧
    (∀ scope kids nodes c, (children s scope kids).Yields nodes c →
      Tallies env s.folder scope.flat (kids.getD []) (nodes.getD []) c) ∧
    ∀ scope ts nodes c, (tagList s scope ts).Yields nodes c →
      Tallies env s.folder scope.flat ts nodes c := by
  refine tag.mutual_induct _ _ _ ?container ?image ?font ?nestedSvg ?text ?generic ?none ?some
    ?nil ?cons
  case container =>
    intro scope path node c h
    rw [tag] at h
    obtain ⟨g, x, y, rfl, hg, h⟩ := Run.yields_bind_iff.mp h
    obtain ⟨rfl, rfl⟩ := Run.yields_pure_iff.mp h
    obtain ⟨m, d, hl, ht, rfl⟩ := hinc path g x hg
    rw [add_zero, add_assoc]
    exact .container hl ht
  case image =>
    intro scope path kind attrs own kids ih node c h
    rw [tag] at h
    obtain ⟨⟨uri, size⟩, hi, h⟩ := Run.yields_ofOutcome_bind_iff.mp h
    obtain ⟨out, z, w, rfl, ha, h⟩ := Run.yields_bind_iff.mp h
    obtain ⟨nodes, v, w, rfl, hk, h⟩ := Run.yields_bind_iff.mp h
    obtain ⟨rfl, rfl⟩ := Run.yields_count_pure_iff.mp h
    obtain ⟨⟨file, bytes⟩, hb, hi⟩ := bind_eq_ok_iff.mp hi
    obtain ⟨type, -, hi⟩ := bind_eq_ok_iff.mp hi
    obtain ⟨-, rfl⟩ := Prod.mk.inj (Except.ok.inj hi)
    have hc : (Tag.image path kind attrs own kids).kind ≠ .container := by simp [Tag.kind]
    refine .fill (isFilling_of_fillAttrs ha) (.single hc (.image (hasAsset_of_ok hs hb)) ?_)
    have hinner := ih nodes v hk
    rw [Scope.flat_cons] at hinner
    rw [Element.children_ofChildren]
    exact hinner
  case font =>
    intro scope faces attrs node c h
    rw [tag] at h
    obtain ⟨g, x, y, rfl, hg, h⟩ := Run.yields_bind_iff.mp h
    obtain ⟨rfl, rfl⟩ := Run.yields_pure_iff.mp h
    rw [add_zero]
    exact tallies_of_font hs hf hg
  case nestedSvg =>
    intro scope path attrs node c h
    rw [tag] at h
    obtain ⟨g, x, y, rfl, hg, h⟩ := Run.yields_bind_iff.mp h
    obtain ⟨rfl, rfl⟩ := Run.yields_pure_iff.mp h
    rw [add_zero]
    exact tallies_of_nestedSvg hg
  case text =>
    intro scope content raw node c h
    rw [tag] at h
    exact tallies_of_text h
  case generic =>
    intro scope name attrs own kids inner ih node c h
    rw [tag] at h
    obtain ⟨out, z, w, rfl, ha, h⟩ := Run.yields_bind_iff.mp h
    obtain ⟨nodes, v, w, rfl, hk, h⟩ := Run.yields_bind_iff.mp h
    obtain ⟨rfl, rfl⟩ := Run.yields_count_pure_iff.mp h
    show Tallies env _ _ _ _ (z + (v + ownCounts (.generic name attrs own kids) []))
    have hc : (Tag.generic name attrs own kids).kind ≠ .container := by simp [Tag.kind]
    have he : Embeds env s.folder (.generic name attrs own kids) [] :=
      .none (by simp [Tag.kind]) (by simp [Tag.kind])
    refine .fill (isFilling_of_fillAttrs ha) (.single hc he ?_)
    have hinner := ih nodes v hk
    rw [Scope.flat_cons] at hinner
    rw [Element.children_ofChildren]
    exact hinner
  case none =>
    intro scope nodes c h
    obtain ⟨rfl, rfl⟩ := Run.yields_pure_iff.mp h
    exact .nil
  case some =>
    intro scope ts ih nodes c h
    obtain ⟨got, x, y, rfl, hg, h⟩ := Run.yields_bind_iff.mp h
    obtain ⟨rfl, rfl⟩ := Run.yields_pure_iff.mp h
    rw [add_zero]
    exact ih got x hg
  case nil =>
    intro scope nodes c h
    obtain ⟨rfl, rfl⟩ := Run.yields_pure_iff.mp h
    exact .nil
  case cons =>
    intro scope t rest iht ihrest nodes c h
    obtain ⟨node, x, y, rfl, hn, h⟩ := Run.yields_bind_iff.mp h
    obtain ⟨others, z, w, rfl, ho, h⟩ := Run.yields_bind_iff.mp h
    obtain ⟨rfl, rfl⟩ := Run.yields_pure_iff.mp h
    rw [add_zero]
    exact .cons (iht node x hn) (ihrest others z ho)

/-- A manifest counts what its tags count, and its root. -/
lemma tallies_of_root (hs : s.store = env.store) (hf : s.fonts = env.fonts)
    (hinc : ∀ path g c, (s.included path).Yields g c → IncludeTallies env s.folder path g c)
    {r : Root} {svg : Element} (h : (root s scope r).Yields svg c) :
    ∃ d, Tallies env s.folder (scope.flat ++ r.vars) (r.children.getD []) svg.children d ∧
      c = d + .ofElements 1 := by
  obtain ⟨out, x, y, rfl, ha, h⟩ := Run.yields_bind_iff.mp h
  obtain ⟨nodes, z, w, rfl, hk, h⟩ := Run.yields_bind_iff.mp h
  obtain ⟨rfl, rfl⟩ := Run.yields_count_pure_iff.mp h
  rw [Element.children_ofChildren]
  refine ⟨x + z, .fill (isFilling_of_fillAttrs ha) ?_, ?_⟩
  · rw [← Scope.flat_cons]
    exact (tallies_of_tags hs hf hinc).2.1 _ _ _ _ hk
  · rw [add_assoc]

end

/-- An included folder counts what the tags of its manifest count, its root, and itself. -/
lemma tallies_of_includeFolder {env : Setting} (chain : IncludeChain) (folder path : String)
    {g : Element} {c : Stats} (h : (includeFolder env chain folder path).Yields g c) :
    IncludeTallies env folder path g c := by
  rw [includeFolder_eq] at h
  obtain ⟨⟨chain', m⟩, he, h⟩ := Run.yields_ofOutcome_bind_iff.mp h
  obtain ⟨svg, z, w, rfl, hr, h⟩ := Run.yields_bind_iff.mp h
  obtain ⟨rfl, rfl⟩ := Run.yields_count_pure_iff.mp h
  obtain ⟨canonical, hj, -, -, -, hl, -⟩ := enter_eq_ok_iff.mp he
  have hlt := length_unvisited_lt he
  obtain ⟨d, ht, rfl⟩ := tallies_of_root (s := inside env chain' m.folder) rfl rfl
    (fun path g c => tallies_of_includeFolder chain' m.folder path) hr
  exact ⟨m, d, ⟨hj, hl⟩, ht, rfl⟩
termination_by (unvisited env.store chain).length

/-- A picture counts what its tags count, and its root. -/
lemma tallies_of_document {env : Setting} {m : Loaded} {globals : Bindings} {svg : Element}
    {c : Stats} (h : (document env m globals).Yields svg c) :
    ∃ d, Tallies env m.folder (globals ++ m.root.vars) (m.root.children.getD []) svg.children d ∧
      c = d + .ofElements 1 := by
  obtain ⟨top, -, h⟩ := Run.yields_ofOutcome_bind_iff.mp h
  obtain ⟨made, z, w, rfl, hr, h⟩ := Run.yields_bind_iff.mp h
  obtain ⟨rfl, rfl⟩ := Run.yields_pure_iff.mp h
  rw [add_zero]
  obtain ⟨d, ht, rfl⟩ := tallies_of_root (s := inside env (.root top) m.folder) rfl rfl
    (fun path g c => tallies_of_includeFolder (.root top) m.folder path) hr
  rw [Scope.flat_cons, Scope.flat_nil, List.nil_append] at ht
  exact ⟨d, ht, rfl⟩

/-- **A picture unfolds to tags.** Each of them becomes the node that stands for it, and the picture
counts what they count for themselves, its root, and placeholders. -/
theorem document_unfolds {env : Setting} {m : Loaded} {globals : Bindings} {svg : Element}
    {c : Stats} (h : (document env m globals).Yields svg c) :
    ∃ met counts n,
      Unfolds env m.folder (globals ++ m.root.vars) (m.root.children.getD []) svg.children met ∧
      (∀ o ∈ met, TagBecomes env o.folder o.vars o.tag o.node) ∧
      List.Forall₂ (Counts env) met counts ∧
      c = .ofInterpolations n + counts.sum + .ofElements 1 := by
  obtain ⟨d, ⟨met, counts, filling, hu, hc, ⟨n, rfl⟩, rfl⟩, rfl⟩ := tallies_of_document h
  have hbecome := tagsBecome_of_document h.result_eq
  exact ⟨met, counts, n, hu, fun o ho => hu.becomes hbecome ho, hc, rfl⟩

end Resolve
end SvgSkeleton
