import SvgSkeleton.Proofs.AttributeOrder
import SvgSkeleton.Proofs.Unfolding

/-!
What is embedded in a picture. An image carries its file as its address, with the media type of the
kind that its tag names, or else of the file's extension. Its address is set first, and then the
attributes that its tag declares are; so a tag that declares an address itself has that one, and the
file is read and counted all the same. The rule of a font face carries the bytes of its font.
-/

namespace SvgSkeleton.Resolve

open Manifest (Tag FontFace Loaded)

/-- A rule carries the bytes of the font of a face. -/
def RuleCarries (env : Setting) (folder : String) (vars : Bindings) (face : FontFace)
    (font : ByteArray × String) : Prop :=
  ∃ format descriptors, HasFont env folder face.name face.source font.1 format ∧
    Filled vars face.attrs descriptors ∧
    font.2 = Css.fontFaceRule face.name format font.1 descriptors ∧
    (dataUri format.mediaType font.1).toList <:+: font.2.toList

/-- The node that stands for a tag carries the contents of files that the tag embeds. -/
inductive Carries (env : Setting) : Occurrence → List ByteArray → Prop
  | image {folder path file : String} {kind : Option String} {vars attrs own : Bindings}
      {kids : Option (List Tag)} {out : Attributes} {inner : List Node} {paired : Bool}
      {bytes : ByteArray} {type : ImageKind} (hb : HasAsset env folder path file bytes)
      (ht : (kind.or (Path.extension file)).bind ImageKind.ofName? = some type)
      (hfile : "href" ∉ attrs.map (·.1) → out.get? "href" = some (dataUri type.mediaType bytes))
      (hdeclared : "href" ∈ attrs.map (·.1) →
        ∃ filled, Filled (vars ++ own) attrs filled ∧ out.get? "href" = filled.get? "href") :
      Carries env ⟨folder, vars, .image path kind attrs own kids,
        .element "image" out inner paired⟩ [bytes]
  | font {folder : String} {vars attrs : Bindings} {faces : List FontFace} {out : Attributes}
      {fonts : List (ByteArray × String)}
      (hf : List.Forall₂ (RuleCarries env folder vars) faces fonts) :
      Carries env ⟨folder, vars, .font faces attrs,
        .element "defs" out [.element "style" .empty [.text (String.join (fonts.map (·.2))) false]
          true] true⟩ (fonts.map (·.1))
  | none {o : Occurrence} (hi : o.tag.kind ≠ .image) (hf : o.tag.kind ≠ .font) : Carries env o []

/-! ### The address of an image -/

section

variable {env : Setting} {folder path file : String} {vars attrs : Bindings} {filled : Attributes}

/-- What is declared replaces what was set before. -/
lemma Filled.get?_setAll_set (h : Filled vars attrs filled) (name value : String) :
    ((Attributes.empty.set name value).setAll filled.toList).get? name =
      (filled.get? name).or (some value) := by
  rw [Attributes.get?_setAll, lookup_reverse h.nodup_names, Attributes.get?_set, if_pos rfl]
  rfl

lemma Filled.get?_eq_none (h : Filled vars attrs filled) {name : String}
    (hn : name ∉ attrs.map (·.1)) : filled.get? name = none := by
  rw [← h.mem_names, ← Attributes.contains_iff_mem, Attributes.contains, Bool.not_eq_true,
    Option.isSome_eq_false_iff, Option.isNone_iff_eq_none] at hn
  exact hn

lemma Filled.exists_get? (h : Filled vars attrs filled) {name : String}
    (hn : name ∈ attrs.map (·.1)) : ∃ value, filled.get? name = some value := by
  rw [← h.mem_names, ← Attributes.contains_iff_mem, Attributes.contains] at hn
  exact Option.isSome_iff_exists.mp hn

/-- The kind of an image is the one that is named, or else the one that its extension names. -/
lemma imageKind_eq_ok_iff {kind : Option String} {type : ImageKind} :
    imageKind path kind = .ok type ↔
      (kind.or (Path.extension path)).bind ImageKind.ofName? = some type := by
  unfold imageKind
  cases (kind.or (Path.extension path)).bind ImageKind.ofName? with
  | none => exact iff_of_false nofun nofun
  | some found => simp

/-! ### The rules of fonts -/

lemma dataUri_infix_fontFaceRule (family : String) (format : FontFormat) (bytes : ByteArray)
    (descriptors : Attributes) :
    (dataUri format.mediaType bytes).toList <:+:
      (Css.fontFaceRule family format bytes descriptors).toList := by
  obtain ⟨after, h⟩ := Css.exists_fontFaceRule_eq family format bytes descriptors
  rw [h, String.toList_append, String.toList_append]
  exact List.infix_append ..

/-- Each rule carries the bytes that are counted for its face. -/
lemma exists_ruleCarries {faces : List FontFace} {contents : List ByteArray} {rules : List String}
    (hc : List.Forall₂ (HasBytes env folder) faces contents)
    (hr : List.Forall₂ (HasRule env folder vars) faces rules) :
    ∃ fonts, List.Forall₂ (RuleCarries env folder vars) faces fonts ∧
      fonts.map (·.1) = contents ∧ fonts.map (·.2) = rules := by
  induction hc generalizing rules with
  | nil =>
    cases hr
    exact ⟨[], .nil, rfl, rfl⟩
  | @cons face bytes _ _ hbytes _ ih =>
    obtain _ | ⟨hrule, hrest⟩ := hr
    obtain ⟨fonts, hf, rfl, rfl⟩ := ih hrest
    obtain ⟨format, hfont⟩ := hbytes
    obtain ⟨bytes', format', descriptors, hfont', hd, rfl⟩ := hrule
    obtain ⟨rfl, rfl⟩ := hfont.unique hfont'
    have hcarries : RuleCarries env folder vars face
        (bytes, Css.fontFaceRule face.name format bytes descriptors) :=
      ⟨format, descriptors, hfont, hd, rfl, dataUri_infix_fontFaceRule ..⟩
    exact ⟨_ :: fonts, .cons hcarries hf, rfl, rfl⟩

end

/-! ### The contents of files in a picture -/

section

variable {env : Setting} {o : Occurrence} {contents : List ByteArray}

/-- What a tag becomes carries what the tag embeds. -/
lemma TagBecomes.carries (h : TagBecomes env o.folder o.vars o.tag o.node)
    (he : Embeds env o.folder o.tag contents) : Carries env o contents := by
  obtain ⟨folder, vars, t, node⟩ := o
  cases he with
  | image hb =>
    cases h with
    | image hb' ht ha _ =>
      obtain ⟨rfl, rfl⟩ := hb.unique hb'
      simp only [Element.name_ofChildren, Element.attrs_ofChildren]
      refine .image hb (imageKind_eq_ok_iff.mp ht) (fun hn => ?_) (fun hd => ⟨_, ha, ?_⟩)
      · rw [ha.get?_setAll_set, ha.get?_eq_none hn, Option.none_or]
      · obtain ⟨value, hv⟩ := ha.exists_get? hd
        rw [ha.get?_setAll_set, hv, Option.some_or]
  | font hc =>
    cases h with
    | font hr _ =>
      obtain ⟨fonts, hf, rfl, rfl⟩ := exists_ruleCarries hc hr
      exact .font hf
  | none hi hf => exact .none hi hf

end

/-- The bytes that are counted are those that the tags embed. -/
lemma exists_embeds {env : Setting} {met : List Occurrence} {counts : List Stats}
    (h : List.Forall₂ (Counts env) met counts) :
    ∃ assets, List.Forall₂ (fun o contents => Embeds env o.folder o.tag contents) met assets ∧
      counts.sum.embeddedBytes = (assets.flatten.map (·.size)).sum := by
  induction h with
  | nil => exact ⟨[], .nil, rfl⟩
  | cons ho _ ih =>
    obtain ⟨contents, he, rfl⟩ := ho
    obtain ⟨assets, ha, hsum⟩ := ih
    refine ⟨contents :: assets, .cons he ha, ?_⟩
    rw [List.flatten_cons, List.map_append, List.sum_append, ← hsum, List.sum_cons]
    rfl

/-- **What the images and fonts of a picture read is in it, and their sizes are counted**: each
image has the address of its file, unless its tag declares another one, each rule of a font has that
of the bytes of the font, and as many bytes are counted as all these contents have together. -/
theorem document_embeds {env : Setting} {m : Loaded} {globals : Bindings} {svg : Element}
    {stats : Stats} (h : (document env m globals).start .zero = (.ok svg, stats)) :
    ∃ met assets, (∀ other, Unfolds env m.folder (globals ++ m.root.vars) (m.root.children.getD [])
        svg.children other ↔ other = met) ∧
      List.Forall₂ (Carries env) met assets ∧
      stats.embeddedBytes = (assets.flatten.map (·.size)).sum := by
  obtain ⟨met, counts, n, hu, hbecome, hc, rfl⟩ := document_unfolds h
  obtain ⟨assets, ha, hsum⟩ := exists_embeds hc
  refine ⟨met, assets, fun other => hu.iff_eq, ?_, ?_⟩
  · refine List.forall₂_iff_zip.mpr ⟨ha.length_eq, fun {o contents} hm => ?_⟩
    exact (hbecome o (List.of_mem_zip hm).1).carries (List.forall₂_zip ha hm)
  · show 0 + counts.sum.embeddedBytes + 0 = _
    rw [hsum, Nat.zero_add, Nat.add_zero]

/-- An image of a kind that its extension does not name, and a font. -/
def picturedFiles : MemoryFiles :=
  .ofList [("dot.png", "x".toUTF8), ("f.ttf", "yz".toUTF8)]

def pictured : Loaded :=
  ⟨⟨[], [], some [.image "dot.png" (some "jpeg") [("width", .text "5")] [] none,
    .font [⟨"F", .file "f.ttf", []⟩] []]⟩, "", "collagen.json", .plain, 0⟩

theorem pictured_embeds :
    ∃ svg stats met assets,
      (document ⟨picturedFiles.toStore, .empty, none, 64⟩ pictured []).start .zero =
        (.ok svg, stats) ∧
      (∀ other, Unfolds ⟨picturedFiles.toStore, .empty, none, 64⟩ "" []
        (pictured.root.children.getD []) svg.children other ↔ other = met) ∧
      List.Forall₂ (Carries ⟨picturedFiles.toStore, .empty, none, 64⟩) met assets ∧
      stats.embeddedBytes = (assets.flatten.map (·.size)).sum ∧ stats.embeddedBytes = 3 := by
  obtain ⟨svg, hsvg, -⟩ := exists_of_any (p := fun _ => true)
    (x := ((document ⟨picturedFiles.toStore, .empty, none, 64⟩ pictured []).start .zero).1)
    (by decide +kernel)
  have hstats : ((document ⟨picturedFiles.toStore, .empty, none, 64⟩ pictured []).start
      .zero).2.embeddedBytes = 3 := by decide +kernel
  have hstart : (document ⟨picturedFiles.toStore, .empty, none, 64⟩ pictured []).start .zero =
      (.ok svg, _) := Prod.ext hsvg rfl
  obtain ⟨met, assets, hu, hc, hsum⟩ := document_embeds hstart
  exact ⟨svg, _, met, assets, hstart, hu, hc, hsum, hstats⟩

/-- Is this the only node, an image with this address? -/
def isImageAt (address : String) : List Node → Bool
  | [.element "image" out _ _] => out.get? "href" == some address
  | _ => false

/-- An image that declares an address has that one and not the one of its file, which is counted. -/
theorem dot_elsewhere :
    ∃ svg stats, (document ⟨dotFile.toStore, .empty, none, 64⟩
        (showingDot [("href", .text "b")]) []).start .zero = (.ok svg, stats) ∧
      isImageAt "b" svg.children = true ∧
      HasAsset ⟨dotFile.toStore, .empty, none, 64⟩ "" "dot.png" "dot.png" "x".toUTF8 ∧
      imageKind "dot.png" none = .ok .png ∧
      "b" ≠ dataUri ImageKind.png.mediaType "x".toUTF8 ∧ stats.embeddedBytes = 1 := by
  obtain ⟨svg, hsvg, himage⟩ := exists_of_any (p := fun svg : Element => isImageAt "b" svg.children)
    (x := ((document ⟨dotFile.toStore, .empty, none, 64⟩
      (showingDot [("href", .text "b")]) []).start .zero).1) (by decide +kernel)
  have hbytes : ((document ⟨dotFile.toStore, .empty, none, 64⟩
      (showingDot [("href", .text "b")]) []).start .zero).2.embeddedBytes = 1 := by decide +kernel
  refine ⟨svg, _, Prod.ext hsvg rfl, himage, ⟨by decide +kernel, ?_⟩, by decide +kernel,
    by decide +kernel, hbytes⟩
  rfl

end SvgSkeleton.Resolve
