import SvgSkeleton.Proofs.Inclusion
import SvgSkeleton.Proofs.Names

/-!
What tags and manifests become, said without running anything. Where a tag stands, the defined
variables are one list of pairs: those of the picture, then those of the tags around it from the
outside in. Images and other tags with children add their own variables to it, for themselves and
their children; an included manifest starts again from its own. A folder becomes what its manifest
becomes, wherever it is included.
-/

namespace SvgSkeleton

namespace Element

variable {name : String} {attrs : Attributes} {nodes : Option (List Node)}

@[simp] lemma name_ofChildren : (ofChildren name attrs nodes).name = name := by
  cases nodes <;> rfl

@[simp] lemma attrs_ofChildren : (ofChildren name attrs nodes).attrs = attrs := by
  cases nodes <;> rfl

@[simp] lemma children_ofChildren : (ofChildren name attrs nodes).children = nodes.getD [] := by
  cases nodes <;> rfl

end Element

/-- A rule names its family between quotes, and shows the bytes behind that. -/
lemma Css.exists_fontFaceRule_eq (family : String) (format : FontFormat) (bytes : ByteArray)
    (descriptors : Attributes) : ∃ after,
      fontFaceRule family format bytes descriptors =
        "@font-face \x7b font-family: " ++ ("\"" ++ escape family ++ "\"") ++ "; src: url("
          ++ dataUri format.mediaType bytes ++ after := by
  have hopen : "@font-face \x7b font-family: \"" = "@font-face \x7b font-family: " ++ "\"" := rfl
  have hclose : "\"; src: url(" = "\"" ++ "; src: url(" := rfl
  unfold fontFaceRule
  generalize dataUri format.mediaType bytes = uri
  refine ⟨") format(\"" ++ format.cssName ++ "\");"
    ++ String.join (descriptors.toList.map descriptor) ++ " \x7d", ?_⟩
  rw [hopen, hclose]
  simp only [String.append_assoc]

namespace Manifest

/-- The list of children of a tag, if it has one. -/
def Tag.children : Tag → Option (List Tag)
  | .image _ _ _ _ kids => kids
  | .generic _ _ _ kids => kids
  | _ => none

/-- The variables that a tag defines for itself and for what is inside it. -/
def Tag.vars : Tag → Bindings
  | .image _ _ _ vars _ => vars
  | .generic _ _ vars _ => vars
  | _ => []

end Manifest

namespace Resolve

open Manifest (Tag FontFace Root Loaded)

/-- An attribute is written with its value filled in. -/
inductive FilledAttr (vars : Bindings) : String × Scalar → String × String → Prop
  | text {name text value : String} (h : vars.FillsIn text value) :
      FilledAttr vars (name, .text text) (name, value)
  | number (name : String) (n : Json.Number) : FilledAttr vars (name, .number n) (name, n.text)

/-- Attributes are written with their values filled in. -/
def Filled (vars attrs : Bindings) (out : Attributes) : Prop :=
  ∃ pairs, List.Forall₂ (FilledAttr vars) attrs pairs ∧ out = .ofList pairs

/-- The path of an asset of a folder, and its bytes. -/
def HasAsset (env : Setting) (folder path file : String) (bytes : ByteArray) : Prop :=
  joinPath folder path = .ok file ∧ env.store.read file = .ok bytes

/-- The bytes of a font and their format. -/
inductive HasFont (env : Setting) (folder name : String) :
    Manifest.FontSource → ByteArray → FontFormat → Prop
  | bundled {bytes : ByteArray} (h : env.fonts.get name = .ok bytes) :
      HasFont env folder name .bundled bytes .woff2
  | file {path file : String} {bytes : ByteArray} (h : HasAsset env folder path file bytes) :
      HasFont env folder name (.file path) bytes (.ofExtension (Path.extension file))

/-- The rule of a font face in a style sheet. -/
def HasRule (env : Setting) (folder : String) (vars : Bindings) (face : FontFace) (rule : String) :
    Prop :=
  ∃ bytes format descriptors, HasFont env folder face.name face.source bytes format ∧
    Filled vars face.attrs descriptors ∧
    rule = Css.fontFaceRule face.name format bytes descriptors

/-- The markup inside an SVG file. -/
def HasMarkup (env : Setting) (folder path markup : String) : Prop :=
  ∃ file text, joinPath folder path = .ok file ∧ env.store.readText file = .ok text ∧
    Markup.inner text = .ok markup

/-- The manifest that a container includes. -/
def Leads (env : Setting) (folder path : String) (m : Loaded) : Prop :=
  joinPath folder path = .ok m.folder ∧
    Manifest.load env.store env.compiler m.folder = .ok m

mutual

/-- The node that a tag of a folder becomes where `vars` are defined. -/
inductive TagBecomes (env : Setting) : String → Bindings → Tag → Node → Prop
  | container {folder path : String} {vars : Bindings} {m : Loaded} {svg : Element}
      (hm : Leads env folder path m) (hr : RootBecomes env m [] svg) :
      TagBecomes env folder vars (.container path) { svg with name := "g" }.toNode
  | image {folder path file : String} {kind : Option String} {vars own attrs : Bindings}
      {kids : Option (List Tag)} {bytes : ByteArray} {type : ImageKind} {out : Attributes}
      {nodes : Option (List Node)} (hb : HasAsset env folder path file bytes)
      (ht : imageKind file kind = .ok type) (ha : Filled (vars ++ own) attrs out)
      (hk : ChildrenBecome env folder (vars ++ own) kids nodes) :
      TagBecomes env folder vars (.image path kind attrs own kids)
        (Element.ofChildren "image"
          ((Attributes.empty.set "href" (dataUri type.mediaType bytes)).setAll out.toList)
          nodes).toNode
  | font {folder : String} {vars attrs : Bindings} {faces : List FontFace} {rules : List String}
      {out : Attributes} (hf : List.Forall₂ (HasRule env folder vars) faces rules)
      (ha : Filled vars attrs out) :
      TagBecomes env folder vars (.font faces attrs)
        (Element.pair "defs" out
          [(Element.pair "style" .empty [.text (String.join rules) false]).toNode]).toNode
  | nestedSvg {folder path markup : String} {vars attrs : Bindings} {out : Attributes}
      (hm : HasMarkup env folder path markup) (ha : Filled vars attrs out) :
      TagBecomes env folder vars (.nestedSvg path attrs)
        (Element.pair "g" out (if markup.isEmpty then [] else [.text markup true])).toNode
  | raw {folder content : String} {vars : Bindings} :
      TagBecomes env folder vars (.text content true) (.text content true)
  | text {folder content value : String} {vars : Bindings} (h : vars.FillsIn content value) :
      TagBecomes env folder vars (.text content false) (.text value false)
  | generic {folder name : String} {vars own attrs : Bindings} {kids : Option (List Tag)}
      {out : Attributes} {nodes : Option (List Node)} (ha : Filled (vars ++ own) attrs out)
      (hk : ChildrenBecome env folder (vars ++ own) kids nodes) :
      TagBecomes env folder vars (.generic name attrs own kids)
        (Element.ofChildren name out nodes).toNode

inductive ChildrenBecome (env : Setting) :
    String → Bindings → Option (List Tag) → Option (List Node) → Prop
  | none {folder : String} {vars : Bindings} : ChildrenBecome env folder vars none none
  | some {folder : String} {vars : Bindings} {tags : List Tag} {nodes : List Node}
      (h : TagsBecome env folder vars tags nodes) :
      ChildrenBecome env folder vars (some tags) (some nodes)

inductive TagsBecome (env : Setting) : String → Bindings → List Tag → List Node → Prop
  | nil {folder : String} {vars : Bindings} : TagsBecome env folder vars [] []
  | cons {folder : String} {vars : Bindings} {t : Tag} {node : Node} {rest : List Tag}
      {nodes : List Node} (ht : TagBecomes env folder vars t node)
      (hr : TagsBecome env folder vars rest nodes) :
      TagsBecome env folder vars (t :: rest) (node :: nodes)

/-- The element that a manifest becomes, around which `vars` are defined. -/
inductive RootBecomes (env : Setting) : Loaded → Bindings → Element → Prop
  | root {m : Loaded} {vars : Bindings} {out : Attributes} {nodes : Option (List Node)}
      (ha : Filled (vars ++ m.root.vars) m.root.attrs out)
      (hk : ChildrenBecome env m.folder (vars ++ m.root.vars) m.root.children nodes) :
      RootBecomes env m vars (.ofChildren "svg" out nodes)

end

/-! ### A run makes what the manifest becomes -/

section

variable {env : Setting} {s : Surroundings} {scope : Scope}

lemma fillsIn_of_result {element text value : String}
    (h : (fillText scope element text).result = .ok value) : scope.flat.FillsIn text value := by
  rw [result_fillText, mapError_eq_ok_iff] at h
  exact Bindings.fillsIn_iff.mpr h

lemma filledAttr_of_result {element : String} {a : String × Scalar} {b : String × String}
    (h : (fillAttr scope element a).result = .ok b) : FilledAttr scope.flat a b := by
  obtain ⟨name, value⟩ := a
  cases value with
  | text value =>
    obtain ⟨filled, hf, h⟩ := Run.result_bind_eq_ok_iff.mp h
    obtain rfl := Except.ok.inj h
    exact .text (fillsIn_of_result hf)
  | number n =>
    obtain rfl := Except.ok.inj h
    exact .number name n

lemma filled_of_result {element : String} {attrs : Bindings} {out : Attributes}
    (h : (fillAttrs scope element attrs).result = .ok out) : Filled scope.flat attrs out := by
  obtain ⟨pairs, hp, h⟩ := Run.result_bind_eq_ok_iff.mp h
  obtain rfl := Except.ok.inj h
  rw [Run.result_mapM, mapM_eq_ok_iff] at hp
  exact ⟨pairs, hp.imp fun a b => filledAttr_of_result, rfl⟩

lemma hasAsset_of_ok (hs : s.store = env.store) {path file : String} {bytes : ByteArray}
    (h : asset s path = .ok (file, bytes)) : HasAsset env s.folder path file bytes := by
  obtain ⟨file', hj, h⟩ := bind_eq_ok_iff.mp h
  obtain ⟨bytes', hb, h⟩ := bind_eq_ok_iff.mp h
  obtain ⟨rfl, rfl⟩ := Prod.mk.inj (Except.ok.inj h)
  rw [hs] at hb
  exact ⟨hj, hb⟩

lemma hasFont_of_ok (hs : s.store = env.store) (hf : s.fonts = env.fonts) {face : FontFace}
    {bytes : ByteArray} {format : FontFormat} (h : fontBytes s face = .ok (bytes, format)) :
    HasFont env s.folder face.name face.source bytes format := by
  unfold fontBytes at h
  cases hsrc : face.source with
  | bundled =>
    rw [hsrc] at h
    obtain ⟨got, hg, h⟩ := bind_eq_ok_iff.mp h
    obtain ⟨rfl, rfl⟩ := Prod.mk.inj (Except.ok.inj h)
    rw [hf] at hg
    exact .bundled hg
  | file path =>
    rw [hsrc] at h
    obtain ⟨⟨file, got⟩, hg, h⟩ := bind_eq_ok_iff.mp h
    obtain ⟨rfl, rfl⟩ := Prod.mk.inj (Except.ok.inj h)
    exact .file (hasAsset_of_ok hs hg)

lemma hasRule_of_result (hs : s.store = env.store) (hf : s.fonts = env.fonts) {face : FontFace}
    {rule : String} (h : (fontFace s scope face).result = .ok rule) :
    HasRule env s.folder scope.flat face rule := by
  obtain ⟨⟨bytes, format⟩, hb, h⟩ := Run.result_bind_eq_ok_iff.mp h
  obtain ⟨descriptors, hd, h⟩ := Run.result_bind_eq_ok_iff.mp h
  obtain ⟨u, -, h⟩ := Run.result_bind_eq_ok_iff.mp h
  obtain rfl := Except.ok.inj h
  exact ⟨bytes, format, descriptors, hasFont_of_ok hs hf hb, filled_of_result hd, rfl⟩

lemma hasMarkup_of_ok (hs : s.store = env.store) {path markup : String}
    (h : nestedMarkup s path = .ok markup) : HasMarkup env s.folder path markup := by
  obtain ⟨file, hj, h⟩ := bind_eq_ok_iff.mp h
  obtain ⟨text, ht, h⟩ := bind_eq_ok_iff.mp h
  rw [hs] at ht
  exact ⟨file, text, hj, ht, mapError_eq_ok_iff.mp h⟩

lemma becomes_of_font (hs : s.store = env.store) (hf : s.fonts = env.fonts)
    {faces : List FontFace} {attrs : Bindings} {g : Element}
    (h : (font s scope faces attrs).result = .ok g) :
    TagBecomes env s.folder scope.flat (.font faces attrs) g.toNode := by
  obtain ⟨rules, hr, h⟩ := Run.result_bind_eq_ok_iff.mp h
  obtain ⟨out, ha, h⟩ := Run.result_bind_eq_ok_iff.mp h
  obtain ⟨u, -, h⟩ := Run.result_bind_eq_ok_iff.mp h
  obtain rfl := Except.ok.inj h
  rw [Run.result_mapM, mapM_eq_ok_iff] at hr
  exact .font (hr.imp fun face rule => hasRule_of_result hs hf) (filled_of_result ha)

lemma becomes_of_nestedSvg (hs : s.store = env.store) {path : String} {attrs : Bindings}
    {g : Element} (h : (nestedSvg s scope path attrs).result = .ok g) :
    TagBecomes env s.folder scope.flat (.nestedSvg path attrs) g.toNode := by
  obtain ⟨markup, hm, h⟩ := Run.result_bind_eq_ok_iff.mp h
  obtain ⟨out, ha, h⟩ := Run.result_bind_eq_ok_iff.mp h
  obtain ⟨u, -, h⟩ := Run.result_bind_eq_ok_iff.mp h
  obtain rfl := Except.ok.inj h
  exact .nestedSvg (hasMarkup_of_ok hs hm) (filled_of_result ha)

lemma becomes_of_text {folder content : String} {raw : Bool} {node : Node}
    (h : (text scope content raw).result = .ok node) :
    TagBecomes env folder scope.flat (.text content raw) node := by
  obtain ⟨u, -, h⟩ := Run.result_bind_eq_ok_iff.mp h
  cases raw with
  | true =>
    obtain rfl := Except.ok.inj h
    exact .raw
  | false =>
    obtain ⟨value, hv, h⟩ := Run.result_bind_eq_ok_iff.mp h
    obtain rfl := Except.ok.inj h
    exact .text (fillsIn_of_result hv)

variable [∀ path, (s.included path).Adds]

/-- Tags and lists of them become what they should if what they include does. -/
lemma becomes_of_tags (hs : s.store = env.store) (hf : s.fonts = env.fonts)
    (hinc : ∀ path g, (s.included path).result = .ok g → ∃ m svg, Leads env s.folder path m ∧
      RootBecomes env m [] svg ∧ g = { svg with name := "g" }) :
    (∀ scope t node, (tag s scope t).result = .ok node →
      TagBecomes env s.folder scope.flat t node) ∧
    (∀ scope kids nodes, (children s scope kids).result = .ok nodes →
      ChildrenBecome env s.folder scope.flat kids nodes) ∧
    ∀ scope ts nodes, (tagList s scope ts).result = .ok nodes →
      TagsBecome env s.folder scope.flat ts nodes := by
  refine tag.mutual_induct _ _ _ ?container ?image ?font ?nestedSvg ?text ?generic ?none ?some
    ?nil ?cons
  case container =>
    intro scope path node h
    rw [tag] at h
    obtain ⟨g, hg, h⟩ := Run.result_bind_eq_ok_iff.mp h
    obtain rfl := Except.ok.inj h
    obtain ⟨m, svg, hm, hr, rfl⟩ := hinc path g hg
    exact .container hm hr
  case image =>
    intro scope path kind attrs own kids ih node h
    rw [tag] at h
    obtain ⟨⟨uri, size⟩, hi, h⟩ := Run.result_bind_eq_ok_iff.mp h
    obtain ⟨out, ha, h⟩ := Run.result_bind_eq_ok_iff.mp h
    obtain ⟨nodes, hk, h⟩ := Run.result_bind_eq_ok_iff.mp h
    obtain ⟨u, -, h⟩ := Run.result_bind_eq_ok_iff.mp h
    obtain rfl := Except.ok.inj h
    obtain ⟨⟨file, bytes⟩, hb, hi⟩ := bind_eq_ok_iff.mp hi
    obtain ⟨type, ht, hi⟩ := bind_eq_ok_iff.mp hi
    obtain ⟨rfl, rfl⟩ := Prod.mk.inj (Except.ok.inj hi)
    have ha := filled_of_result ha
    have hk := ih nodes hk
    rw [Scope.flat_cons] at ha hk
    exact .image (hasAsset_of_ok hs hb) ht ha hk
  case font =>
    intro scope faces attrs node h
    rw [tag] at h
    obtain ⟨g, hg, h⟩ := Run.result_bind_eq_ok_iff.mp h
    obtain rfl := Except.ok.inj h
    exact becomes_of_font hs hf hg
  case nestedSvg =>
    intro scope path attrs node h
    rw [tag] at h
    obtain ⟨g, hg, h⟩ := Run.result_bind_eq_ok_iff.mp h
    obtain rfl := Except.ok.inj h
    exact becomes_of_nestedSvg hs hg
  case text =>
    intro scope content raw node h
    rw [tag] at h
    exact becomes_of_text h
  case generic =>
    intro scope name attrs own kids inner ih node h
    rw [tag] at h
    obtain ⟨out, ha, h⟩ := Run.result_bind_eq_ok_iff.mp h
    obtain ⟨nodes, hk, h⟩ := Run.result_bind_eq_ok_iff.mp h
    obtain ⟨u, -, h⟩ := Run.result_bind_eq_ok_iff.mp h
    obtain rfl := Except.ok.inj h
    have ha := filled_of_result ha
    have hk := ih nodes hk
    rw [Scope.flat_cons] at ha hk
    exact .generic ha hk
  case none =>
    intro scope nodes h
    obtain rfl := Except.ok.inj h
    exact .none
  case some =>
    intro scope ts ih nodes h
    obtain ⟨got, hg, h⟩ := Run.result_bind_eq_ok_iff.mp h
    obtain rfl := Except.ok.inj h
    exact .some (ih got hg)
  case nil =>
    intro scope nodes h
    obtain rfl := Except.ok.inj h
    exact .nil
  case cons =>
    intro scope t rest iht ihrest nodes h
    obtain ⟨node, hn, h⟩ := Run.result_bind_eq_ok_iff.mp h
    obtain ⟨others, ho, h⟩ := Run.result_bind_eq_ok_iff.mp h
    obtain rfl := Except.ok.inj h
    exact .cons (iht node hn) (ihrest others ho)

end

lemma becomes_of_root {env : Setting} {s : Surroundings} [∀ path, (s.included path).Adds]
    (hs : s.store = env.store) (hf : s.fonts = env.fonts)
    (hinc : ∀ path g, (s.included path).result = .ok g → ∃ m svg, Leads env s.folder path m ∧
      RootBecomes env m [] svg ∧ g = { svg with name := "g" })
    {scope : Scope} {m : Loaded} (hm : m.folder = s.folder) {svg : Element}
    (h : (root s scope m.root).result = .ok svg) : RootBecomes env m scope.flat svg := by
  obtain ⟨out, ha, h⟩ := Run.result_bind_eq_ok_iff.mp h
  obtain ⟨nodes, hk, h⟩ := Run.result_bind_eq_ok_iff.mp h
  obtain ⟨u, -, h⟩ := Run.result_bind_eq_ok_iff.mp h
  obtain rfl := Except.ok.inj h
  have ha := filled_of_result ha
  have hk := (becomes_of_tags hs hf hinc).2.1 _ _ _ hk
  rw [Scope.flat_cons] at ha hk
  rw [← hm] at hk
  exact .root ha hk

/-- **An included folder becomes what its manifest becomes by itself, as a group.** -/
theorem becomes_of_includeFolder {env : Setting} (chain : IncludeChain) (folder path : String)
    {g : Element} (h : (includeFolder env chain folder path).result = .ok g) :
    ∃ m svg, Leads env folder path m ∧ RootBecomes env m [] svg ∧ g = { svg with name := "g" } := by
  rw [result_includeFolder] at h
  obtain ⟨⟨chain', m⟩, he, h⟩ := bind_eq_ok_iff.mp h
  obtain ⟨svg, hr, h⟩ := bind_eq_ok_iff.mp h
  obtain rfl := Except.ok.inj h
  obtain ⟨canonical, hj, -, -, -, hl, -⟩ := enter_eq_ok_iff.mp he
  have hlt := length_unvisited_lt he
  refine ⟨m, svg, ⟨hj, hl⟩, ?_, rfl⟩
  exact becomes_of_root (s := inside env chain' m.folder) rfl rfl
    (fun path g => becomes_of_includeFolder chain' m.folder path) rfl hr
termination_by (unvisited env.store chain).length

/-- **A picture is what its manifest becomes, with the name space of SVG.** -/
theorem becomes_of_document {env : Setting} {m : Loaded} {globals : Bindings} {svg : Element}
    (h : (document env m globals).result = .ok svg) :
    ∃ made, RootBecomes env m globals made ∧
      svg = { made with attrs := made.attrs.setDefaultFirst "xmlns" svgNamespace } := by
  rw [result_document] at h
  obtain ⟨top, -, h⟩ := bind_eq_ok_iff.mp h
  obtain ⟨made, hr, h⟩ := bind_eq_ok_iff.mp h
  obtain rfl := Except.ok.inj h
  have hb := becomes_of_root (s := inside env (.root top) m.folder) rfl rfl
    (fun path g => becomes_of_includeFolder (.root top) m.folder path) rfl hr
  rw [Scope.flat_cons, Scope.flat_nil, List.nil_append] at hb
  exact ⟨made, hb, rfl⟩

/-! ### What a manifest becomes is a single picture -/

section

variable {env : Setting} {folder path : String} {vars : Bindings}

lemma FilledAttr.unique : Relator.RightUnique (FilledAttr vars) := by
  rintro a b c (h | _) hc
  · cases hc with
    | text h' => rw [h.unique h']
  · cases hc
    rfl

lemma Filled.unique {attrs : Bindings} {a b : Attributes} (ha : Filled vars attrs a)
    (hb : Filled vars attrs b) : a = b := by
  obtain ⟨pairs, hp, rfl⟩ := ha
  obtain ⟨pairs', hp', rfl⟩ := hb
  rw [FilledAttr.unique.forall₂ hp hp']

lemma Filled.mem_names {attrs : Bindings} {out : Attributes} (h : Filled vars attrs out)
    {name : String} : name ∈ out.names ↔ name ∈ attrs.map (·.1) := by
  obtain ⟨pairs, hp, rfl⟩ := h
  rw [Attributes.mem_names_ofList]
  induction hp with
  | nil => rfl
  | cons ha _ ih =>
    rw [List.map_cons, List.map_cons, List.mem_cons, List.mem_cons, ih]
    cases ha <;> rfl

lemma Filled.nodup_names {attrs : Bindings} {out : Attributes} (h : Filled vars attrs out) :
    out.names.Nodup := by
  obtain ⟨pairs, -, rfl⟩ := h
  exact Attributes.nodup_names_ofList

lemma HasAsset.unique {file file' : String} {bytes bytes' : ByteArray}
    (h : HasAsset env folder path file bytes) (h' : HasAsset env folder path file' bytes') :
    file = file' ∧ bytes = bytes' := by
  obtain rfl := Except.ok.inj (h.1.symm.trans h'.1)
  exact ⟨rfl, Except.ok.inj (h.2.symm.trans h'.2)⟩

lemma HasFont.unique {name : String} {source : Manifest.FontSource} {bytes bytes' : ByteArray}
    {format format' : FontFormat} (h : HasFont env folder name source bytes format)
    (h' : HasFont env folder name source bytes' format') : bytes = bytes' ∧ format = format' := by
  cases h with
  | bundled h =>
    cases h' with
    | bundled h' => exact ⟨Except.ok.inj (h.symm.trans h'), rfl⟩
  | file h =>
    cases h' with
    | file h' =>
      obtain ⟨rfl, rfl⟩ := h.unique h'
      exact ⟨rfl, rfl⟩

lemma HasRule.unique : Relator.RightUnique (HasRule env folder vars) := by
  rintro face a b ⟨bytes, format, descriptors, hf, hd, rfl⟩ ⟨_, _, _, hf', hd', rfl⟩
  obtain ⟨rfl, rfl⟩ := hf.unique hf'
  rw [hd.unique hd']

lemma HasMarkup.unique {a b : String} (ha : HasMarkup env folder path a)
    (hb : HasMarkup env folder path b) : a = b := by
  obtain ⟨file, text, hj, ht, hi⟩ := ha
  obtain ⟨file', text', hj', ht', hi'⟩ := hb
  obtain rfl := Except.ok.inj (hj.symm.trans hj')
  obtain rfl := Except.ok.inj (ht.symm.trans ht')
  exact Except.ok.inj (hi.symm.trans hi')

lemma Leads.unique {m m' : Loaded} (h : Leads env folder path m) (h' : Leads env folder path m') :
    m = m' := by
  have hf : m.folder = m'.folder := Except.ok.inj (h.1.symm.trans h'.1)
  have hl := h.2
  rw [hf] at hl
  exact Except.ok.inj (hl.symm.trans h'.2)

end

mutual

theorem TagBecomes.unique {env : Setting} {folder : String} {vars : Bindings} {t : Tag}
    {a b : Node} : TagBecomes env folder vars t a → TagBecomes env folder vars t b → a = b
  | .container hm hr, .container hm' hr' => by
    obtain rfl := hm.unique hm'
    rw [hr.unique hr']
  | .image hb ht ha hk, .image hb' ht' ha' hk' => by
    obtain ⟨rfl, rfl⟩ := hb.unique hb'
    obtain rfl := Except.ok.inj (ht.symm.trans ht')
    rw [ha.unique ha', hk.unique hk']
  | .font hf ha, .font hf' ha' => by
    rw [HasRule.unique.forall₂ hf hf', ha.unique ha']
  | .nestedSvg hm ha, .nestedSvg hm' ha' => by rw [hm.unique hm', ha.unique ha']
  | .raw, .raw => rfl
  | .text h, .text h' => by rw [h.unique h']
  | .generic ha hk, .generic ha' hk' => by rw [ha.unique ha', hk.unique hk']
termination_by structural h => h

theorem ChildrenBecome.unique {env : Setting} {folder : String} {vars : Bindings}
    {kids : Option (List Tag)} {a b : Option (List Node)} :
    ChildrenBecome env folder vars kids a → ChildrenBecome env folder vars kids b → a = b
  | .none, .none => rfl
  | .some h, .some h' => by rw [h.unique h']

theorem TagsBecome.unique {env : Setting} {folder : String} {vars : Bindings} {tags : List Tag}
    {a b : List Node} :
    TagsBecome env folder vars tags a → TagsBecome env folder vars tags b → a = b
  | .nil, .nil => rfl
  | .cons ht hr, .cons ht' hr' => by rw [ht.unique ht', hr.unique hr']

theorem RootBecomes.unique {env : Setting} {m : Loaded} {vars : Bindings} {a b : Element} :
    RootBecomes env m vars a → RootBecomes env m vars b → a = b
  | .root ha hk, .root ha' hk' => by rw [ha.unique ha', hk.unique hk']

end

lemma RootBecomes.name_eq {env : Setting} {m : Loaded} {vars : Bindings} {svg : Element}
    (h : RootBecomes env m vars svg) : svg.name = "svg" := by
  obtain ⟨-, -⟩ := h
  exact Element.name_ofChildren

lemma RootBecomes.mem_names {env : Setting} {m : Loaded} {vars : Bindings} {svg : Element}
    (h : RootBecomes env m vars svg) {name : String} :
    name ∈ svg.attrs.names ↔ name ∈ m.root.attrs.map (·.1) := by
  obtain ⟨ha, -⟩ := h
  rw [Element.attrs_ofChildren, ha.mem_names]

/-! ### Tags and the nodes that stand for them -/

/-- In a picture of a manifest the nodes stand for the tags: for the children of the manifest, of a
tag, or of a manifest that is included. -/
inductive Shown (env : Setting) (m : Loaded) (picture : List Node) :
    String → List Tag → List Node → Prop
  | top {tags : List Tag} (hk : m.root.children = some tags) :
      Shown env m picture m.folder tags picture
  | inside {folder name : String} {tags kids : List Tag} {nodes inner : List Node} {t : Tag}
      {attrs : Attributes} {paired : Bool} (h : Shown env m picture folder tags nodes)
      (ht : (t, .element name attrs inner paired) ∈ tags.zip nodes) (hk : t.children = some kids) :
      Shown env m picture folder kids inner
  | included {folder path name : String} {tags kids : List Tag} {nodes inner : List Node}
      {nested : Loaded} {attrs : Attributes} {paired : Bool}
      (h : Shown env m picture folder tags nodes)
      (ht : (.container path, .element name attrs inner paired) ∈ tags.zip nodes)
      (hl : Leads env folder path nested) (hk : nested.root.children = some kids) :
      Shown env m picture nested.folder kids inner

theorem TagsBecome.forall₂ {env : Setting} {folder : String} {vars : Bindings} {tags : List Tag}
    {nodes : List Node} : TagsBecome env folder vars tags nodes →
      List.Forall₂ (TagBecomes env folder vars) tags nodes
  | .nil => .nil
  | .cons ht hr => .cons ht hr.forall₂

section

variable {env : Setting} {folder path name : String} {vars : Bindings} {t : Tag} {kids : List Tag}
  {attrs : Attributes} {inner : List Node} {paired : Bool}

lemma ChildrenBecome.tagsBecome {kids : Option (List Tag)} {nodes : Option (List Node)} :
    ChildrenBecome env folder vars kids nodes →
      TagsBecome env folder vars (kids.getD []) (nodes.getD [])
  | .none => .nil
  | .some h => h

/-- What is inside a picture is what the children of its manifest become. -/
lemma tagsBecome_of_document {m : Loaded} {globals : Bindings} {svg : Element}
    (h : (document env m globals).result = .ok svg) :
    TagsBecome env m.folder (globals ++ m.root.vars) (m.root.children.getD []) svg.children := by
  obtain ⟨made, ⟨-, hkids⟩, rfl⟩ := becomes_of_document h
  rw [Element.children_ofChildren]
  exact hkids.tagsBecome

/-- What is inside an element is what the children of its tag become. -/
lemma TagBecomes.tagsBecome_inside
    (h : TagBecomes env folder vars t (.element name attrs inner paired))
    (hk : t.children = some kids) : TagsBecome env folder (vars ++ t.vars) kids inner := by
  generalize hn : Node.element _ _ _ _ = node at h
  cases h with
  | image _ _ _ hkids =>
    obtain ⟨-, -, rfl, -⟩ := Node.element.inj hn
    obtain rfl : _ = some _ := hk
    rw [Element.children_ofChildren]
    exact hkids.tagsBecome
  | generic _ hkids =>
    obtain ⟨-, -, rfl, -⟩ := Node.element.inj hn
    obtain rfl : _ = some _ := hk
    rw [Element.children_ofChildren]
    exact hkids.tagsBecome
  | _ => cases hk

/-- What is inside the element of a container is what the children of its manifest become. -/
lemma TagBecomes.tagsBecome_included {m : Loaded}
    (h : TagBecomes env folder vars (.container path) (.element name attrs inner paired))
    (hl : Leads env folder path m) :
    TagsBecome env m.folder m.root.vars (m.root.children.getD []) inner := by
  generalize hn : Node.element _ _ _ _ = node at h
  cases h with
  | container hl' hr =>
    obtain rfl := hl.unique hl'
    obtain ⟨-, -, rfl, -⟩ := Node.element.inj hn
    obtain ⟨-, hkids⟩ := hr
    rw [Element.children_ofChildren]
    exact hkids.tagsBecome

end

/-- What stands for tags is what they become. -/
lemma exists_tagsBecome {env : Setting} {m : Loaded} {vars : Bindings} {svg : Element}
    (hm : RootBecomes env m vars svg) {folder : String} {tags : List Tag} {nodes : List Node}
    (h : Shown env m svg.children folder tags nodes) :
    ∃ inner, TagsBecome env folder inner tags nodes := by
  induction h with
  | top hk =>
    obtain ⟨-, hkids⟩ := hm
    rw [hk] at hkids
    rw [Element.children_ofChildren]
    exact ⟨_, hkids.tagsBecome⟩
  | inside h ht hk ih =>
    obtain ⟨around, hts⟩ := ih
    exact ⟨_, (List.forall₂_zip hts.forall₂ ht).tagsBecome_inside hk⟩
  | included h ht hl hk ih =>
    obtain ⟨around, hts⟩ := ih
    have hinner := (List.forall₂_zip hts.forall₂ ht).tagsBecome_included hl
    rw [hk] at hinner
    exact ⟨_, hinner⟩

end Resolve
end SvgSkeleton
