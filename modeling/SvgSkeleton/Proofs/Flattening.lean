import SvgSkeleton.Proofs.Leaves
import SvgSkeleton.Proofs.Rearranged

/-!
Children and what is written for them. An object that may have children becomes an element with one
node for each leaf of the children that it lists, in their order; it is written as a single tag
exactly if it has no list of them. Since nothing else is left of the lists, pictures do not depend
on how children are grouped, unless a manifest is shown as it is.
-/

namespace SvgSkeleton

namespace Markup

/-- The element as a single tag. -/
def singleTag (e : Element) : String := "<" ++ e.name ++ printAttrs e.attrs.toList ++ "/>"

/-- The element as two tags around its children. -/
def tagPair (e : Element) : String :=
  "<" ++ e.name ++ printAttrs e.attrs.toList ++ ">" ++ printAll e.children ++ "</" ++ e.name ++ ">"

variable {e : Element}

lemma printElement_of_single (hc : e.children = []) (hp : e.paired = false) :
    printElement e = singleTag e := by
  rw [printElement, Element.toNode, print, hc, hp]
  rfl

lemma printElement_of_paired (hp : e.paired = true) : printElement e = tagPair e := by
  rw [printElement, Element.toNode, print, hp, Bool.not_true, Bool.and_false, if_neg (by simp)]
  rfl

lemma tagPair_ne_singleTag : tagPair e ≠ singleTag e := by
  intro h
  have h := congrArg String.toList h
  simp [tagPair, singleTag] at h

end Markup

namespace Resolve

open Manifest (Tag Root Loaded IsTag HasChildren HasVariables)
open Json (Members)

/-! ### One node for each leaf -/

/-- A leaf is read as a tag, wherever it stands, and the tag becomes the node. -/
def LeafBecomes (s : Surroundings) (scope : Scope) (leaf : Json) (node : Node) : Prop :=
  ∃ t, (∀ l, Manifest.tagOf l leaf = .ok t) ∧ (tag s scope t).result = .ok node

/-- The element has one node for each leaf among the children of the object, and is written as a
single tag exactly if the object has none. -/
structure Flattens (s : Surroundings) (scope : Scope) (o : Members) (e : Element) : Prop where
  nodes : ∃ vars, (∀ l, Manifest.definitions l o = .ok vars) ∧
    List.Forall₂ (LeafBecomes s (vars :: scope)) ((o.find? "children").elim [] Json.leaves)
      e.children
  single_iff : Markup.printElement e = Markup.singleTag e ↔ o.find? "children" = none
  pair : o.find? "children" ≠ none → Markup.printElement e = Markup.tagPair e

section

variable {s : Surroundings} {scope : Scope}

lemma forall₂_leafBecomes {leaves : List Json} {tags : List Tag} {nodes : List Node}
    (ht : List.Forall₂ IsTag leaves tags)
    (hn : List.Forall₂ (fun t node => (tag s scope t).result = .ok node) tags nodes) :
    List.Forall₂ (LeafBecomes s scope) leaves nodes := by
  induction ht generalizing nodes with
  | nil =>
    cases hn
    exact .nil
  | cons h _ ih =>
    cases hn with
    | cons hnode hrest =>
      exact .cons ⟨_, fun l => Manifest.tagOf_eq_ok_iff.mpr h, hnode⟩ (ih hrest)

variable [∀ path, (s.included path).Adds]

lemma forall₂_of_tagList {tags : List Tag} {nodes : List Node}
    (h : (tagList s scope tags).result = .ok nodes) :
    List.Forall₂ (fun t node => (tag s scope t).result = .ok node) tags nodes := by
  induction tags generalizing nodes with
  | nil =>
    obtain rfl := Except.ok.inj h
    exact .nil
  | cons t rest ih =>
    rw [tagList] at h
    obtain ⟨node, hn, h⟩ := Run.result_bind_eq_ok_iff.mp h
    obtain ⟨others, ho, h⟩ := Run.result_bind_eq_ok_iff.mp h
    obtain rfl := Except.ok.inj h
    exact .cons hn (ih ho)

/-- What is made of children, of whatever element, flattens the object that lists them. -/
lemma flattens_ofChildren {o : Members} {vars : Bindings} {kids : Option (List Tag)}
    {nodes : Option (List Node)} (hv : HasVariables o vars) (hc : HasChildren o kids)
    (h : (children s (vars :: scope) kids).result = .ok nodes) (name : String)
    (attrs : Attributes) : Flattens s scope o (.ofChildren name attrs nodes) := by
  have hdef : ∀ l, Manifest.definitions l o = .ok vars :=
    fun l => Manifest.definitions_eq_ok_iff.mpr hv
  cases hc with
  | missing hf =>
    obtain rfl := Except.ok.inj h
    refine ⟨⟨vars, hdef, by rw [hf]; exact .nil⟩, ?_, fun hne => absurd hf hne⟩
    exact iff_of_true (Markup.printElement_of_single rfl rfl) hf
  | present hf hforest =>
    obtain ⟨got, hg, h⟩ := Run.result_bind_eq_ok_iff.mp h
    obtain rfl := Except.ok.inj h
    have hpair := Markup.printElement_of_paired (e := .ofChildren name attrs (some got)) rfl
    refine ⟨⟨vars, hdef, ?_⟩, ?_, fun _ => hpair⟩
    · rw [hf]
      exact forall₂_leafBecomes (Manifest.isForest_iff_leaves.mp hforest) (forall₂_of_tagList hg)
    · rw [hpair, hf]
      exact iff_of_false Markup.tagPair_ne_singleTag (by simp)

lemma exists_ofChildren_of_root {r : Root} {e : Element}
    (h : (root s scope r).result = .ok e) : ∃ attrs nodes,
      e = .ofChildren "svg" attrs nodes ∧
        (children s (r.vars :: scope) r.children).result = .ok nodes := by
  obtain ⟨out, -, h⟩ := Run.result_bind_eq_ok_iff.mp h
  obtain ⟨nodes, hk, h⟩ := Run.result_bind_eq_ok_iff.mp h
  obtain ⟨u, -, h⟩ := Run.result_bind_eq_ok_iff.mp h
  obtain rfl := Except.ok.inj h
  exact ⟨out, nodes, rfl, hk⟩

/-- A bare root is flattened, whatever name and attributes its element is given. -/
lemma flattens_of_root {o : Members} {r : Root} {e : Element} (hm : Manifest.marks o = [])
    (hr : Manifest.ofJson (.object o) = .ok r) (h : (root s scope r).result = .ok e)
    (name : String) (attrs : Attributes) :
    Flattens s scope o { e with name := name, attrs := attrs } := by
  obtain ⟨-, -, hc, hv⟩ := (Manifest.ofJson_eq_ok_iff_of_no_marks hm).mp hr
  obtain ⟨out, nodes, rfl, hk⟩ := exists_ofChildren_of_root h
  have hflat := flattens_ofChildren hv hc hk name attrs
  cases nodes <;> exact hflat

/-- A tag of a kind that may have children is flattened. -/
lemma flattens_of_tag {o : Members} {l : Manifest.Location} {t : Tag} {node : Node}
    (hkind : t.kind = .generic ∨ t.kind = .image) (ht : Manifest.tagOf l (.object o) = .ok t)
    (h : (tag s scope t).result = .ok node) : ∃ e : Element, node = e.toNode ∧
      Flattens s scope o e := by
  have ht := Manifest.tagOf_eq_ok_iff.mp ht
  cases ht with
  | image _ _ _ _ hc hv =>
    rw [tag] at h
    obtain ⟨⟨uri, size⟩, -, h⟩ := Run.result_bind_eq_ok_iff.mp h
    obtain ⟨out, -, h⟩ := Run.result_bind_eq_ok_iff.mp h
    obtain ⟨nodes, hk, h⟩ := Run.result_bind_eq_ok_iff.mp h
    obtain ⟨u, -, h⟩ := Run.result_bind_eq_ok_iff.mp h
    obtain rfl := Except.ok.inj h
    exact ⟨_, rfl, flattens_ofChildren hv hc hk _ _⟩
  | generic _ _ _ _ hc hv =>
    rw [tag] at h
    obtain ⟨out, -, h⟩ := Run.result_bind_eq_ok_iff.mp h
    obtain ⟨nodes, hk, h⟩ := Run.result_bind_eq_ok_iff.mp h
    obtain ⟨u, -, h⟩ := Run.result_bind_eq_ok_iff.mp h
    obtain rfl := Except.ok.inj h
    exact ⟨_, rfl, flattens_ofChildren hv hc hk _ _⟩
  | _ => exact absurd hkind (by simp [Tag.kind])

end

end Resolve

/-! ### Other groups -/

namespace Json

/-- The second text is the first one, or that of the same JSON value with its children in other
groups. -/
def RegroupedText (text text' : String) : Prop :=
  text' = text ∨ ∃ v v', parse text = .ok v ∧ parse text' = .ok v' ∧ v.Regrouped v'

end Json

lemma Manifest.ofText_regrouped {text text' path : String} {root : Root}
    (h : Json.RegroupedText text text') (hr : ofText path text = .ok root) :
    ∃ root', (∀ path, ofText path text' = .ok root') ∧ root.Alike root' := by
  obtain ⟨same, hsame, halike⟩ := ofText_reordered (.inl rfl) hr
  obtain rfl := Except.ok.inj (hr.symm.trans (hsame path))
  rcases h with rfl | ⟨v, w, hv, hw, hvw⟩
  · exact ⟨root, hsame, halike⟩
  · obtain ⟨v', hv', hroot⟩ := ofText_eq_ok_iff.mp hr
    obtain rfl := Except.ok.inj (hv.symm.trans hv')
    have hroot' := ofJson_regrouped hvw hroot
    exact ⟨root, fun _ => ofText_eq_ok_iff.mpr ⟨w, hw, hroot'⟩, halike⟩

lemma generate_of_regrouped {s s' : Store} {options : Options} {doc : Document}
    (h : s.Retold Json.RegroupedText options.compiler s')
    (ha : ∀ m, Manifest.load s options.compiler "" = .ok m →
      Resolve.KeepsAssets (options.setting s) (options.setting s') m)
    (hdoc : generate s options = .ok doc) :
    ∃ doc', generate s' options = .ok doc' ∧ doc'.svg = doc.svg ∧ doc'.stats = doc.stats := by
  have hload {folder : String} {m : Manifest.Loaded}
      (hm : Manifest.load s options.compiler folder = .ok m) :=
    h.exists_load (fun _ => .inl rfl) Manifest.ofText_regrouped hm
  obtain ⟨m, globals, svg, hm, hg, hd, hsvg, -⟩ := exists_of_generate hdoc
  obtain ⟨m', hm', halike⟩ := hload hm
  have hfolder : m'.folder = m.folder :=
    (Resolve.folder_of_load hm').trans (Resolve.folder_of_load hm).symm
  have hsetting : (options.setting s).Rearranged (options.setting s') :=
    ⟨rfl, rfl, h.canonicalFolder, hload⟩
  have hd' := hsetting.document hfolder halike (ha m hm) globals _ _ _ hd
  exact ⟨_, generate_eq_ok hm' hg hd', hsvg.symm, rfl⟩

open Resolve in
/-- **Children are one node for each leaf, whatever lists they are in.** This is so for a bare root,
also of an included manifest, and for images and other elements that may have children. Manifests
with their children in other groups are read alike; and if of all the files of a store only JSON
texts change, and those only in this way, a picture that shows none of the changed files as they are
comes out the same. -/
theorem children_flattened :
    (∀ env m globals o svg, Manifest.marks o = [] → Manifest.ofJson (.object o) = .ok m.root →
      (document env m globals).result = .ok svg →
      ∃ chain, Flattens (inside env chain m.folder) [globals] o svg) ∧
    (∀ env chain folder path g, (includeFolder env chain folder path).result = .ok g →
      ∃ m, Leads env folder path m ∧
        ∀ o, Manifest.marks o = [] → Manifest.ofJson (.object o) = .ok m.root →
          ∃ chain', Flattens (inside env chain' m.folder) [] o g) ∧
    (∀ env chain folder scope l o t node, t.kind = .generic ∨ t.kind = .image →
      Manifest.tagOf l (.object o) = .ok t →
      (tag (inside env chain folder) scope t).result = .ok node →
      ∃ e : Element, node = e.toNode ∧ Flattens (inside env chain folder) scope o e) ∧
    (∀ v w r, v.Regrouped w → (Manifest.ofJson v = .ok r ↔ Manifest.ofJson w = .ok r)) ∧
    ∀ (s s' : Store) (options : Options) doc,
      s.Retold Json.RegroupedText options.compiler s' →
      (∀ m, Manifest.load s options.compiler "" = .ok m →
        KeepsAssets (options.setting s) (options.setting s') m) →
      generate s options = .ok doc →
      ∃ doc', generate s' options = .ok doc' ∧ doc'.svg = doc.svg ∧ doc'.stats = doc.stats := by
  refine ⟨?_, ?_, ?_, ?_, fun s s' options doc => generate_of_regrouped⟩
  · intro env m globals o svg hm hr h
    rw [result_document] at h
    obtain ⟨top, -, h⟩ := bind_eq_ok_iff.mp h
    obtain ⟨made, hmade, h⟩ := bind_eq_ok_iff.mp h
    obtain rfl := Except.ok.inj h
    exact ⟨.root top, flattens_of_root hm hr hmade _ _⟩
  · intro env chain folder path g h
    rw [result_includeFolder] at h
    obtain ⟨⟨chain', m⟩, he, h⟩ := bind_eq_ok_iff.mp h
    obtain ⟨svg, hsvg, h⟩ := bind_eq_ok_iff.mp h
    obtain rfl := Except.ok.inj h
    obtain ⟨-, hj, -, -, -, hl, -⟩ := enter_eq_ok_iff.mp he
    exact ⟨m, ⟨hj, hl⟩, fun o hm hr => ⟨chain', flattens_of_root hm hr hsvg _ _⟩⟩
  · intro env chain folder scope l o t node hkind ht h
    exact flattens_of_tag hkind ht h
  · intro v w r hr
    exact ⟨Manifest.ofJson_regrouped hr, Manifest.ofJson_regrouped hr.symm⟩

/-- A manifest with an image and a text. -/
def oneList : String :=
  "\x7b\"children\":[\x7b\"image_path\":\"a.png\",\"children\":[\"x\"]\x7d,\"y\"]\x7d"

/-- The same with both of them in further lists, and an empty list in front. -/
def manyLists : String :=
  "\x7b\"children\":[[[],\x7b\"image_path\":\"a.png\",\"children\":\"x\"\x7d],[[\"y\"]]]\x7d"

/-- What `manyLists` says. -/
def manyListsMembers : Json.Members :=
  [("children", .array [.array [.array [], .object [("image_path", .string "a.png"),
    ("children", .string "x")]], .array [.array [.string "y"]]])]

lemma parse_manyLists : Json.parse manyLists = .ok (.object manyListsMembers) := by
  with_unfolding_all rfl

lemma regrouped_lists : Json.RegroupedText oneList manyLists := by
  refine .inr ⟨.object [("children", .array [.object [("image_path", .string "a.png"),
    ("children", .array [.string "x"])], .string "y"])], _, ?_, parse_manyLists, ?_⟩
  · with_unfolding_all rfl
  · refine .object (.children ?_ .nil)
    show Json.RegroupedItems [_, _] [_, _]
    exact .cons (.object (.keep _ (.children (.cons (.same _) .nil) .nil))) (.cons (.same _) .nil)

/-- Files with a manifest that shows no file but the picture next to it keep what they show. -/
lemma Resolve.keepsAssets_beside {text text' : String} {m : Manifest.Loaded}
    (hm : Manifest.load (MemoryFiles.beside text).toStore none "" = .ok m)
    (hpaths : Manifest.paths m.root.tags = [])
    (hassets : ∀ t ∈ m.root.tags, ∀ path ∈ t.assets, path = "a.png") :
    KeepsAssets (plainOptions.setting (MemoryFiles.beside text).toStore)
      (plainOptions.setting (MemoryFiles.beside text').toStore) m := by
  intro n hn t ht path hp file hj
  cases hn with
  | here =>
    obtain rfl := hassets t ht path hp
    rw [folder_of_load hm] at hj
    have hfile : joinPath "" "a.png" = .ok "a.png" := by decide +kernel
    obtain rfl := Except.ok.inj (hfile.symm.trans hj)
    rfl
  | inside ht _ _ =>
    rw [Manifest.container_mem_iff, hpaths] at ht
    cases ht

/-- The picture has two nodes for the two leaves, and an element without a list of children is
written as a single tag. -/
theorem generate_manyLists :
    (∃ doc doc' svg, generate (MemoryFiles.beside oneList).toStore plainOptions = .ok doc ∧
      generate (MemoryFiles.beside manyLists).toStore plainOptions = .ok doc' ∧
      doc'.svg = doc.svg ∧ doc'.stats = doc.stats ∧
      doc'.svg = Markup.tagPair svg ∧ svg.children.length = 2) ∧
    Markup.printElement (.single "g" .empty) = Markup.singleTag (.single "g" .empty) := by
  obtain ⟨hdocument, -, htag, -, hgenerate⟩ := children_flattened
  constructor
  · obtain ⟨doc, hdoc, -⟩ := exists_of_any (p := fun _ => true)
      (x := generate (MemoryFiles.beside oneList).toStore plainOptions) (by decide +kernel)
    obtain ⟨m, hm, hinfo⟩ := exists_of_any
      (p := fun m => (Manifest.paths m.root.tags).isEmpty &&
        m.root.tags.all fun t => t.assets.all (· = "a.png"))
      (x := Manifest.load (MemoryFiles.beside oneList).toStore none "") (by decide +kernel)
    simp only [Bool.and_eq_true, List.isEmpty_iff, List.all_eq_true, decide_eq_true_eq] at hinfo
    obtain ⟨doc', hdoc', hsvg, hstats⟩ := hgenerate _ _ plainOptions doc
      (MemoryFiles.retold_beside regrouped_lists) (fun m' hm' => by
        obtain rfl := Except.ok.inj (hm.symm.trans hm')
        exact Resolve.keepsAssets_beside hm hinfo.1 hinfo.2) hdoc
    obtain ⟨m', globals, svg, hm', -, hd, hprint, -⟩ := exists_of_generate hdoc'
    obtain ⟨text, ht, hroot⟩ := Manifest.exists_jsonText_of_load hm'
    have htext : Manifest.jsonText (MemoryFiles.beside manyLists).toStore none "" = .ok manyLists :=
      by with_unfolding_all rfl
    obtain rfl := Except.ok.inj (htext.symm.trans ht)
    obtain ⟨v, hv, hroot⟩ := Manifest.ofText_eq_ok_iff.mp hroot
    obtain rfl := Except.ok.inj (parse_manyLists.symm.trans hv)
    obtain ⟨chain, hflat⟩ := hdocument _ m' globals _ svg rfl hroot (congrArg Prod.fst hd)
    obtain ⟨vars, -, hnodes⟩ := hflat.nodes
    exact ⟨doc, doc', svg, hdoc, hdoc', hsvg, hstats, hprint.trans (hflat.pair (by decide)),
      hnodes.length_eq.symm⟩
  · obtain ⟨e, he, hflat⟩ := htag (plainOptions.setting (MemoryFiles.beside oneList).toStore)
      (.root "") "" [] .root [("tag", .string "g")] (.generic "g" [] [] none) _ (.inl rfl) rfl rfl
    obtain rfl : e = .single "g" .empty := by
      cases e
      cases he
      rfl
    exact hflat.single_iff.mpr rfl

/-- A manifest that shows itself as an image. -/
def selfShownInList : String :=
  "\x7b\"children\":[\x7b\"image_path\":\"collagen.json\",\"kind\":\"png\"\x7d]\x7d"

/-- The same with the image in two lists. -/
def selfShownInLists : String :=
  "\x7b\"children\":[[\x7b\"image_path\":\"collagen.json\",\"kind\":\"png\"\x7d]]\x7d"

/-- A manifest without children but with so many lists, each in the one before it. -/
def nestedLists (depth : Nat) : String :=
  "\x7b\"children\":" ++
    String.ofList (List.replicate depth '[' ++ List.replicate depth ']') ++ "\x7d"

/-- The reader stops at the innermost of 127 lists in an object. -/
lemma exists_error_of_parse_nestedLists : ∃ e, Json.parse (nestedLists 127) = .error e := by
  have hlist : (nestedLists 127).toList = "\x7b\"children\":".toList ++
      (List.replicate 127 '[' ++ List.replicate 127 ']') ++ "\x7d".toList := by
    simp only [nestedLists, String.toList_append, String.toList_ofList]
  obtain ⟨f, hf⟩ : ∃ f, Json.value Json.depthLimit (nestedLists 127).toList = .error f := by
    rw [hlist]
    exact exists_error_of_isNone (by decide +kernel)
  exact ⟨_, by rw [Json.parse, Json.whole, hf]⟩

lemma jsonText_alone (text : String) :
    Manifest.jsonText (MemoryFiles.alone text).toStore none "" = .ok text := by
  have hfound : Manifest.locate (MemoryFiles.alone text).toStore "" =
      .ok ("collagen.json", .plain) := rfl
  have hkey : Path.normalize "collagen.json" = .ok "collagen.json" := by decide
  have hread : (MemoryFiles.alone text).read "collagen.json" = .ok text.toUTF8 :=
    (MemoryFiles.read_eq_ok_iff hkey).mpr rfl
  refine bind_eq_ok_iff.mpr ⟨_, hfound, bind_eq_ok_iff.mpr ⟨text, ?_, rfl⟩⟩
  refine bind_eq_ok_iff.mpr ⟨_, hread, ?_⟩
  rw [Text.decode?_toUTF8]
  rfl

lemma exists_error_of_generate_alone {text : String} (h : ∃ e, Json.parse text = .error e) :
    ∃ e, generate (MemoryFiles.alone text).toStore plainOptions = .error e := by
  cases hg : generate (MemoryFiles.alone text).toStore plainOptions with
  | error e => exact ⟨e, rfl⟩
  | ok doc =>
    obtain ⟨m, globals, svg, hm, -⟩ := exists_of_generate hg
    obtain ⟨got, hgot, hroot⟩ := Manifest.exists_jsonText_of_load hm
    obtain rfl := Except.ok.inj ((jsonText_alone text).symm.trans hgot)
    obtain ⟨v, hv, -⟩ := Manifest.ofText_eq_ok_iff.mp hroot
    obtain ⟨e, he⟩ := h
    cases he.symm.trans hv

/-- A manifest that is shown as it is is seen with its lists as they stand, and lists that are
nested too deep are not read. -/
theorem generate_selfShown :
    (Json.RegroupedText selfShownInList selfShownInLists ∧ ∃ doc doc',
      generate (MemoryFiles.alone selfShownInList).toStore plainOptions = .ok doc ∧
      generate (MemoryFiles.alone selfShownInLists).toStore plainOptions = .ok doc' ∧
      doc'.svg ≠ doc.svg) ∧
    (∃ doc, generate (MemoryFiles.alone (nestedLists 1)).toStore plainOptions = .ok doc) ∧
    ∃ e, generate (MemoryFiles.alone (nestedLists 127)).toStore plainOptions = .error e := by
  refine ⟨⟨?_, ?_⟩, ?_, exists_error_of_generate_alone exists_error_of_parse_nestedLists⟩
  · refine .inr ⟨.object [("children", .array [.object [("image_path", .string "collagen.json"),
      ("kind", .string "png")]])], .object [("children", .array [.array [.object
      [("image_path", .string "collagen.json"), ("kind", .string "png")]]])], ?_, ?_, ?_⟩
    · with_unfolding_all rfl
    · with_unfolding_all rfl
    · exact .object (.children (.refl _) .nil)
  · obtain ⟨doc, hdoc, hlist⟩ := exists_of_any
      (p := fun doc => (generate (MemoryFiles.alone selfShownInLists).toStore
        plainOptions).toOption.any fun doc' => doc'.svg != doc.svg)
      (x := generate (MemoryFiles.alone selfShownInList).toStore plainOptions) (by decide +kernel)
    obtain ⟨doc', hdoc', hne⟩ := exists_of_any hlist
    exact ⟨doc, doc', hdoc, hdoc', bne_iff_ne.mp hne⟩
  · obtain ⟨doc, hdoc, -⟩ := exists_of_any (p := fun _ => true)
      (x := generate (MemoryFiles.alone (nestedLists 1)).toStore plainOptions) (by decide +kernel)
    exact ⟨doc, hdoc⟩

end SvgSkeleton
