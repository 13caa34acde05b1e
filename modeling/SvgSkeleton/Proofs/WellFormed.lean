import SvgSkeleton.Proofs.Generation
import SvgSkeleton.Proofs.Xml
import SvgSkeleton.Store

/-!
When documents are well-formed. Values and texts are escaped, tags are closed, and attributes occur
once; but the names of elements and attributes are those that the manifests give. Manifests are not
asked for names of XML, so a document is well-formed XML of its picture exactly if all of them are,
in all manifests that are resolved.
-/

namespace SvgSkeleton

namespace Manifest

/-- The names that a tag gives to elements and attributes. -/
def Tag.names : Tag → List String
  | .generic name attrs _ _ => name :: attrs.map (·.1)
  | .image _ _ attrs _ _ => attrs.map (·.1)
  | .font _ attrs => attrs.map (·.1)
  | .nestedSvg _ attrs => attrs.map (·.1)
  | .container _ => []
  | .text .. => []

/-- Does the tag not put in markup as it is? -/
def Tag.isPlain : Tag → Bool
  | .nestedSvg .. => false
  | .text _ raw => !raw
  | _ => true

def Tag.Named (t : Tag) : Prop := ∀ n ∈ t.names, Xml.isName n = true

def Tag.Plain (t : Tag) : Prop := t.isPlain = true

lemma Tag.named_container (path : String) : (container path).Named := by
  simp [Named, names]

lemma Tag.plain_container (path : String) : (container path).Plain := rfl

/-- All elements and attributes of the manifest have names of XML. -/
def Root.Named (r : Root) : Prop :=
  (∀ n ∈ r.attrs.map (·.1), Xml.isName n = true) ∧ ∀ t ∈ r.tags, t.Named

/-- No tag of the manifest puts in markup as it is. -/
def Root.Plain (r : Root) : Prop := ∀ t ∈ r.tags, t.Plain

end Manifest

namespace Resolve

open Manifest (Tag Root Loaded)

/-- The second manifest is resolved where the first one is: it is that one, or is included at some
depth. -/
inductive Reaches (env : Setting) : Loaded → Loaded → Prop
  | here {m : Loaded} : Reaches env m m
  | inside {m nested n : Loaded} {path : String} (ht : .container path ∈ m.root.tags)
      (hl : Leads env m.folder path nested) (h : Reaches env nested n) : Reaches env m n

/-- The property holds of all manifests that are resolved where this one is. -/
def Everywhere (env : Setting) (P : Root → Prop) (m : Loaded) : Prop :=
  ∀ n, Reaches env m n → P n.root

/-- The one property holds of some tags, and the other of all manifests that are resolved for the
containers among them. -/
structure Throughout (env : Setting) (Q : Tag → Prop) (P : Root → Prop) (folder : String)
    (tags : List Tag) : Prop where
  here : ∀ t ∈ tags, Q t
  beneath : ∀ path m, .container path ∈ tags → Leads env folder path m → Everywhere env P m

section

variable {env : Setting} {Q : Tag → Prop} {P : Root → Prop} {folder : String} {m : Loaded}

lemma everywhere_iff {A : Root → Prop} (hP : ∀ r, P r ↔ A r ∧ ∀ t ∈ r.tags, Q t) :
    Everywhere env P m ↔ A m.root ∧ Throughout env Q P m.folder m.root.tags := by
  constructor
  · intro h
    obtain ⟨ha, hq⟩ := (hP _).mp (h m .here)
    exact ⟨ha, ⟨hq, fun path nested ht hl n hn => h n (.inside ht hl hn)⟩⟩
  · rintro ⟨ha, hq, hin⟩ n hn
    cases hn with
    | here => exact (hP _).mpr ⟨ha, hq⟩
    | inside ht hl h => exact hin _ _ ht hl n h

lemma everywhere_of_no_containers (h : Manifest.paths m.root.tags = []) (hm : P m.root) :
    Everywhere env P m := by
  intro n hn
  cases hn with
  | here => exact hm
  | inside ht _ _ =>
    rw [Manifest.container_mem_iff, h] at ht
    cases ht

lemma throughout_nil : Throughout env Q P folder [] :=
  ⟨fun _ h => absurd h List.not_mem_nil, fun _ _ h => absurd h List.not_mem_nil⟩

lemma throughout_append {a b : List Tag} :
    Throughout env Q P folder (a ++ b) ↔
      Throughout env Q P folder a ∧ Throughout env Q P folder b := by
  constructor
  · rintro ⟨hq, hin⟩
    exact ⟨⟨fun t ht => hq t (List.mem_append_left _ ht),
        fun path m ht => hin path m (List.mem_append_left _ ht)⟩,
      fun t ht => hq t (List.mem_append_right _ ht),
      fun path m ht => hin path m (List.mem_append_right _ ht)⟩
  · rintro ⟨⟨hqa, hina⟩, hqb, hinb⟩
    refine ⟨fun t ht => ?_, fun path m ht => ?_⟩
    · exact (List.mem_append.mp ht).elim (hqa t) (hqb t)
    · exact (List.mem_append.mp ht).elim (hina path m) (hinb path m)

lemma throughout_singleton {t : Tag} (ht : ∀ path, t ≠ .container path) :
    Throughout env Q P folder [t] ↔ Q t := by
  constructor
  · rintro ⟨hq, -⟩
    exact hq t (List.mem_singleton_self t)
  · intro hq
    refine ⟨by simpa using hq, fun path m hmem => ?_⟩
    exact absurd (List.mem_singleton.mp hmem).symm (ht path)

lemma throughout_cons {t : Tag} {rest : List Tag} (ht : ∀ path, t ≠ .container path) :
    Throughout env Q P folder (t :: rest) ↔ Q t ∧ Throughout env Q P folder rest := by
  have h : Throughout env Q P folder ([t] ++ rest) ↔ _ := throughout_append
  rw [throughout_singleton ht] at h
  exact h

lemma throughout_container {path : String} (hq : Q (.container path))
    (hl : Leads env folder path m) :
    Throughout env Q P folder [.container path] ↔ Everywhere env P m := by
  constructor
  · rintro ⟨-, hin⟩
    exact hin path m (List.mem_singleton_self _) hl
  · intro h
    refine ⟨by simpa using hq, fun path' m' ht hl' => ?_⟩
    obtain rfl : path' = path := by simpa using ht
    rwa [hl'.unique hl]

end

/-! ### A picture is proper if the names are names of XML -/

section

variable {env : Setting} {folder name : String} {vars attrs : Bindings} {out : Attributes}
  {nodes : Option (List Node)} {m : Loaded}

lemma plain_iff : Everywhere env Root.Plain m ↔
    True ∧ Throughout env Tag.Plain Root.Plain m.folder m.root.tags :=
  everywhere_iff fun _ => (iff_of_eq (true_and _)).symm

lemma named_iff : Everywhere env Root.Named m ↔
    (∀ n ∈ m.root.attrs.map (·.1), Xml.isName n = true) ∧
      Throughout env Tag.Named Root.Named m.folder m.root.tags :=
  everywhere_iff fun _ => Iff.rfl

lemma proper_ofChildren :
    Xml.Proper (Element.ofChildren name out nodes).toNode ↔
      Xml.isName name = true ∧ out.names.Nodup ∧ (∀ n ∈ out.names, Xml.isName n = true) ∧
        Xml.AllProper (nodes.getD []) := by
  cases nodes <;> rfl

lemma allProper_style (content : String) :
    Xml.AllProper [(Element.pair "style" .empty [.text content false]).toNode] := by
  have hstyle : Xml.isName "style" = true := by decide
  simp [Element.pair, Element.toNode, Xml.Proper, Xml.AllProper, Attributes.names,
    Attributes.empty, hstyle]

lemma forall_names_iff (ha : Filled vars attrs out) :
    (∀ n ∈ out.names, Xml.isName n = true) ↔ ∀ n ∈ attrs.map (·.1), Xml.isName n = true :=
  forall_congr' fun n => by rw [ha.mem_names]

lemma forall_names_setAll_iff {uri : String} (ha : Filled vars attrs out) :
    (∀ n ∈ ((Attributes.empty.set "href" uri).setAll out.toList).names, Xml.isName n = true) ↔
      ∀ n ∈ attrs.map (·.1), Xml.isName n = true := by
  have hn (n : String) : n ∈ ((Attributes.empty.set "href" uri).setAll out.toList).names ↔
      n = "href" ∨ n ∈ attrs.map (·.1) := by
    rw [Attributes.mem_names_setAll, ← ha.mem_names, Attributes.mem_names_set]
    simp [Attributes.names, Attributes.empty]
  have hhref : Xml.isName "href" = true := by decide
  simp only [hn, forall_eq_or_imp, hhref, true_and]

end

mutual

theorem TagBecomes.proper_iff {env : Setting} {folder : String} {vars : Bindings} {t : Tag}
    {node : Node} : TagBecomes env folder vars t node →
      Throughout env Tag.Plain Root.Plain folder t.all →
      (Xml.Proper node ↔ Throughout env Tag.Named Root.Named folder t.all)
  | .container hm hr, hp => by
    have hpm := (throughout_container (Tag.plain_container _) hm).mp hp
    have hg : Xml.isName "g" = true := by decide
    have hsvg : Xml.isName "svg" = true := by decide
    rw [Tag.all_container, throughout_container (Tag.named_container _) hm,
      ← hr.proper_iff hpm, Element.toNode, Element.toNode, Xml.Proper, Xml.Proper, hr.name_eq]
    simp only [hg, hsvg]
  | .image hb ht ha hk, hp => by
    have himage : Xml.isName "image" = true := by decide
    rw [Tag.all, throughout_cons (by simp)] at hp ⊢
    rw [← hk.proper_iff hp.2, proper_ofChildren, forall_names_setAll_iff ha]
    simp only [himage, true_and]
    exact and_iff_right (Attributes.nodup_names_setAll (Attributes.nodup_names_set List.nodup_nil))
  | .font hf ha, hp => by
    have hdefs : Xml.isName "defs" = true := by decide
    rw [Tag.all_font, throughout_singleton (by simp), Tag.Named, Tag.names, ← forall_names_iff ha,
      Element.toNode, Xml.Proper]
    simp only [Element.pair, hdefs, ha.nodup_names, true_and]
    exact and_iff_left (allProper_style _)
  | .nestedSvg hm ha, hp => by
    rw [Tag.all_nestedSvg, throughout_singleton (by simp)] at hp
    exact absurd hp Bool.false_ne_true
  | .raw, hp => by
    rw [Tag.all_text, throughout_singleton (by simp)] at hp
    exact absurd hp Bool.false_ne_true
  | .text h, hp => by
    rw [Tag.all_text, throughout_singleton (by simp), Xml.Proper]
    simp [Tag.Named, Tag.names]
  | .generic ha hk, hp => by
    rw [Tag.all, throughout_cons (by simp)] at hp ⊢
    rw [← hk.proper_iff hp.2, proper_ofChildren, forall_names_iff ha]
    simp only [Tag.Named, Tag.names, List.forall_mem_cons, ha.nodup_names, true_and, and_assoc]
termination_by structural h => h

theorem ChildrenBecome.proper_iff {env : Setting} {folder : String} {vars : Bindings}
    {kids : Option (List Tag)} {nodes : Option (List Node)} :
    ChildrenBecome env folder vars kids nodes →
      Throughout env Tag.Plain Root.Plain folder (Manifest.allOfChildren kids) →
      (Xml.AllProper (nodes.getD []) ↔
        Throughout env Tag.Named Root.Named folder (Manifest.allOfChildren kids))
  | .none, _ => iff_of_true trivial throughout_nil
  | .some h, hp => h.proper_iff hp

theorem TagsBecome.proper_iff {env : Setting} {folder : String} {vars : Bindings}
    {tags : List Tag} {nodes : List Node} : TagsBecome env folder vars tags nodes →
      Throughout env Tag.Plain Root.Plain folder (Manifest.allOfTags tags) →
      (Xml.AllProper nodes ↔
        Throughout env Tag.Named Root.Named folder (Manifest.allOfTags tags))
  | .nil, _ => iff_of_true trivial throughout_nil
  | .cons ht hr, hp => by
    rw [Manifest.allOfTags, throughout_append] at hp ⊢
    rw [Xml.AllProper, ht.proper_iff hp.1, hr.proper_iff hp.2]

theorem RootBecomes.proper_iff {env : Setting} {m : Loaded} {vars : Bindings} {svg : Element} :
    RootBecomes env m vars svg → Everywhere env Root.Plain m →
      (Xml.Proper svg.toNode ↔ Everywhere env Root.Named m)
  | .root ha hk, hp => by
    have hsvg : Xml.isName "svg" = true := by decide
    have hkids := hk.proper_iff (plain_iff.mp hp).2
    rw [named_iff, proper_ofChildren, forall_names_iff ha, hkids]
    simp only [hsvg, ha.nodup_names, true_and]
    rfl

end

/-- The name space that is put in front is properly named. -/
lemma proper_setDefaultFirst {svg : Element} :
    Xml.Proper { svg with attrs := svg.attrs.setDefaultFirst "xmlns" svgNamespace }.toNode ↔
      Xml.Proper svg.toNode := by
  have hxmlns : Xml.isName "xmlns" = true := by decide
  rw [Element.toNode, Element.toNode, Xml.Proper, Xml.Proper, Attributes.names_setDefaultFirst]
  split
  · rfl
  · next h => simp [hxmlns, h]

end Resolve

open Resolve

/-- **A document without raw markup is well-formed XML of its picture exactly if all names that the
resolved manifests give are names of XML, and all its characters are characters of XML.** -/
theorem isDocument_generate_iff {store : Store} {options : Options} {doc : Document}
    {m : Manifest.Loaded} (h : generate store options = .ok doc)
    (hm : Manifest.load store options.compiler "" = .ok m)
    (hplain : Everywhere (options.setting store) Manifest.Root.Plain m) :
    ∃ globals svg, frameOf options.vars = .ok globals ∧
      ((document (options.setting store) m globals).start .zero).1 = .ok svg ∧
      doc.svg = Markup.printElement svg ∧ svg.name = "svg" ∧
      (Xml.IsDocument svg doc.svg ↔
        Everywhere (options.setting store) Manifest.Root.Named m ∧
          ∀ c ∈ doc.svg.toList, Xml.isChar c = true) := by
  obtain ⟨m', hm', h⟩ := bind_eq_ok_iff.mp h
  obtain rfl := Except.ok.inj (hm.symm.trans hm')
  obtain ⟨globals, hg, h⟩ := bind_eq_ok_iff.mp h
  obtain ⟨⟨svg, stats⟩, hd, h⟩ := bind_eq_ok_iff.mp h
  obtain rfl := Except.ok.inj h
  have hr : ((document (options.setting store) m globals).start .zero).1 = .ok svg :=
    congrArg Prod.fst (Run.start_of_outcome hd)
  obtain ⟨made, hmade, rfl⟩ := becomes_of_document hr
  refine ⟨globals, _, hg, hr, rfl, hmade.name_eq, ?_⟩
  rw [Xml.isDocument_print_iff, proper_setDefaultFirst, hmade.proper_iff hplain]

/-- Options without variables, fonts and a compiler. -/
def plainOptions : Options := ⟨false, defaultMaxDepth, [], .empty, none⟩

/-- Files with a rectangle. -/
def rectangle : MemoryFiles :=
  .ofList [("collagen.json",
    "\x7b\"children\":[\x7b\"tag\":\"rect\",\"attrs\":\x7b\"id\":\"a&b\"\x7d\x7d]\x7d".toUTF8)]

theorem isDocument_rectangle :
    ∃ doc svg, generate rectangle.toStore plainOptions = .ok doc ∧
      doc.svg = "<svg xmlns=\"http://www.w3.org/2000/svg\"><rect id=\"a&amp;b\"/></svg>" ∧
      Xml.IsDocument svg doc.svg := by
  have hgen : (generate rectangle.toStore plainOptions).map (·.svg) =
      .ok "<svg xmlns=\"http://www.w3.org/2000/svg\"><rect id=\"a&amp;b\"/></svg>" := by
    decide +kernel
  have hload : (Manifest.load rectangle.toStore none "").map (fun m =>
      (Manifest.paths m.root.tags, m.root.attrs, m.root.tags.all Manifest.Tag.isPlain,
        m.root.tags.all fun t => t.names.all Xml.isName)) = .ok ([], [], true, true) := by
    decide +kernel
  obtain ⟨doc, hdoc, hsvg⟩ := map_eq_ok_iff.mp hgen
  obtain ⟨m, hm, hinfo⟩ := map_eq_ok_iff.mp hload
  simp only [Prod.mk.injEq, List.all_eq_true] at hinfo
  obtain ⟨hpaths, hattrs, hplain, hnames⟩ := hinfo
  obtain ⟨-, svg, -, -, -, -, hiff⟩ := isDocument_generate_iff hdoc hm
    (everywhere_of_no_containers hpaths hplain)
  refine ⟨doc, svg, hdoc, hsvg, hiff.mpr ⟨everywhere_of_no_containers hpaths ⟨?_, hnames⟩, ?_⟩⟩
  · simp [hattrs]
  · rw [hsvg, ← List.all_eq_true]
    decide +kernel

/-- Files with an element whose name is no name of XML. -/
def markupForName : MemoryFiles :=
  .ofList [("collagen.json", "\x7b\"children\":[\x7b\"tag\":\"<rect>\"\x7d]\x7d".toUTF8)]

theorem not_isDocument_markupForName :
    ∃ doc m, generate markupForName.toStore plainOptions = .ok doc ∧
      Manifest.load markupForName.toStore none "" = .ok m ∧
      Everywhere (plainOptions.setting markupForName.toStore) Manifest.Root.Plain m ∧
      doc.svg = "<svg xmlns=\"http://www.w3.org/2000/svg\"><<rect>/></svg>" ∧
      ¬ ∃ svg, Xml.IsDocument svg doc.svg := by
  have hgen : (generate markupForName.toStore plainOptions).map (·.svg) =
      .ok "<svg xmlns=\"http://www.w3.org/2000/svg\"><<rect>/></svg>" := by
    decide +kernel
  have hload : (Manifest.load markupForName.toStore none "").map (fun m =>
      (Manifest.paths m.root.tags, m.root.tags.all Manifest.Tag.isPlain)) = .ok ([], true) := by
    decide +kernel
  obtain ⟨doc, hdoc, hsvg⟩ := map_eq_ok_iff.mp hgen
  obtain ⟨m, hm, hinfo⟩ := map_eq_ok_iff.mp hload
  simp only [Prod.mk.injEq, List.all_eq_true] at hinfo
  refine ⟨doc, m, hdoc, hm, everywhere_of_no_containers hinfo.1 hinfo.2, hsvg, ?_⟩
  rintro ⟨svg, hread, -⟩
  obtain ⟨c, r, hr, hc⟩ := Xml.tagsOpen_of_reads hread
    "<svg xmlns=\"http://www.w3.org/2000/svg\">".toList "<rect>/></svg>".toList
    (by rw [hsvg]; decide +kernel)
  obtain rfl : '<' = c := (List.cons.inj (hr : '<' :: "rect>/></svg>".toList = c :: r)).1
  exact absurd hc (by decide)

end SvgSkeleton
