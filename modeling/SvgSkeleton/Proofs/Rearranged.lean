import SvgSkeleton.Proofs.Agreement
import SvgSkeleton.Proofs.KeyOrder
import SvgSkeleton.Proofs.WellFormed

/-!
Skeletons whose JSON files have their keys in other places. Manifests are then read as the same
tags, up to the order of variables, and resolving tags does not ask for that order. So the picture
is the same, as long as no file that has changed is also shown as it is, by an image, a font or an
SVG file of the picture.
-/

namespace SvgSkeleton

/-! ### Scopes -/

/-- Do all names have the same values in the two scopes? -/
def Scope.SameValues (a b : Scope) : Prop := ∀ name, a.find? name = b.find? name

namespace Scope.SameValues

variable {a b : Scope}

lemma cons {vars vars' : Bindings} (hv : vars.SameValues vars') (h : a.SameValues b) :
    Scope.SameValues (vars :: a) (vars' :: b) := by
  intro name
  rw [find?, find?, hv name, h name]

lemma interpolate_eq (h : a.SameValues b) (text : String) :
    a.interpolate text = b.interpolate text := by
  have hfill : a.fill = b.fill := by
    funext done p
    cases p with
    | copy c => rfl
    | hole name => rw [fill, fill, h name]
  rw [interpolate, interpolate, hfill]

end Scope.SameValues

namespace Manifest

/-- The files that a tag shows as they are. -/
def Tag.assets : Tag → List String
  | .image path _ _ _ _ => [path]
  | .font faces _ => faces.filterMap fun face =>
    match face.source with
    | .file path => some path
    | .bundled => none
  | .nestedSvg path _ => [path]
  | _ => []

end Manifest

namespace Resolve

open Manifest (Tag FontFace Root Loaded ChildrenAlike TagsAlike)

/-! ### Inside a manifest -/

/-- What a tag asks for, beside texts, succeeds in the second surroundings if it does in the first
ones. -/
def Supplies (s s' : Surroundings) : Tag → Prop
  | .container path => (s.included path).KeptBy (s'.included path)
  | .image path kind _ _ _ => Outcome.KeptBy (image s path kind) (image s' path kind)
  | .font faces _ => ∀ face ∈ faces, Outcome.KeptBy (fontBytes s face) (fontBytes s' face)
  | .nestedSvg path _ => Outcome.KeptBy (nestedMarkup s path) (nestedMarkup s' path)
  | _ => True

section

variable {s s' : Surroundings} {scope scope' : Scope} (hv : scope.SameValues scope')
include hv

lemma fillText_eq (element text : String) :
    fillText scope element text = fillText scope' element text := by
  rw [fillText, fillText, hv.interpolate_eq]

lemma fillAttrs_keptBy (element : String) (attrs : Bindings) :
    (fillAttrs scope element attrs).KeptBy (fillAttrs scope' element attrs) := by
  have hattr : fillAttr scope element = fillAttr scope' element := by
    funext a
    obtain ⟨name, value⟩ := a
    cases value with
    | text value =>
      show (do return (name, ← fillText scope element value) : Run (String × String)) = _
      rw [fillText_eq hv]
      rfl
    | number value => rfl
  rw [fillAttrs, fillAttrs, hattr]
  exact .refl _

lemma font_keptBy {faces : List FontFace} {attrs : Bindings}
    (hs : Supplies s s' (.font faces attrs)) :
    (font s scope faces attrs).KeptBy (font s' scope' faces attrs) := by
  refine (Run.KeptBy.mapM fun face hf => ?_).bind fun _ => ?_
  · refine (Run.KeptBy.ofOutcome (hs face hf)).bind fun _ => ?_
    exact (fillAttrs_keptBy hv _ _).bind fun _ => .refl _
  · exact (fillAttrs_keptBy hv _ _).bind fun _ => .refl _

lemma nestedSvg_keptBy {path : String} {attrs : Bindings}
    (hs : Supplies s s' (.nestedSvg path attrs)) :
    (nestedSvg s scope path attrs).KeptBy (nestedSvg s' scope' path attrs) := by
  refine (Run.KeptBy.ofOutcome hs).bind fun _ => ?_
  exact (fillAttrs_keptBy hv _ _).bind fun _ => .refl _

lemma text_keptBy (content : String) (raw : Bool) :
    (text scope content raw).KeptBy (text scope' content raw) := by
  unfold text
  rw [fillText_eq hv]
  exact .refl _

end

mutual

/-- Tags that are the same up to the order of variables become the same node. -/
theorem tag_keptBy {s s' : Surroundings} {scope scope' : Scope} {t t' : Tag}
    (hv : scope.SameValues scope') (hs : ∀ u ∈ t.all, Supplies s s' u) :
    t.Alike t' → (tag s scope t).KeptBy (tag s' scope' t')
  | .container path => by
    rw [tag, tag]
    exact (hs (.container path) (List.mem_singleton_self _)).bind fun _ => .refl _
  | @Tag.Alike.image path kind attrs vars vars' kids kids' hvars hk => by
    have hv := Scope.SameValues.cons hvars hv
    obtain ⟨hi, hkids⟩ := List.forall_mem_cons.mp hs
    rw [tag, tag]
    refine (Run.KeptBy.ofOutcome hi).bind fun p => (fillAttrs_keptBy hv _ _).bind fun _ => ?_
    exact (children_keptBy hv hkids hk).bind fun _ => .refl _
  | .font faces attrs => by
    rw [tag, tag]
    exact (font_keptBy hv (hs (.font faces attrs) (List.mem_singleton_self _))).bind
      fun _ => .refl _
  | .nestedSvg path attrs => by
    rw [tag, tag]
    exact (nestedSvg_keptBy hv (hs (.nestedSvg path attrs) (List.mem_singleton_self _))).bind
      fun _ => .refl _
  | .text content raw => by
    rw [tag, tag]
    exact text_keptBy hv content raw
  | @Tag.Alike.generic name attrs vars vars' kids kids' hvars hk => by
    have hv := Scope.SameValues.cons hvars hv
    obtain ⟨-, hkids⟩ := List.forall_mem_cons.mp hs
    rw [tag, tag]
    refine (fillAttrs_keptBy hv _ _).bind fun _ => ?_
    exact (children_keptBy hv hkids hk).bind fun _ => .refl _

theorem children_keptBy {s s' : Surroundings} {scope scope' : Scope}
    {kids kids' : Option (List Tag)} (hv : scope.SameValues scope')
    (hs : ∀ u ∈ Manifest.allOfChildren kids, Supplies s s' u) :
    ChildrenAlike kids kids' → (children s scope kids).KeptBy (children s' scope' kids')
  | .none => .refl _
  | .some h => by
    rw [children, children]
    exact (tagList_keptBy hv hs h).bind fun _ => .refl _

theorem tagList_keptBy {s s' : Surroundings} {scope scope' : Scope} {tags tags' : List Tag}
    (hv : scope.SameValues scope') (hs : ∀ u ∈ Manifest.allOfTags tags, Supplies s s' u) :
    TagsAlike tags tags' → (tagList s scope tags).KeptBy (tagList s' scope' tags')
  | .nil => .refl _
  | .cons ht hr => by
    obtain ⟨hst, hsr⟩ := List.forall_mem_append.mp hs
    rw [tagList, tagList]
    refine (tag_keptBy hv hst ht).bind fun _ => ?_
    exact (tagList_keptBy hv hsr hr).bind fun _ => .refl _

end

lemma root_keptBy {s s' : Surroundings} {scope : Scope} {r r' : Root}
    (hs : ∀ u ∈ r.tags, Supplies s s' u) (h : r.Alike r') :
    (root s scope r).KeptBy (root s' scope r') := by
  have hv : Scope.SameValues (r.vars :: scope) (r'.vars :: scope) := .cons h.vars fun _ => rfl
  rw [root, root, h.attrs]
  refine (fillAttrs_keptBy hv _ _).bind fun _ => ?_
  exact (children_keptBy hv hs h.children).bind fun _ => .refl _

/-! ### Across manifests -/

/-- Manifests are loaded in the second setting as in the first one, up to the order of variables. -/
structure Setting.Rearranged (env env' : Setting) : Prop where
  fonts : env'.fonts = env.fonts
  maxDepth : env'.maxDepth = env.maxDepth
  canonicalFolder (folder : String) :
    env'.store.canonicalFolder folder = env.store.canonicalFolder folder
  load {folder : String} {m : Loaded} (h : Manifest.load env.store env.compiler folder = .ok m) :
    ∃ m', Manifest.load env'.store env'.compiler folder = .ok m' ∧ m.root.Alike m'.root

/-- The files that the manifest shows, and all that it includes, are the same in both settings. -/
def KeepsAssets (env env' : Setting) (m : Loaded) : Prop :=
  ∀ n, Reaches env m n → ∀ t ∈ n.root.tags, ∀ path ∈ t.assets, ∀ file,
    joinPath n.folder path = .ok file → env'.store.read file = env.store.read file

lemma asset_eq {env env' : Setting} {folder path : String} {chain chain' : IncludeChain}
    (hr : ∀ file, joinPath folder path = .ok file → env'.store.read file = env.store.read file) :
    asset (inside env' chain' folder) path = asset (inside env chain folder) path := by
  show (joinPath folder path >>= _) = (joinPath folder path >>= _)
  cases hj : joinPath folder path with
  | error e => rfl
  | ok file =>
    show (env'.store.read file >>= _) = (env.store.read file >>= _)
    rw [hr file hj]

namespace Setting.Rearranged

variable {env env' : Setting} (h : env.Rearranged env')
include h

/-- A tag that shows the same files is supplied as before, if its folder is. -/
lemma supplies {folder : String} {chain chain' : IncludeChain} {t : Tag}
    (hr : ∀ path ∈ t.assets, ∀ file, joinPath folder path = .ok file →
      env'.store.read file = env.store.read file)
    (hi : ∀ path, t = .container path →
      (includeFolder env chain folder path).KeptBy (includeFolder env' chain' folder path)) :
    Supplies (inside env chain folder) (inside env' chain' folder) t := by
  cases t with
  | container path => exact hi path rfl
  | image path kind attrs vars kids =>
    show Outcome.KeptBy (asset _ path >>= _) (asset _ path >>= _)
    rw [asset_eq (hr path (List.mem_singleton_self path))]
    exact .refl _
  | font faces attrs =>
    intro face hf
    unfold fontBytes
    cases hsource : face.source with
    | bundled =>
      show Outcome.KeptBy (env.fonts.get face.name >>= _) (env'.fonts.get face.name >>= _)
      rw [h.fonts]
      exact .refl _
    | file path =>
      show Outcome.KeptBy (asset _ path >>= _) (asset _ path >>= _)
      have hp : path ∈ (Tag.font faces attrs).assets := by
        refine List.mem_filterMap.mpr ⟨face, hf, ?_⟩
        rw [hsource]
      rw [asset_eq (hr path hp)]
      exact .refl _
  | nestedSvg path attrs =>
    show Outcome.KeptBy (joinPath folder path >>= _) (joinPath folder path >>= _)
    cases hj : joinPath folder path with
    | error e => exact .refl _
    | ok file =>
      show Outcome.KeptBy (env.store.readText file >>= _) (env'.store.readText file >>= _)
      unfold Store.readText
      rw [hr path (List.mem_singleton_self path) file hj]
      exact .refl _
  | text content raw => trivial
  | generic name attrs vars kids => trivial

lemma enter {chain chain' : IncludeChain} {folder path : String} {m : Loaded}
    (he : enter env chain folder path = .ok (chain', m)) :
    ∃ m', Resolve.enter env' chain folder path = .ok (chain', m') ∧ m'.folder = m.folder ∧
      m.root.Alike m'.root := by
  obtain ⟨canonical, hj, hc, hm, hd, hl, rfl⟩ := enter_eq_ok_iff.mp he
  obtain ⟨m', hl', halike⟩ := h.load hl
  have hfolder : m'.folder = m.folder := folder_of_load hl'
  refine ⟨m', enter_eq_ok_iff.mpr ⟨canonical, ?_, ?_, hm, ?_, ?_, rfl⟩, hfolder, halike⟩
  · rw [hfolder]
    exact hj
  · rw [hfolder, h.canonicalFolder]
    exact hc
  · rw [h.maxDepth]
    exact hd
  · rw [hfolder]
    exact hl'

/-- By induction on the folders that are not yet on the chain. -/
lemma includeFolder {chain : IncludeChain} {folder path : String}
    (ha : ∀ m, Leads env folder path m → KeepsAssets env env' m) :
    (includeFolder env chain folder path).KeptBy (includeFolder env' chain folder path) := by
  rw [includeFolder_eq, includeFolder_eq]
  cases he : Resolve.enter env chain folder path with
  | error e => exact .throw e _
  | ok p =>
    obtain ⟨chain', m⟩ := p
    obtain ⟨m', he', hfolder, halike⟩ := h.enter he
    have hlt := length_unvisited_lt he
    obtain ⟨-, hj, -, -, -, hl, -⟩ := enter_eq_ok_iff.mp he
    have hkeeps := ha m ⟨hj, hl⟩
    have hs : ∀ t ∈ m.root.tags,
        Supplies (inside env chain' m.folder) (inside env' chain' m.folder) t := by
      intro t ht
      refine h.supplies (hkeeps m .here t ht) ?_
      rintro path rfl
      exact includeFolder fun nested hn n hreach => hkeeps n (.inside ht hn hreach)
    rw [he']
    show Run.KeptBy (root (inside env chain' m.folder) [] m.root >>= _)
      (root (inside env' chain' m'.folder) [] m'.root >>= _)
    rw [hfolder]
    exact (root_keptBy hs halike).bind fun _ => .refl _
termination_by (unvisited env.store chain).length

lemma document {m m' : Loaded} (hfolder : m'.folder = m.folder) (halike : m.root.Alike m'.root)
    (ha : KeepsAssets env env' m) (globals : Bindings) :
    (document env m globals).KeptBy (document env' m' globals) := by
  unfold Resolve.document
  rw [hfolder, h.canonicalFolder]
  refine .bind_same fun folder => ?_
  have hs : ∀ t ∈ m.root.tags,
      Supplies (inside env (.root folder) m.folder) (inside env' (.root folder) m.folder) t := by
    intro t ht
    refine h.supplies (ha m .here t ht) ?_
    rintro path rfl
    exact h.includeFolder fun nested hn n hreach => ha n (.inside ht hn hreach)
  exact (root_keptBy hs halike).bind fun _ => .refl _

end Setting.Rearranged

end Resolve

/-! ### Stores -/

/-- The second text is the first one, or that of the same JSON value with its keys in other
places. -/
def Json.ReorderedText (text text' : String) : Prop :=
  text' = text ∨ ∃ v v', Json.parse text = .ok v ∧ Json.parse text' = .ok v' ∧ v.Reordered v'

namespace Manifest

/-- The JSON text of the manifest of a folder. -/
def jsonText (s : Store) (compiler : Option Template.Compiler) (folder : String) :
    Outcome String := do
  let (path, format) ← locate s folder
  let source ← s.readText path
  compile s compiler folder path source format

lemma exists_jsonText_of_load {s : Store} {compiler : Option Template.Compiler} {folder : String}
    {m : Loaded} (h : load s compiler folder = .ok m) :
    ∃ text, jsonText s compiler folder = .ok text ∧ ofText m.path text = .ok m.root := by
  obtain ⟨found, hf, h⟩ := bind_eq_ok_iff.mp h
  obtain ⟨source, hs, h⟩ := bind_eq_ok_iff.mp h
  obtain ⟨text, ht, h⟩ := bind_eq_ok_iff.mp h
  obtain ⟨root, hr, h⟩ := bind_eq_ok_iff.mp h
  obtain rfl := Except.ok.inj h
  exact ⟨text, bind_eq_ok_iff.mpr ⟨found, hf, bind_eq_ok_iff.mpr ⟨source, hs, ht⟩⟩, hr⟩

lemma exists_load_of_jsonText {s : Store} {compiler : Option Template.Compiler}
    {folder text : String} (h : jsonText s compiler folder = .ok text) {root : Root}
    (hr : ∀ path, ofText path text = .ok root) :
    ∃ m, load s compiler folder = .ok m ∧ m.root = root := by
  obtain ⟨found, hf, h⟩ := bind_eq_ok_iff.mp h
  obtain ⟨source, hs, ht⟩ := bind_eq_ok_iff.mp h
  refine ⟨⟨root, folder, found.1, found.2, source.utf8ByteSize⟩, ?_, rfl⟩
  refine bind_eq_ok_iff.mpr ⟨found, hf, bind_eq_ok_iff.mpr ⟨source, hs, ?_⟩⟩
  exact bind_eq_ok_iff.mpr ⟨text, ht, bind_eq_ok_iff.mpr ⟨root, hr found.1, rfl⟩⟩

lemma ofText_eq_ok_iff {path text : String} {root : Root} :
    ofText path text = .ok root ↔ ∃ v, Json.parse text = .ok v ∧ ofJson v = .ok root := by
  rw [ofText, bind_eq_ok_iff]
  simp only [mapError_eq_ok_iff]

lemma ofText_reordered {text text' path : String} {root : Root} (h : Json.ReorderedText text text')
    (hr : ofText path text = .ok root) :
    ∃ root', (∀ path, ofText path text' = .ok root') ∧ root.Alike root' := by
  obtain ⟨v, hv, hroot⟩ := ofText_eq_ok_iff.mp hr
  have hd := Json.distinct_of_parse hv
  rcases h with rfl | ⟨v', w, hv', hw, hvw⟩
  · obtain ⟨root', hroot', halike⟩ := ofJson_reordered hd (.same v) hroot
    exact ⟨root', fun _ => ofText_eq_ok_iff.mpr ⟨v, hv, hroot'⟩, halike⟩
  · obtain rfl := Except.ok.inj (hv.symm.trans hv')
    obtain ⟨root', hroot', halike⟩ := ofJson_reordered hd hvw hroot
    exact ⟨root', fun _ => ofText_eq_ok_iff.mpr ⟨w, hw, hroot'⟩, halike⟩

end Manifest

/-- The second store has the files of the first one, but texts may be other ones that are related
to them. What templates compile to is a text as well. -/
structure Store.Retold (R : String → String → Prop) (compiler : Option Template.Compiler)
    (s s' : Store) : Prop where
  isFile (path : String) : s'.isFile path = s.isFile path
  canonicalFolder (folder : String) : s'.canonicalFolder folder = s.canonicalFolder folder
  read (path : String) : s'.read path = s.read path ∨
    ∃ text text', s.readText path = .ok text ∧ s'.readText path = .ok text' ∧ R text text'
  template {folder path text : String} (hl : Manifest.locate s folder = .ok (path, .template))
    (ht : Manifest.jsonText s compiler folder = .ok text) :
    ∃ text', Manifest.jsonText s' compiler folder = .ok text' ∧ R text text'

namespace Store.Retold

variable {R : String → String → Prop} {compiler : Option Template.Compiler} {s s' : Store}
  (h : s.Retold R compiler s')
include h

lemma locate_eq (folder : String) : Manifest.locate s' folder = Manifest.locate s folder := by
  unfold Manifest.locate
  rw [funext h.isFile]

section

variable (hrefl : ∀ text, R text text)
include hrefl

lemma exists_readText {path text : String} (ht : s.readText path = .ok text) :
    ∃ text', s'.readText path = .ok text' ∧ R text text' := by
  rcases h.read path with hr | ⟨got, text', hg, ht', hrt⟩
  · refine ⟨text, ?_, hrefl text⟩
    rw [readText, hr]
    exact ht
  · obtain rfl := Except.ok.inj (ht.symm.trans hg)
    exact ⟨text', ht', hrt⟩

lemma exists_jsonText {folder text : String} (ht : Manifest.jsonText s compiler folder = .ok text) :
    ∃ text', Manifest.jsonText s' compiler folder = .ok text' ∧ R text text' := by
  obtain ⟨⟨path, format⟩, hf, hread⟩ := bind_eq_ok_iff.mp ht
  cases format with
  | template => exact h.template hf ht
  | plain =>
    obtain ⟨source, hs, hc⟩ := bind_eq_ok_iff.mp hread
    obtain rfl := Except.ok.inj hc
    obtain ⟨source', hs', hrt⟩ := h.exists_readText hrefl hs
    rw [← h.locate_eq] at hf
    exact ⟨source', bind_eq_ok_iff.mpr ⟨_, hf, bind_eq_ok_iff.mpr ⟨_, hs', rfl⟩⟩, hrt⟩

/-- Manifests are loaded alike if related texts are read alike. -/
lemma exists_load {folder : String} {m : Manifest.Loaded}
    (hread : ∀ {text text' path root}, R text text' → Manifest.ofText path text = .ok root →
      ∃ root', (∀ path, Manifest.ofText path text' = .ok root') ∧ root.Alike root')
    (hm : Manifest.load s compiler folder = .ok m) :
    ∃ m', Manifest.load s' compiler folder = .ok m' ∧ m.root.Alike m'.root := by
  obtain ⟨text, ht, hr⟩ := Manifest.exists_jsonText_of_load hm
  obtain ⟨text', ht', hrt⟩ := h.exists_jsonText hrefl ht
  obtain ⟨root', hroot', halike⟩ := hread hrt hr
  obtain ⟨m', hm', rfl⟩ := Manifest.exists_load_of_jsonText ht' hroot'
  exact ⟨m', hm', halike⟩

end

end Store.Retold

/-- The second store has the files of the first one, of which JSON texts may have their keys in
other places. What templates compile to is JSON text as well. -/
structure Store.Rearranged (compiler : Option Template.Compiler) (s s' : Store) : Prop where
  isFile (path : String) : s'.isFile path = s.isFile path
  canonicalFolder (folder : String) : s'.canonicalFolder folder = s.canonicalFolder folder
  read (path : String) : s'.read path = s.read path ∨
    ∃ text text', s.readText path = .ok text ∧ s'.readText path = .ok text' ∧
      Json.ReorderedText text text'
  template {folder path text : String} (hl : Manifest.locate s folder = .ok (path, .template))
    (ht : Manifest.jsonText s compiler folder = .ok text) :
    ∃ text', Manifest.jsonText s' compiler folder = .ok text' ∧ Json.ReorderedText text text'

namespace Store.Rearranged

variable {compiler : Option Template.Compiler} {s s' : Store}

lemma iff_retold : s.Rearranged compiler s' ↔ s.Retold Json.ReorderedText compiler s' :=
  ⟨fun h => ⟨h.isFile, h.canonicalFolder, h.read, h.template⟩,
    fun h => ⟨h.isFile, h.canonicalFolder, h.read, h.template⟩⟩

lemma exists_load (h : s.Rearranged compiler s') {folder : String} {m : Manifest.Loaded}
    (hm : Manifest.load s compiler folder = .ok m) :
    ∃ m', Manifest.load s' compiler folder = .ok m' ∧ m.root.Alike m'.root :=
  (iff_retold.mp h).exists_load (fun _ => .inl rfl) Manifest.ofText_reordered hm

end Store.Rearranged

/-- **Where the keys of JSON objects stand does not matter to a picture, except for attributes.**
If of all the files of a store only JSON texts change, and those only in the order of keys, a
picture that shows none of the changed files as they are comes out the same, with its counts. -/
theorem generate_rearranged {s s' : Store} {options : Options} {doc : Document}
    (h : s.Rearranged options.compiler s')
    (ha : ∀ m, Manifest.load s options.compiler "" = .ok m →
      Resolve.KeepsAssets (options.setting s) (options.setting s') m)
    (hdoc : generate s options = .ok doc) :
    ∃ doc', generate s' options = .ok doc' ∧ doc'.svg = doc.svg ∧ doc'.stats = doc.stats := by
  obtain ⟨m, globals, svg, hm, hg, hd, hsvg, -⟩ := exists_of_generate hdoc
  obtain ⟨m', hm', halike⟩ := h.exists_load hm
  have hfolder : m'.folder = m.folder :=
    (Resolve.folder_of_load hm').trans (Resolve.folder_of_load hm).symm
  have hsetting : (options.setting s).Rearranged (options.setting s') :=
    ⟨rfl, rfl, h.canonicalFolder, h.exists_load⟩
  have hd' := hsetting.document hfolder halike (ha m hm) globals _ _ _ hd
  exact ⟨_, generate_eq_ok hm' hg hd', hsvg.symm, rfl⟩

lemma Text.decode?_toUTF8 (s : String) : decode? s.toUTF8 = some s := Text.decode?_bytesOf s

/-- Files in memory of which some texts are other ones that are related to them. -/
lemma MemoryFiles.retold {R : String → String → Prop} {files files' : MemoryFiles}
    (h : ∀ key, files'.find? key = files.find? key ∨ ∃ text text',
      files.find? key = some text.toUTF8 ∧ files'.find? key = some text'.toUTF8 ∧ R text text') :
    Store.Retold R none files.toStore files'.toStore where
  isFile path := by
    show isFile files' path = isFile files path
    unfold isFile
    cases Path.normalize path with
    | error refusal => rfl
    | ok key =>
      show (files'.find? key).isSome = (files.find? key).isSome
      rcases h key with hk | ⟨text, text', hf, hf', -⟩
      · rw [hk]
      · rw [hf, hf']
        rfl
  canonicalFolder _ := rfl
  read path := by
    show files'.read path = files.read path ∨ _
    cases hn : normalizePath path with
    | error e =>
      refine .inl ?_
      unfold MemoryFiles.read
      rw [hn]
      rfl
    | ok key =>
      rcases h key with hk | ⟨text, text', hf, hf', hr⟩
      · refine .inl ?_
        unfold MemoryFiles.read
        simp only [hn, bind, Except.bind, hk]
      · have hkey := normalizePath_eq_ok hn
        have hread := (read_eq_ok_iff hkey).mpr hf
        have hread' := (read_eq_ok_iff hkey).mpr hf'
        refine .inr ⟨text, text', ?_, ?_, hr⟩
        · refine bind_eq_ok_iff.mpr ⟨_, hread, ?_⟩
          rw [Text.decode?_toUTF8]
          rfl
        · refine bind_eq_ok_iff.mpr ⟨_, hread', ?_⟩
          rw [Text.decode?_toUTF8]
          rfl
  template hl ht := by
    obtain ⟨found, hf, ht⟩ := bind_eq_ok_iff.mp ht
    obtain rfl := Except.ok.inj (hl.symm.trans hf)
    obtain ⟨source, -, ht⟩ := bind_eq_ok_iff.mp ht
    cases ht

/-- Two manifests next to the same files. -/
lemma MemoryFiles.retold_beside {R : String → String → Prop} {text text' : String}
    (h : R text text') : Store.Retold R none (beside text).toStore (beside text').toStore := by
  refine retold fun key => ?_
  rw [beside, beside, Catalog.find?_insert, Catalog.find?_insert]
  split
  · exact .inr ⟨text, text', rfl, rfl, h⟩
  · exact .inl rfl

lemma MemoryFiles.rearranged_beside {text text' : String} (h : Json.ReorderedText text text') :
    Store.Rearranged none (beside text).toStore (beside text').toStore :=
  Store.Rearranged.iff_retold.mpr (retold_beside h)

/-- An object with two keys, the other way round. -/
lemma Json.Reordered.swap {k l : String} {v v' w w' : Json} (hv : v.Reordered v')
    (hk : k ≠ "attrs" ∨ v' = v) (hw : w.Reordered w') (hl : l ≠ "attrs" ∨ w' = w) :
    (Json.object [(k, v), (l, w)]).Reordered (.object [(l, w'), (k, v')]) :=
  .object (.cons hv (fun h => hk.resolve_left (not_not_intro h))
    (.cons hw (fun h => hl.resolve_left (not_not_intro h)) .nil)) (.swap _ _ _)

/-- A manifest with variables that shows the image. -/
def variablesFirst : String :=
  "\x7b\"vars\":\x7b\"a\":1,\"b\":2\x7d,\"children\":[" ++
    "\x7b\"image_path\":\"a.png\"," ++
      "\"attrs\":\x7b\"id\":\"\x7bb\x7d\",\"x\":\"\x7ba\x7d\"\x7d\x7d]\x7d"

/-- The same with the keys of all objects but the attributes the other way round. -/
def variablesLast : String :=
  "\x7b\"children\":[" ++
    "\x7b\"attrs\":\x7b\"id\":\"\x7bb\x7d\",\"x\":\"\x7ba\x7d\"\x7d," ++
      "\"image_path\":\"a.png\"\x7d]," ++
    "\"vars\":\x7b\"b\":2,\"a\":1\x7d\x7d"

lemma reordered_variables : Json.ReorderedText variablesFirst variablesLast := by
  refine .inr ⟨.object [("vars", .object [("a", .number (.whole 1)), ("b", .number (.whole 2))]),
      ("children", .array [.object [("image_path", .string "a.png"),
        ("attrs", .object [("id", .string "\x7bb\x7d"), ("x", .string "\x7ba\x7d")])]])],
    .object [("children", .array [.object [
        ("attrs", .object [("id", .string "\x7bb\x7d"), ("x", .string "\x7ba\x7d")]),
        ("image_path", .string "a.png")]]),
      ("vars", .object [("b", .number (.whole 2)), ("a", .number (.whole 1))])], ?_, ?_, ?_⟩
  · with_unfolding_all rfl
  · with_unfolding_all rfl
  · refine .swap (.swap (.same _) (.inr rfl) (.same _) (.inr rfl)) (.inl (by decide)) ?_
      (.inl (by decide))
    exact .array (.cons (.swap (.same _) (.inr rfl) (.same _) (.inr rfl)) .nil)

theorem generate_variables_rearranged :
    ∃ doc doc', generate (MemoryFiles.beside variablesFirst).toStore plainOptions = .ok doc ∧
      generate (MemoryFiles.beside variablesLast).toStore plainOptions = .ok doc' ∧
      doc'.svg = doc.svg ∧ doc'.stats = doc.stats := by
  obtain ⟨doc, hdoc, -⟩ := exists_of_any (p := fun _ => true)
    (x := generate (MemoryFiles.beside variablesFirst).toStore plainOptions) (by decide +kernel)
  obtain ⟨m, hm, hinfo⟩ := exists_of_any
    (p := fun m => (Manifest.paths m.root.tags).isEmpty &&
      m.root.tags.all fun t => t.assets.all (· = "a.png"))
    (x := Manifest.load (MemoryFiles.beside variablesFirst).toStore none "") (by decide +kernel)
  simp only [Bool.and_eq_true, List.isEmpty_iff, List.all_eq_true, decide_eq_true_eq] at hinfo
  obtain ⟨hpaths, hassets⟩ := hinfo
  refine ⟨doc, (generate_rearranged (MemoryFiles.rearranged_beside reordered_variables) ?_ hdoc).imp
    fun doc' h => ⟨hdoc, h⟩⟩
  intro m' hm' n hn t ht path hp file hj
  obtain rfl := Except.ok.inj (hm.symm.trans hm')
  cases hn with
  | here =>
    obtain rfl := hassets t ht path hp
    rw [Resolve.folder_of_load hm] at hj
    have hfile : joinPath "" "a.png" = .ok "a.png" := by decide +kernel
    obtain rfl := Except.ok.inj (hfile.symm.trans hj)
    rfl
  | inside ht _ _ =>
    rw [Manifest.container_mem_iff, hpaths] at ht
    cases ht

/-- Files with nothing but a manifest. -/
def MemoryFiles.alone (manifest : String) : MemoryFiles :=
  .ofList [("collagen.json", manifest.toUTF8)]

/-- A manifest that shows itself as an image. -/
def pathFirst : String :=
  "\x7b\"image_path\":\"collagen.json\",\"kind\":\"png\"\x7d"

/-- The same with its keys the other way round. -/
def kindFirst : String :=
  "\x7b\"kind\":\"png\",\"image_path\":\"collagen.json\"\x7d"

/-- A manifest that is shown as it is is seen with its keys where they stand. -/
theorem generate_kindFirst :
    Json.ReorderedText pathFirst kindFirst ∧ ∃ doc doc',
      generate (MemoryFiles.alone pathFirst).toStore plainOptions = .ok doc ∧
      generate (MemoryFiles.alone kindFirst).toStore plainOptions = .ok doc' ∧
      doc'.svg ≠ doc.svg := by
  constructor
  · refine .inr ⟨.object [("image_path", .string "collagen.json"), ("kind", .string "png")],
      .object [("kind", .string "png"), ("image_path", .string "collagen.json")], ?_, ?_, ?_⟩
    · with_unfolding_all rfl
    · with_unfolding_all rfl
    · exact .swap (.same _) (.inr rfl) (.same _) (.inr rfl)
  · obtain ⟨doc, hdoc, hfirst⟩ := exists_of_any
      (p := fun doc => (generate (MemoryFiles.alone kindFirst).toStore plainOptions).toOption.any
        fun doc' => doc'.svg != doc.svg)
      (x := generate (MemoryFiles.alone pathFirst).toStore plainOptions) (by decide +kernel)
    obtain ⟨doc', hdoc', hne⟩ := exists_of_any hfirst
    exact ⟨doc, doc', hdoc, hdoc', bne_iff_ne.mp hne⟩

end SvgSkeleton
