import SvgSkeleton.Generate
import SvgSkeleton.Proofs.Inclusion

/-!
One setting can stand in for another if whatever is read, found and loaded in the other is so in it
too, and folders may be nested as deep. Every picture that comes of the other then comes of it, with
the same counts. Where the other fails nothing is said: it may fail otherwise, or not at all.
-/

namespace SvgSkeleton

variable {α β : Type}

/-- If the first outcome is a success, the second is the same. -/
def Outcome.KeptBy (o o' : Outcome α) : Prop := ∀ a, o = .ok a → o' = .ok a

lemma Outcome.KeptBy.bind {o o' : Outcome α} {f f' : α → Outcome β} (h : Outcome.KeptBy o o')
    (hf : ∀ a, Outcome.KeptBy (f a) (f' a)) : Outcome.KeptBy (o >>= f) (o' >>= f') := by
  intro b hb
  obtain ⟨a, ha, hb⟩ := bind_eq_ok_iff.mp hb
  exact bind_eq_ok_iff.mpr ⟨a, h a ha, hf a b hb⟩

lemma Outcome.KeptBy.refl (o : Outcome α) : Outcome.KeptBy o o := fun _ => id

lemma Outcome.toOption_congr {o o' : Outcome α} (h : ∀ a, o = .ok a ↔ o' = .ok a) :
    o.toOption = o'.toOption := by
  refine Option.ext fun a => ?_
  have := h a
  cases o <;> cases o' <;> simp_all [Except.toOption]

namespace Run

/-- Whenever the first run succeeds, so does the second, with the same value and counts. -/
def KeptBy (r r' : Run α) : Prop := ∀ s a t, r.start s = (.ok a, t) → r'.start s = (.ok a, t)

namespace KeptBy

lemma refl (r : Run α) : KeptBy r r := fun _ _ _ => id

lemma throw (e : Error) (r : Run α) : KeptBy (MonadExcept.throw e) r := by
  intro s a t h
  cases h

lemma ofOutcome {o o' : Outcome α} (h : Outcome.KeptBy o o') :
    KeptBy (Run.ofOutcome o) (Run.ofOutcome o') := by
  intro s a t hs
  obtain ⟨rfl, rfl⟩ := Prod.mk.inj hs
  exact congrArg (·, _) (h a rfl)

lemma bind {r r' : Run α} {f f' : α → Run β} (h : KeptBy r r') (hf : ∀ a, KeptBy (f a) (f' a)) :
    KeptBy (r >>= f) (r' >>= f') := by
  intro s b t hb
  rw [start_bind] at hb ⊢
  rcases hr : r.start s with ⟨o, u⟩
  rw [hr] at hb
  cases o with
  | ok a =>
    rw [h s a u hr]
    exact hf a u b t hb
  | error e => cases hb

/-- The same step, followed by a run and one that keeps it. -/
lemma bind_same {r : Run α} {f f' : α → Run β} (hf : ∀ a, KeptBy (f a) (f' a)) :
    KeptBy (r >>= f) (r >>= f') :=
  (refl r).bind hf

lemma mapM {ι : Type} {f f' : ι → Run α} {l : List ι} (h : ∀ i ∈ l, KeptBy (f i) (f' i)) :
    KeptBy (l.mapM f) (l.mapM f') := by
  induction l with
  | nil => exact refl _
  | cons i l ih =>
    obtain ⟨hi, hl⟩ := List.forall_mem_cons.mp h
    rw [List.mapM_cons, List.mapM_cons]
    exact hi.bind fun a => (ih hl).bind fun as => refl _

lemma outcome {r r' : Run α} (h : KeptBy r r') : Outcome.KeptBy r.outcome r'.outcome := by
  intro p hp
  unfold Run.outcome at hp ⊢
  rcases hr : r.start .zero with ⟨o, t⟩
  rw [hr] at hp
  cases o with
  | ok a =>
    rw [h _ a t hr]
    exact hp
  | error e => cases hp

end KeptBy

end Run

/-! ### Loading -/

lemma Store.readText_keptBy {s s' : Store} {path : String}
    (h : Outcome.KeptBy (s.read path) (s'.read path)) :
    Outcome.KeptBy (s.readText path) (s'.readText path) :=
  h.bind fun _ => .refl _

/-- A compiler that does not ask where on disk a manifest is. -/
def Template.Compiler.IgnoresFolder (compiler : Template.Compiler) : Prop :=
  ∀ source read folder other, compiler source ⟨read, folder⟩ = compiler source ⟨read, other⟩

namespace Manifest

variable {s s' : Store} {compiler : Option Template.Compiler}

/-- Where the same files are read, the same files can be imported. -/
lemma imports_read_eq (h : ∀ path content, s.read path = .ok content ↔ s'.read path = .ok content)
    (folder : String) : (imports s folder).read = (imports s' folder).read := by
  have hr : ∀ path, Outcome.KeptBy (s.read path) (s'.read path) ∧
      Outcome.KeptBy (s'.read path) (s.read path) := fun path =>
    ⟨fun content => (h path content).mp, fun content => (h path content).mpr⟩
  funext path
  refine Outcome.toOption_congr fun text => ⟨?_, ?_⟩
  · exact (Outcome.KeptBy.refl _).bind (fun p => Store.readText_keptBy (hr p).1) text
  · exact (Outcome.KeptBy.refl _).bind (fun p => Store.readText_keptBy (hr p).2) text

/-- Where the same files are read, templates compile to the same text, if their compiler does not
ask where they are. -/
lemma compile_eq (hr : ∀ path content, s.read path = .ok content ↔ s'.read path = .ok content)
    (hc : ∀ c ∈ compiler, c.IgnoresFolder) (folder path source : String) (format : Format) :
    compile s compiler folder path source format =
      compile s' compiler folder path source format := by
  cases format with
  | plain => rfl
  | template =>
    cases compiler with
    | none => rfl
    | some c =>
      have hsame : c source (imports s folder) = c source (imports s' folder) :=
        calc c source (imports s folder)
          _ = c source ⟨(imports s folder).read, (imports s' folder).searchFolder⟩ :=
            hc c rfl source _ _ _
          _ = c source (imports s' folder) := by rw [imports_read_eq hr folder]
      show (c source _).mapError _ = (c source _).mapError _
      rw [hsame]

/-- A manifest is loaded from a store with the same files as well. -/
lemma load_keptBy (hf : s.isFile = s'.isFile)
    (hr : ∀ path content, s.read path = .ok content ↔ s'.read path = .ok content)
    (hc : ∀ c ∈ compiler, c.IgnoresFolder) (folder : String) :
    Outcome.KeptBy (load s compiler folder) (load s' compiler folder) := by
  unfold load
  rw [show locate s folder = locate s' folder by rw [locate, locate, hf]]
  refine (Outcome.KeptBy.refl _).bind fun found => ?_
  refine (Store.readText_keptBy fun content => (hr found.1 content).mp).bind fun source => ?_
  rw [compile_eq hr hc]
  exact .refl _

/-- If files are read alike, loading also fails alike. -/
lemma load_eq (hf : s.isFile = s'.isFile)
    (hr : ∀ path content, s.read path = .ok content ↔ s'.read path = .ok content)
    (hc : ∀ c ∈ compiler, c.IgnoresFolder)
    (hread : ∀ path, s.isFile path = true → s.read path = s'.read path) (folder : String) :
    load s compiler folder = load s' compiler folder := by
  have hlocate : locate s folder = locate s' folder := by rw [locate, locate, hf]
  have hcompile : compile s compiler folder = compile s' compiler folder := by
    funext path source format
    exact compile_eq hr hc folder path source format
  unfold load
  rw [← hlocate, ← hcompile]
  cases hl : locate s folder with
  | error e => rfl
  | ok found =>
    have htext : s.readText found.1 = s'.readText found.1 := by
      rw [Store.readText, Store.readText, hread _ (exists_file_of_locate hl).2]
    show (s.readText found.1 >>= _) = (s'.readText found.1 >>= _)
    rw [htext]

end Manifest

namespace Resolve

open Manifest (Tag FontFace Root Loaded)

/-! ### Inside a manifest -/

/-- What can be read and included in a manifest is so in other surroundings. -/
structure Surroundings.KeptBy (s s' : Surroundings) : Prop where
  folder : s'.folder = s.folder
  fonts : s'.fonts = s.fonts
  read : ∀ path, Outcome.KeptBy (s.store.read path) (s'.store.read path)
  included : ∀ path, (s.included path).KeptBy (s'.included path)

namespace Surroundings.KeptBy

variable {s s' : Surroundings} (h : s.KeptBy s')
include h

lemma asset (path : String) : Outcome.KeptBy (asset s path) (asset s' path) := by
  unfold Resolve.asset
  rw [h.folder]
  exact (Outcome.KeptBy.refl _).bind fun p => (h.read p).bind fun _ => .refl _

lemma fontBytes (face : FontFace) : Outcome.KeptBy (fontBytes s face) (fontBytes s' face) := by
  unfold Resolve.fontBytes
  cases face.source with
  | bundled =>
    rw [h.fonts]
    exact .refl _
  | file path => exact (h.asset path).bind fun _ => .refl _

lemma fontFace (scope : Scope) (face : FontFace) :
    (fontFace s scope face).KeptBy (fontFace s' scope face) :=
  (Run.KeptBy.ofOutcome (h.fontBytes face)).bind fun _ => .refl _

lemma font (scope : Scope) (faces : List FontFace) (attrs : Bindings) :
    (font s scope faces attrs).KeptBy (font s' scope faces attrs) :=
  (Run.KeptBy.mapM fun face _ => h.fontFace scope face).bind fun _ => .refl _

lemma nestedMarkup (path : String) :
    Outcome.KeptBy (nestedMarkup s path) (nestedMarkup s' path) := by
  unfold Resolve.nestedMarkup Store.readText
  rw [h.folder]
  refine (Outcome.KeptBy.refl _).bind fun p => Outcome.KeptBy.bind ?_ fun _ => .refl _
  exact (h.read p).bind fun _ => .refl _

lemma nestedSvg (scope : Scope) (path : String) (attrs : Bindings) :
    (nestedSvg s scope path attrs).KeptBy (nestedSvg s' scope path attrs) :=
  (Run.KeptBy.ofOutcome (h.nestedMarkup path)).bind fun _ => .refl _

lemma image (path : String) (kind : Option String) :
    Outcome.KeptBy (image s path kind) (image s' path kind) :=
  (h.asset path).bind fun _ => .refl _

/-- Tags and lists of them give the same nodes. -/
lemma tags :
    (∀ scope t, (tag s scope t).KeptBy (tag s' scope t)) ∧
      (∀ scope kids, (children s scope kids).KeptBy (children s' scope kids)) ∧
      ∀ scope ts, (tagList s scope ts).KeptBy (tagList s' scope ts) := by
  apply tag.mutual_induct
  case case1 =>
    intro scope folder
    simp only [tag]
    exact (h.included folder).bind fun _ => .refl _
  case case2 =>
    intro scope path kind attrs vars kids ih
    simp only [tag]
    refine (Run.KeptBy.ofOutcome (h.image path kind)).bind fun p => ?_
    exact .bind_same fun _ => ih.bind fun _ => .refl _
  case case3 =>
    intro scope faces attrs
    simp only [tag]
    exact (h.font scope faces attrs).bind fun _ => .refl _
  case case4 =>
    intro scope path attrs
    simp only [tag]
    exact (h.nestedSvg scope path attrs).bind fun _ => .refl _
  case case5 =>
    intro scope content raw
    simp only [tag]
    exact .refl _
  case case6 =>
    intro scope name attrs vars kids inner ih
    simp only [tag]
    exact .bind_same fun _ => ih.bind fun _ => .refl _
  case case7 =>
    intro scope
    simp only [children]
    exact .refl _
  case case8 =>
    intro scope tags ih
    simp only [children]
    exact ih.bind fun _ => .refl _
  case case9 =>
    intro scope
    simp only [tagList]
    exact .refl _
  case case10 =>
    intro scope t rest iht ihrest
    simp only [tagList]
    exact iht.bind fun _ => ihrest.bind fun _ => .refl _

lemma root (scope : Scope) (r : Root) : (root s scope r).KeptBy (root s' scope r) :=
  .bind_same fun _ => (h.tags.2.1 _ r.children).bind fun _ => .refl _

end Surroundings.KeptBy

/-! ### Across manifests -/

/-- What can be read and loaded in a setting is so in another, folders with manifests are the same
ones, and inclusion may go at least as deep. -/
structure Setting.KeptBy (env env' : Setting) : Prop where
  fonts : env'.fonts = env.fonts
  maxDepth : env.maxDepth ≤ env'.maxDepth
  read : ∀ path, Outcome.KeptBy (env.store.read path) (env'.store.read path)
  load : ∀ folder, Outcome.KeptBy (Manifest.load env.store env.compiler folder)
    (Manifest.load env'.store env'.compiler folder)
  canonicalFolder : ∀ folder m, Manifest.load env.store env.compiler folder = .ok m →
    Outcome.KeptBy (env.store.canonicalFolder folder) (env'.store.canonicalFolder folder)

namespace Setting.KeptBy

variable {env env' : Setting} (h : env.KeptBy env')
include h

lemma enter (chain : IncludeChain) (folder path : String) :
    Outcome.KeptBy (enter env chain folder path) (enter env' chain folder path) := by
  rintro ⟨chain', m⟩ he
  obtain ⟨canonical, hj, hc, hm, hd, hl, rfl⟩ := enter_eq_ok_iff.mp he
  exact enter_eq_ok_iff.mpr
    ⟨canonical, hj, h.canonicalFolder _ m hl _ hc, hm, Nat.le_trans hd h.maxDepth,
      h.load _ _ hl, rfl⟩

/-- By induction on the folders that are not yet on the chain. -/
lemma includeFolder (chain : IncludeChain) (folder path : String) :
    (includeFolder env chain folder path).KeptBy (includeFolder env' chain folder path) := by
  rw [includeFolder_eq, includeFolder_eq]
  cases he : Resolve.enter env chain folder path with
  | error e => exact .throw e _
  | ok p =>
    rw [h.enter chain folder path p he]
    have := length_unvisited_lt he
    have hin : (inside env p.1 p.2.folder).KeptBy (inside env' p.1 p.2.folder) :=
      ⟨rfl, h.fonts, h.read, fun path => includeFolder p.1 p.2.folder path⟩
    show Run.KeptBy (root (inside env p.1 p.2.folder) [] p.2.root >>= _)
      (root (inside env' p.1 p.2.folder) [] p.2.root >>= _)
    exact (hin.root [] p.2.root).bind fun _ => .refl _
termination_by (unvisited env.store chain).length

/-- **A picture that comes of a setting comes of one that keeps it.** -/
theorem document {m : Loaded} (hm : Manifest.load env.store env.compiler m.folder = .ok m)
    (globals : Bindings) : (document env m globals).KeptBy (document env' m globals) := by
  refine (Run.KeptBy.ofOutcome (h.canonicalFolder m.folder m hm)).bind fun folder => ?_
  have hin : (inside env (.root folder) m.folder).KeptBy (inside env' (.root folder) m.folder) :=
    ⟨rfl, h.fonts, h.read, h.includeFolder (.root folder) m.folder⟩
  exact (hin.root [globals] m.root).bind fun _ => .refl _

end Setting.KeptBy

end Resolve

/-- So does the document of a skeleton. -/
lemma generate_keptBy {store store' : Store} {options : Options}
    (h : (options.setting store).KeptBy (options.setting store')) :
    Outcome.KeptBy (generate store options) (generate store' options) := by
  intro document hdoc
  obtain ⟨m, hm, hdoc⟩ := bind_eq_ok_iff.mp hdoc
  refine bind_eq_ok_iff.mpr ⟨m, h.load "" m hm, ?_⟩
  have hfolder : Manifest.load store options.compiler m.folder = .ok m := by
    rwa [Resolve.folder_of_load hm]
  refine (Outcome.KeptBy.refl _).bind (fun globals => ?_) document hdoc
  exact (h.document hfolder globals).outcome.bind fun _ => .refl _

end SvgSkeleton
