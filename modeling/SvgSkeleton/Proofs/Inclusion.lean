import SvgSkeleton.Proofs.Acts

/-!
Runs inside runs. A folder that is included is entered, and then its manifest is resolved as the
one on top is. What is being resolved at some moment is a stack of frames: the manifest on top, the
one that it is including, and so on. A picture fails exactly if in some frame that its run gets to
there is an act that fails there and then.
-/

namespace SvgSkeleton

lemma IncludeChain.contains_iff_mem {chain : IncludeChain} {folder : String} :
    chain.contains folder = true ↔ folder ∈ chain.toList :=
  List.contains_iff_mem

namespace Resolve

open Manifest (Loaded)

/-- What is the same throughout a manifest in a folder, at the end of a chain. -/
def inside (env : Setting) (chain : IncludeChain) (folder : String) : Surroundings :=
  ⟨env.store, env.fonts, folder, includeFolder env chain folder⟩

instance (env : Setting) (chain : IncludeChain) (folder path : String) :
    ((inside env chain folder).included path).Adds :=
  adds_includeFolder env chain folder path

/-- The manifest that an include leads to, and the chain inside it. -/
def enter (env : Setting) (chain : IncludeChain) (folder path : String) :
    Outcome (IncludeChain × Loaded) := do
  let nested ← joinPath folder path
  let canonical ← env.store.canonicalFolder nested
  if chain.contains canonical = true then .error (.cyclicInclude nested chain)
  else if chain.depth > env.maxDepth then .error (.maxDepthExceeded env.maxDepth nested)
  else
    let m ← Manifest.load env.store env.compiler nested
    return (chain.push canonical, m)

lemma folder_of_load {s : Store} {compiler : Option Template.Compiler} {folder : String}
    {m : Loaded} (h : Manifest.load s compiler folder = .ok m) : m.folder = folder := by
  obtain ⟨found, -, h⟩ := bind_eq_ok_iff.mp h
  obtain ⟨source, -, h⟩ := bind_eq_ok_iff.mp h
  obtain ⟨text, -, h⟩ := bind_eq_ok_iff.mp h
  obtain ⟨root, -, h⟩ := bind_eq_ok_iff.mp h
  obtain rfl := Except.ok.inj h
  rfl

/-- What it takes to enter a folder. -/
lemma enter_eq_ok_iff {env : Setting} {chain chain' : IncludeChain} {folder path : String}
    {m : Loaded} :
    enter env chain folder path = .ok (chain', m) ↔
      ∃ canonical, joinPath folder path = .ok m.folder ∧
        env.store.canonicalFolder m.folder = .ok canonical ∧ chain.contains canonical = false ∧
        chain.depth ≤ env.maxDepth ∧
        Manifest.load env.store env.compiler m.folder = .ok m ∧
        chain' = chain.push canonical := by
  constructor
  · intro h
    obtain ⟨nested, hj, h⟩ := bind_eq_ok_iff.mp h
    obtain ⟨canonical, hc, h⟩ := bind_eq_ok_iff.mp h
    split at h
    · cases h
    · next hm =>
      split at h
      · cases h
      · next hd =>
        obtain ⟨m', hl, h⟩ := bind_eq_ok_iff.mp h
        obtain ⟨rfl, rfl⟩ := Prod.mk.inj (Except.ok.inj h)
        obtain rfl := folder_of_load hl
        exact ⟨canonical, hj, hc, by simpa using hm, by omega, hl, rfl⟩
  · rintro ⟨canonical, hj, hc, hm, hd, hl, rfl⟩
    simp [enter, hj, hc, hm, hl, show ¬ chain.depth > env.maxDepth by omega, bind, Except.bind,
      pure, Except.pure]

/-- Including a folder is entering it and resolving its manifest, whose root becomes a group. -/
theorem includeFolder_eq (env : Setting) (chain : IncludeChain) (folder path : String) :
    includeFolder env chain folder path = do
      let (chain', m) ← Run.ofOutcome (enter env chain folder path)
      let svg ← root (inside env chain' m.folder) [] m.root
      Run.count .ofInclude
      return { svg with name := "g" } := by
  fun_cases includeFolder env chain folder path with
  | case1 e hj =>
    rw [show enter env chain folder path = .error e by simp [enter, hj, bind, Except.bind]]
    rfl
  | case2 nested hj e hc =>
    rw [show enter env chain folder path = .error e by simp [enter, hj, hc, bind, Except.bind]]
    rfl
  | case3 nested hj canonical hc hm =>
    rw [show enter env chain folder path = .error (.cyclicInclude nested chain) by
      simp [enter, hj, hc, hm, bind, Except.bind]]
    rfl
  | case4 nested hj canonical hc hm hd =>
    rw [show enter env chain folder path = .error (.maxDepthExceeded env.maxDepth nested) by
      simp [enter, hj, hc, hm, hd, bind, Except.bind]]
    rfl
  | case5 nested hj canonical hc hm hd e hl =>
    rw [show enter env chain folder path = .error e by
      simp [enter, hj, hc, hm, hd, hl, bind, Except.bind]]
    rfl
  | case6 nested hj canonical hc hm hd m hl =>
    have he : enter env chain folder path = .ok (chain.push canonical, m) := by
      obtain rfl := folder_of_load hl
      exact enter_eq_ok_iff.mpr ⟨canonical, hj, hc, by simpa using hm, by omega, hl, rfl⟩
    obtain rfl := folder_of_load hl
    rw [he]
    rfl

theorem result_includeFolder (env : Setting) (chain : IncludeChain) (folder path : String) :
    (includeFolder env chain folder path).result = do
      let (chain', m) ← enter env chain folder path
      let svg ← (root (inside env chain' m.folder) [] m.root).result
      return { svg with name := "g" } := by
  rw [includeFolder_eq, Run.result_bind, Run.result_ofOutcome]
  cases enter env chain folder path with
  | error e => rfl
  | ok p =>
    show Run.result (root (inside env p.1 p.2.folder) [] p.2.root >>= _) = _
    rw [Run.result_bind]
    rfl

theorem result_document (env : Setting) (m : Loaded) (globals : Bindings) :
    (document env m globals).result = do
      let folder ← env.store.canonicalFolder m.folder
      let svg ← (root (inside env (.root folder) m.folder) [globals] m.root).result
      return { svg with attrs := svg.attrs.setDefaultFirst "xmlns" svgNamespace } := by
  rw [document, Run.result_bind, Run.result_ofOutcome]
  cases env.store.canonicalFolder m.folder with
  | error e => rfl
  | ok folder =>
    show Run.result (root (inside env (.root folder) m.folder) [globals] m.root >>= _) = _
    rw [Run.result_bind]
    rfl

/-- Entering a folder that is not on the chain leaves fewer folders to visit. -/
lemma length_unvisited_lt {env : Setting} {chain chain' : IncludeChain} {folder path : String}
    {m : Loaded} (h : enter env chain folder path = .ok (chain', m)) :
    (unvisited env.store chain').length < (unvisited env.store chain).length := by
  obtain ⟨canonical, -, hc, hm, -, hl, rfl⟩ := enter_eq_ok_iff.mp h
  exact length_unvisited_push_lt (Manifest.mem_folders_of_load hl hc) hm

/-! ### Frames -/

/-- A manifest that is being resolved, with the chain of folders that leads to it and the
variables that are defined around it. -/
structure Frame where
  chain : IncludeChain
  manifest : Loaded
  vars : Bindings

namespace Frame

variable {env : Setting} {f g : Frame}

def acts (f : Frame) : List Act := rootActs f.vars f.manifest.root

def surroundings (env : Setting) (f : Frame) : Surroundings :=
  inside env f.chain f.manifest.folder

/-- What comes of the frame, apart from the picture. -/
def outcome (env : Setting) (f : Frame) : Outcome Unit := performAll (f.surroundings env) f.acts

/-- The run of the frame comes to an act. -/
def ComesTo (env : Setting) (f : Frame) (a : Act) : Prop :=
  Resolve.ComesTo (f.surroundings env) f.acts a

/-- What an act by itself comes to in the frame; an include is only entered. -/
def attempt (env : Setting) (f : Frame) : Act → Outcome Unit
  | .folder path => done (enter env f.chain f.manifest.folder path)
  | a => perform (f.surroundings env) a

/-- The run of the frame gets to an include and goes on in the frame that it opens. -/
def Opens (env : Setting) (f g : Frame) : Prop :=
  g.vars = [] ∧ ∃ path, f.ComesTo env (.folder path) ∧
    enter env f.chain f.manifest.folder path = .ok (g.chain, g.manifest)

/-- Nothing is defined around an included manifest. -/
lemma Opens.mk_eq (ho : f.Opens env g) : ⟨g.chain, g.manifest, []⟩ = g := by
  rw [← ho.1]

/-- The frames that the run of the last of them is inside, innermost first. -/
inductive Stack (env : Setting) (top : Frame) : List Frame → Prop
  | top : Stack env top [top]
  | push {f g : Frame} {fs : List Frame} (hs : Stack env top (f :: fs)) (ho : f.Opens env g) :
      Stack env top (g :: f :: fs)

/-- Induction on a stack, for what is said of its innermost frame and of those below. -/
@[elab_as_elim]
lemma Stack.head_induction {top : Frame}
    {motive : ∀ (f : Frame) (fs : List Frame), Stack env top (f :: fs) → Prop}
    (base : motive top [] .top)
    (push : ∀ {f g : Frame} {fs : List Frame} (hs : Stack env top (f :: fs)) (ho : f.Opens env g),
      motive f fs hs → motive g (f :: fs) (.push hs ho))
    {f : Frame} {fs : List Frame} (hs : Stack env top (f :: fs)) : motive f fs hs :=
  match hs with
  | .top => base
  | .push hs ho => push hs ho (head_induction base push hs)

lemma perform_folder (path : String) :
    perform (f.surroundings env) (.folder path) =
      enter env f.chain f.manifest.folder path >>= fun p => outcome env ⟨p.1, p.2, []⟩ := by
  show done (includeFolder env f.chain f.manifest.folder path).result = _
  rw [result_includeFolder]
  cases enter env f.chain f.manifest.folder path with
  | error e => rfl
  | ok p =>
    have h := done_root (s := inside env p.1 p.2.folder) [] p.2.root
    show done ((root (inside env p.1 p.2.folder) [] p.2.root).result >>= _) =
      performAll (inside env p.1 p.2.folder) (rootActs [] p.2.root)
    rw [← Scope.flat_nil, ← h]
    cases (root (inside env p.1 p.2.folder) [] p.2.root).result <;> rfl

/-- Apart from the picture, a document comes to what its bottom frame comes to. -/
lemma done_document (env : Setting) (m : Loaded) (globals : Bindings) :
    done (document env m globals).result =
      env.store.canonicalFolder m.folder >>= fun top => outcome env ⟨.root top, m, globals⟩ := by
  rw [result_document]
  cases env.store.canonicalFolder m.folder with
  | error e => rfl
  | ok top =>
    have h := done_root (s := inside env (.root top) m.folder) [globals] m.root
    show done ((root (inside env (.root top) m.folder) [globals] m.root).result >>= _) =
      performAll (inside env (.root top) m.folder) (rootActs globals m.root)
    rw [Scope.flat_cons, Scope.flat_nil, List.nil_append] at h
    rw [← h]
    cases (root (inside env (.root top) m.folder) [globals] m.root).result <;> rfl

lemma outcome_eq_error_iff {e : Error} :
    f.outcome env = .error e ↔
      ∃ a, f.ComesTo env a ∧ perform (f.surroundings env) a = .error e :=
  performAll_eq_error_iff

/-- A frame fails if one that it opens does. -/
lemma outcome_of_opens {e : Error} (ho : f.Opens env g) (h : g.outcome env = .error e) :
    f.outcome env = .error e := by
  have hg := ho.mk_eq
  obtain ⟨-, path, hc, he⟩ := ho
  refine outcome_eq_error_iff.mpr ⟨_, hc, ?_⟩
  rw [perform_folder, he]
  show outcome env ⟨g.chain, g.manifest, []⟩ = _
  rw [hg, h]

/-- Where an act of a frame fails, it fails by itself or in a frame that it opens. -/
lemma attempt_or_opens {a : Act} {e : Error} (hc : f.ComesTo env a)
    (h : perform (f.surroundings env) a = .error e) :
    f.attempt env a = .error e ∨ ∃ g, f.Opens env g ∧ g.outcome env = .error e := by
  cases a with
  | folder path =>
    rw [perform_folder] at h
    cases he : enter env f.chain f.manifest.folder path with
    | error e' =>
      rw [he] at h
      exact .inl (by rw [attempt, he]; exact h)
    | ok p =>
      rw [he] at h
      exact .inr ⟨⟨p.1, p.2, []⟩, ⟨rfl, path, hc, he⟩, h⟩
  | _ => exact .inl h

lemma outcome_of_attempt {a : Act} {e : Error} (hc : f.ComesTo env a)
    (h : f.attempt env a = .error e) : f.outcome env = .error e := by
  refine outcome_eq_error_iff.mpr ⟨a, hc, ?_⟩
  cases a with
  | folder path =>
    rw [perform_folder]
    rw [attempt, done_eq_error_iff] at h
    rw [h]
    rfl
  | _ => exact h

lemma length_unvisited_of_opens (ho : f.Opens env g) :
    (unvisited env.store g.chain).length < (unvisited env.store f.chain).length := by
  obtain ⟨-, path, -, he⟩ := ho
  exact length_unvisited_lt he

/-- The top fails if a frame does that its run gets to. -/
lemma outcome_of_stack {top : Frame} {fs : List Frame} {e : Error}
    (hs : Stack env top (f :: fs)) (h : f.outcome env = .error e) : top.outcome env = .error e := by
  induction hs using Stack.head_induction with
  | base => exact h
  | push _ ho ih => exact ih (outcome_of_opens ho h)

/-- Every failure of a frame has its origin in some frame above it. -/
lemma exists_attempt {top f : Frame} {fs : List Frame} {e : Error} (hs : Stack env top (f :: fs))
    (h : f.outcome env = .error e) :
    ∃ g gs a, Stack env top (g :: gs) ∧ g.ComesTo env a ∧ g.attempt env a = .error e := by
  obtain ⟨a, hc, hf⟩ := outcome_eq_error_iff.mp h
  rcases attempt_or_opens hc hf with ha | ⟨g, ho, hg⟩
  · exact ⟨f, fs, a, hs, hc, ha⟩
  · have := length_unvisited_of_opens ho
    exact exists_attempt (.push hs ho) hg
termination_by (unvisited env.store f.chain).length

/-- **A frame fails as the first act does that fails in it or in a frame above it.** -/
theorem outcome_eq_error_iff_exists_stack {top : Frame} {e : Error} :
    top.outcome env = .error e ↔
      ∃ f fs a, Stack env top (f :: fs) ∧ f.ComesTo env a ∧ f.attempt env a = .error e := by
  constructor
  · exact exists_attempt .top
  · rintro ⟨f, fs, a, hs, hc, ha⟩
    exact outcome_of_stack hs (outcome_of_attempt hc ha)

/-- A document fails as its bottom frame does. -/
lemma document_eq_error {m : Loaded} {globals : Bindings} {d : String} {e : Error}
    (hd : env.store.canonicalFolder m.folder = .ok d)
    (h : outcome env ⟨.root d, m, globals⟩ = .error e) :
    (document env m globals).result = .error e := by
  refine done_eq_error_iff.mp ?_
  rw [done_document, hd]
  exact h

end Frame

end Resolve
end SvgSkeleton
