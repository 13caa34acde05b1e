import Mathlib.Order.Bounds.Basic
import Mathlib.Order.ConditionallyCompleteLattice.Basic
import Mathlib.Order.Lattice.Nat
import SvgSkeleton.Proofs.Termination
import SvgSkeleton.Proofs.Transfer

/-!
The limit on the depth of inclusion is only a guard. Two runs that differ in the limit enter the
same folders until one of them is refused an include for being too deep. So a picture that is made
under some limit is made under every limit that its deepest include keeps, and under no other: there
the first include that is too deep is refused.
-/

namespace SvgSkeleton

namespace Resolve

open Manifest (Loaded)

/-- The same setting with another limit. -/
def Setting.withLimit (env : Setting) (n : Nat) : Setting := { env with maxDepth := n }

lemma Setting.withLimit_self (env : Setting) : env.withLimit env.maxDepth = env := rfl

lemma Setting.keptBy_withLimit {env : Setting} {a b : Nat} (h : a ≤ b) :
    (env.withLimit a).KeptBy (env.withLimit b) where
  fonts := rfl
  maxDepth := h
  read _ := .refl _
  load _ := .refl _
  canonicalFolder _ _ _ := .refl _

variable {env : Setting} {n : Nat}

/-- What is entered under one limit is entered under another one as well, or is too deep there. -/
lemma enter_withLimit {chain chain' : IncludeChain} {folder path : String} {m : Loaded}
    (h : enter env chain folder path = .ok (chain', m)) :
    enter (env.withLimit n) chain folder path =
      if chain.depth ≤ n then .ok (chain', m) else .error (.maxDepthExceeded n m.folder) := by
  obtain ⟨canonical, hj, hc, hm, -, hl, rfl⟩ := enter_eq_ok_iff.mp h
  split
  · next hd => exact enter_eq_ok_iff.mpr ⟨canonical, hj, hc, hm, hd, hl, rfl⟩
  · next hd =>
    have hc' : (env.withLimit n).store.canonicalFolder m.folder = .ok canonical := hc
    have hd' : chain.depth > (env.withLimit n).maxDepth := Nat.lt_of_not_le hd
    simp only [enter, hj, hc', hm, bind, Except.bind, if_pos hd']
    rfl

namespace Frame

variable {top f g : Frame} {fs : List Frame}

lemma depth_of_stack (hst : Stack env top (f :: fs)) :
    f.chain.depth = top.chain.depth + fs.length := by
  induction hst using Stack.head_induction with
  | base => rfl
  | @push f g fs _ ho ih =>
    rw [(chain_of_opens ho).1, IncludeChain.depth_push, ih, List.length_cons]
    omega

/-- An include under another limit goes on in the frame that it opens, or is too deep. -/
lemma perform_folder_withLimit {path : String} (hg : ⟨g.chain, g.manifest, []⟩ = g)
    (he : enter env f.chain f.manifest.folder path = .ok (g.chain, g.manifest)) :
    perform (f.surroundings (env.withLimit n)) (.folder path) =
      if f.chain.depth ≤ n then g.outcome (env.withLimit n)
      else .error (.maxDepthExceeded n g.manifest.folder) := by
  rw [perform_folder, enter_withLimit he]
  split
  · show outcome _ ⟨g.chain, g.manifest, []⟩ = _
    rw [hg]
  · rfl

/-- Nothing but includes depends on the limit. -/
lemma perform_withLimit {a : Act} (ha : ∀ path, a ≠ .folder path) :
    perform (f.surroundings (env.withLimit n)) a = perform (f.surroundings env) a := by
  cases a with
  | folder path => exact absurd rfl (ha path)
  | _ => rfl

/-- If the top succeeds under another limit, then so does every frame that its run gets to, and
none is too deep. -/
lemma outcome_of_stack_withLimit (htop : top.chain.depth = 1) (hst : Stack env top (f :: fs))
    (hok : top.outcome (env.withLimit n) = .ok ()) :
    f.outcome (env.withLimit n) = .ok () ∧ fs.length ≤ n := by
  induction hst using Stack.head_induction with
  | base => exact ⟨hok, Nat.zero_le n⟩
  | @push f g fs hst ho ih =>
    obtain ⟨hf, -⟩ := ih
    have hg := ho.mk_eq
    obtain ⟨-, path, hc, he⟩ := ho
    have hp := performAll_eq_ok_iff.mp hf _ hc.mem
    change perform (f.surroundings (env.withLimit n)) _ = _ at hp
    rw [perform_folder_withLimit hg he] at hp
    split at hp
    · next hd =>
      rw [depth_of_stack hst, htop] at hd
      exact ⟨hp, by rw [List.length_cons]; omega⟩
    · cases hp

/-- A frame that succeeds, but fails under another limit, fails there because an include is too
deep. By induction on the folders that are not yet on the chain. -/
lemma exists_stack_of_withLimit {f : Frame} {fs : List Frame} {e : Error}
    (htop : top.chain.depth = 1) (hst : Stack env top (f :: fs)) (hok : f.outcome env = .ok ())
    (h : f.outcome (env.withLimit n) = .error e) :
    (∃ path, e = .maxDepthExceeded n path) ∧
      ∃ g gs, Stack env top (g :: gs) ∧ n < gs.length := by
  obtain ⟨a, hc, ha⟩ := outcome_eq_error_iff.mp h
  by_cases hf : ∃ path, a = .folder path
  · obtain ⟨path, rfl⟩ := hf
    obtain ⟨g, ho, he, hgok⟩ := exists_opens_of_container hok (mem_tags_of_comesTo hc)
    have hpush := Stack.push hst ho
    rw [perform_folder_withLimit ho.mk_eq he] at ha
    split at ha
    · next hd =>
      have := length_unvisited_of_opens ho
      exact exists_stack_of_withLimit htop hpush hgok ha
    · next hd =>
      rw [depth_of_stack hst, htop] at hd
      exact ⟨⟨_, (Except.error.inj ha).symm⟩, g, _, hpush, by rw [List.length_cons]; omega⟩
  · have hok' : perform (f.surroundings env) a = .ok () := performAll_eq_ok_iff.mp hok a hc.mem
    rw [perform_withLimit fun path h => hf ⟨path, h⟩, hok'] at ha
    cases ha
termination_by (unvisited env.store f.chain).length

end Frame

open SvgSkeleton.Resolve.Frame (Stack)

/-- The numbers of containers that the run of a frame is inside of at some moment. -/
def nestings (env : Setting) (top : Frame) : Set Nat :=
  {k | ∃ f fs, Stack env top (f :: fs) ∧ fs.length = k}

section

variable {m : Loaded} {globals : Bindings} {d : String}

/-- A run that succeeds has a deepest include. -/
lemma exists_isGreatest_nestings {top : Frame} (htop : top.chain.depth = 1)
    (hok : top.outcome env = .ok ()) : ∃ k, IsGreatest (nestings env top) k := by
  have hle : ∀ k ∈ nestings env top, k ≤ env.maxDepth := by
    rintro k ⟨f, fs, hst, rfl⟩
    exact (Frame.outcome_of_stack_withLimit (n := env.maxDepth) htop hst hok).2
  have hne : (nestings env top).Nonempty := ⟨0, top, [], .top, rfl⟩
  exact ⟨sSup _, Nat.sSup_mem hne ⟨_, hle⟩, fun k hk => le_csSup ⟨_, hle⟩ hk⟩

/-- Two limits under which a picture is made give the same picture with the same counts. -/
lemma start_withLimit_eq {stats stats' : Stats} {svg : Element}
    (hm : Manifest.load env.store env.compiler m.folder = .ok m)
    (h : (document env m globals).start stats = (.ok svg, stats'))
    (hd : env.store.canonicalFolder m.folder = .ok d)
    (hok : Frame.outcome (env.withLimit n) ⟨.root d, m, globals⟩ = .ok ()) :
    (document (env.withLimit n) m globals).start stats = (.ok svg, stats') := by
  rcases Nat.le_total env.maxDepth n with hn | hn
  · exact (Setting.keptBy_withLimit hn).document hm globals _ _ _ h
  · have hdone := Frame.done_document (env.withLimit n) m globals
    have hd' : (env.withLimit n).store.canonicalFolder m.folder = .ok d := hd
    rw [hd'] at hdone
    obtain ⟨svg', hsvg'⟩ := done_eq_ok_iff.mp (hdone.trans hok)
    have hstart := Run.Adds.start_eq (r := document (env.withLimit n) m globals) stats
    rw [hsvg'] at hstart
    have hkept := (Setting.keptBy_withLimit hn).document hm globals _ _ _ hstart
    rw [env.withLimit_self, h] at hkept
    rw [hstart, hkept]

end

/-- **The limit is only a guard.** If a picture is made under some limit, its containers are nested
to some depth. Under every limit that is not below this depth it is made all the same, with the
same counts; every other limit is what the run fails for. -/
theorem limit_only_guards {env : Setting} {folder : String} {m : Loaded} {globals : Bindings}
    {stats stats' : Stats} {svg : Element}
    (hm : Manifest.load env.store env.compiler folder = .ok m)
    (h : (document env m globals).start stats = (.ok svg, stats')) :
    ∃ d k, env.store.canonicalFolder folder = .ok d ∧
      IsGreatest (nestings env ⟨.root d, m, globals⟩) k ∧
      ∀ n,
        (k ≤ n → (document (env.withLimit n) m globals).start stats = (.ok svg, stats')) ∧
        (n < k → ∃ path, ((document (env.withLimit n) m globals).start stats).1 =
          .error (.maxDepthExceeded n path)) := by
  obtain rfl := folder_of_load hm
  have hdone := Frame.done_document env m globals
  rw [← Run.start_fst _ stats, h] at hdone
  obtain ⟨d, hd, hok⟩ := bind_eq_ok_iff.mp hdone.symm
  have htop : (Frame.chain ⟨.root d, m, globals⟩).depth = 1 := rfl
  obtain ⟨k, ⟨f, fs, hst, rfl⟩, hk⟩ := exists_isGreatest_nestings htop hok
  refine ⟨d, fs.length, hd, ⟨⟨f, fs, hst, rfl⟩, hk⟩, fun n => ?_⟩
  cases ho : Frame.outcome (env.withLimit n) ⟨.root d, m, globals⟩ with
  | ok =>
    refine ⟨fun _ => start_withLimit_eq hm h hd ho, fun hn => ?_⟩
    have hle := (Frame.outcome_of_stack_withLimit htop hst ho).2
    omega
  | error e =>
    obtain ⟨⟨path, rfl⟩, g, gs, hgs, hn⟩ := Frame.exists_stack_of_withLimit htop .top hok ho
    have hle : gs.length ≤ fs.length := hk ⟨g, gs, hgs, rfl⟩
    refine ⟨fun hn' => by omega, fun _ => ⟨path, ?_⟩⟩
    rw [Run.start_fst]
    exact Frame.document_eq_error hd ho

/-- Whether the nested files make a picture under a limit. -/
lemma done_nestedFiles : ∃ m, Manifest.load nestedFiles.toStore none "" = .ok m ∧
    done (document (nestedSetting 64) m []).result = .ok () ∧
    done (document (nestedSetting 2) m []).result = .ok () ∧
    done (document (nestedSetting 1) m []).result = .error (.maxDepthExceeded 1 "a/b") := by
  have hruns : (Manifest.load nestedFiles.toStore none "").map (fun m => [64, 2, 1].map fun n =>
      done (documentWithin (nestedSetting n)
        (fun _ _ _ => throw (.assetNotFound "")) 4 m []).result) =
      .ok [.ok (), .ok (), .error (.maxDepthExceeded 1 "a/b")] := by
    decide +kernel
  obtain ⟨m, hm, hruns⟩ := map_eq_ok_iff.mp hruns
  have hfour : nestedFiles.manifestFolders.length < 4 := by decide +kernel
  have hwithin (n : Nat) : documentWithin (nestedSetting n) (fun _ _ _ => throw (.assetNotFound ""))
      4 m [] = document (nestedSetting n) m [] :=
    documentWithin_eq_of_files rfl hfour m []
  simp only [hwithin, List.map_cons, List.map_nil, List.cons.injEq, and_true] at hruns
  exact ⟨m, hm, hruns⟩

theorem nestedFiles_need_two :
    ∃ m svg stats, Manifest.load nestedFiles.toStore none "" = .ok m ∧
      (document (nestedSetting 64) m []).start .zero = (.ok svg, stats) ∧
      IsGreatest (nestings (nestedSetting 64) ⟨.root "", m, []⟩) 2 ∧
      (document (nestedSetting 2) m []).start .zero = (.ok svg, stats) ∧
      ∃ path, ((document (nestedSetting 1) m []).start .zero).1 =
        .error (.maxDepthExceeded 1 path) := by
  obtain ⟨m, hm, h64, h2, h1⟩ := done_nestedFiles
  obtain ⟨svg, hsvg⟩ := done_eq_ok_iff.mp h64
  have hstart := Run.Adds.start_eq (r := document (nestedSetting 64) m []) .zero
  rw [hsvg] at hstart
  have hm' : Manifest.load (nestedSetting 64).store (nestedSetting 64).compiler "" = .ok m := hm
  obtain ⟨d, k, hd, hk, hlimits⟩ := limit_only_guards hm' hstart
  have hcan : (nestedSetting 64).store.canonicalFolder "" = .ok "" := by decide +kernel
  obtain rfl := Except.ok.inj (hcan.symm.trans hd)
  have hle : k ≤ 2 := by
    by_contra hlt
    obtain ⟨path, hp⟩ := (hlimits 2).2 (by omega)
    rw [Run.start_fst] at hp
    have herr := done_eq_error_iff.mpr hp
    cases h2.symm.trans herr
  have hlt : 1 < k := by
    by_contra hle
    have hp := congrArg Prod.fst ((hlimits 1).1 (by omega))
    rw [Run.start_fst] at hp
    have hok := done_eq_ok_iff.mpr ⟨_, hp⟩
    cases h1.symm.trans hok
  obtain rfl : k = 2 := by omega
  exact ⟨m, svg, _, hm, hstart, hk, (hlimits 2).1 (by omega), (hlimits 1).2 (by omega)⟩

end Resolve
end SvgSkeleton
