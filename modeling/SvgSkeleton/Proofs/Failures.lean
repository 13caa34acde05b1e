import SvgSkeleton.Proofs.Inclusion
import SvgSkeleton.Store

/-!
The kinds of failures. With files in memory every act that is not an include, and the loading of
every manifest, fails in a few ways only; none of them is an include that goes round.
-/

namespace SvgSkeleton

/-- Every failure of the outcome is of one of these kinds. -/
def FailsAs {α : Type} (kinds : List ErrorKind) (o : Outcome α) : Prop :=
  ∀ e, o = .error e → e.kind ∈ kinds

namespace FailsAs

variable {α β : Type} {kinds more : List ErrorKind}

@[simp] lemma ok (a : α) : FailsAs kinds (.ok a) := fun _ h => nomatch h

@[simp] lemma error_iff {e : Error} : FailsAs kinds (.error e : Outcome α) ↔ e.kind ∈ kinds := by
  constructor
  · intro h
    exact h e rfl
  · rintro h _ ⟨⟩
    exact h

lemma mono {o : Outcome α} (h : FailsAs kinds o) (hk : kinds ⊆ more) : FailsAs more o :=
  fun e he => hk (h e he)

lemma ne_cyclicInclude {o : Outcome α} {folder : String} {chain : IncludeChain}
    (h : FailsAs kinds o) (hk : .cyclicInclude ∉ kinds) :
    o ≠ .error (.cyclicInclude folder chain) :=
  fun ho => hk (h _ ho)

lemma bind {o : Outcome α} {f : α → Outcome β} (ho : FailsAs kinds o)
    (hf : ∀ a, FailsAs kinds (f a)) : FailsAs kinds (o >>= f) := by
  cases o with
  | ok a => exact hf a
  | error e =>
    rw [error_iff] at ho
    rintro _ ⟨⟩
    exact ho

lemma mapError {ε : Type} {x : Except ε α} {f : ε → Error} (hf : ∀ e, (f e).kind ∈ kinds) :
    FailsAs kinds (x.mapError f) := by
  cases x with
  | ok a => exact ok a
  | error e => exact error_iff.mpr (hf e)

lemma done {o : Outcome α} (h : FailsAs kinds o) : FailsAs kinds (Resolve.done o) :=
  fun e he => h e (Resolve.done_eq_error_iff.mp he)

end FailsAs

lemma failsAs_normalizePath (path : String) : FailsAs [.invalidPath] (normalizePath path) :=
  .mapError fun _ => by simp [Error.kind]

lemma failsAs_joinPath (folder path : String) : FailsAs [.invalidPath] (joinPath folder path) :=
  .mapError fun _ => by simp [Error.kind]

/-- The kinds of failures of a file that is asked for. -/
def fileKinds : List ErrorKind := [.invalidPath, .assetNotFound, .invalidUtf8]

/-- The kinds of failures of what is put into a picture. -/
def assetKinds : List ErrorKind :=
  fileKinds ++ [.unknownImageKind, .unknownBundledFont, .malformedSvg]

/-- The kinds of failures of a manifest. -/
def manifestKinds : List ErrorKind :=
  fileKinds ++ [.manifestNotFound, .manifestCompile, .manifestParse, .validation]

namespace MemoryFiles

variable {files : MemoryFiles}

lemma failsAs_read (path : String) : FailsAs fileKinds (files.toStore.read path) := by
  refine .bind ((failsAs_normalizePath path).mono (by simp [fileKinds])) fun key => ?_
  cases files.find? key with
  | some content => exact .ok _
  | none => simp [fileKinds, Error.kind]

lemma failsAs_readText (path : String) : FailsAs fileKinds (files.toStore.readText path) := by
  refine .bind (failsAs_read path) fun content => ?_
  cases Text.decode? content with
  | some text => exact .ok _
  | none => simp [fileKinds, Error.kind]

lemma failsAs_load (compiler : Option Template.Compiler) (folder : String) :
    FailsAs manifestKinds (Manifest.load files.toStore compiler folder) := by
  have hpath (name : String) : FailsAs manifestKinds (joinPath folder name) :=
    (failsAs_joinPath folder name).mono (by simp [manifestKinds, fileKinds])
  have hlocate : FailsAs manifestKinds (Manifest.locate files.toStore folder) := by
    intro e h
    unfold Manifest.locate at h
    split at h
    · next hj => exact Except.error.inj h ▸ hpath _ _ hj
    · split at h
      · cases h
      · split at h
        · next hj => exact Except.error.inj h ▸ hpath _ _ hj
        · split at h
          · cases h
          · obtain rfl := Except.error.inj h
            simp [manifestKinds, Error.kind]
  have hcompile (path source : String) (format : Manifest.Format) :
      FailsAs manifestKinds
        (Manifest.compile files.toStore compiler folder path source format) := by
    cases format with
    | plain => exact .ok _
    | template =>
      cases compiler with
      | none => simp [Manifest.compile, manifestKinds, Error.kind]
      | some compiler => exact .mapError fun _ => by simp [manifestKinds, Error.kind]
  refine .bind hlocate fun found => .bind ?_ fun source =>
    .bind (hcompile _ _ _) fun text => ?_
  · exact (failsAs_readText _).mono (by simp [manifestKinds])
  · refine .bind (.bind ?_ fun value => ?_) fun root => .ok _
    · exact .mapError fun _ => by simp [manifestKinds, Error.kind]
    · exact .mapError fun _ => by simp [manifestKinds, Error.kind]

end MemoryFiles

namespace Resolve

variable {files : MemoryFiles} {s : Surroundings}

lemma failsAs_asset (hs : s.store = files.toStore) (path : String) :
    FailsAs assetKinds (asset s path) := by
  refine .bind ((failsAs_joinPath _ _).mono (by simp [assetKinds, fileKinds])) fun path => ?_
  rw [hs]
  exact .bind ((MemoryFiles.failsAs_read path).mono (by simp [assetKinds])) fun _ => .ok _

lemma failsAs_image (hs : s.store = files.toStore) (path : String) (kind : Option String) :
    FailsAs assetKinds (image s path kind) := by
  refine .bind (failsAs_asset hs path) fun got => .bind ?_ fun _ => .ok _
  unfold imageKind
  split
  · exact .ok _
  · simp [assetKinds, Error.kind]

lemma failsAs_fontBytes (hs : s.store = files.toStore) (face : Manifest.FontFace) :
    FailsAs assetKinds (fontBytes s face) := by
  unfold fontBytes
  split
  · refine .bind ?_ fun _ => .ok _
    unfold FontTable.get
    split
    · exact .ok _
    · simp [assetKinds, Error.kind]
  · exact .bind (failsAs_asset hs _) fun _ => .ok _

lemma failsAs_nestedMarkup (hs : s.store = files.toStore) (path : String) :
    FailsAs assetKinds (nestedMarkup s path) := by
  refine .bind ((failsAs_joinPath _ _).mono (by simp [assetKinds, fileKinds])) fun path => ?_
  rw [hs]
  refine .bind ((MemoryFiles.failsAs_readText path).mono (by simp [assetKinds])) fun text => ?_
  exact .mapError fun _ => by simp [assetKinds, Error.kind]

/-- **An act that is not an include fails for a variable or for what is put in.** -/
theorem failsAs_perform (hs : s.store = files.toStore) {a : Act} (ha : ∀ path, a ≠ .folder path) :
    FailsAs (.unresolvedVariable :: assetKinds) (perform s a) := by
  have hmore : assetKinds ⊆ .unresolvedVariable :: assetKinds := List.subset_cons_self ..
  cases a with
  | fill vars element text =>
    rw [perform]
    split
    · exact .ok _
    · simp [Error.kind]
  | image path kind => exact ((failsAs_image hs path kind).mono hmore).done
  | face face => exact ((failsAs_fontBytes hs face).mono hmore).done
  | markup path => exact ((failsAs_nestedMarkup hs path).mono hmore).done
  | folder path => exact absurd rfl (ha path)

end Resolve
end SvgSkeleton
