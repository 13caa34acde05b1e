import SvgSkeleton.Proofs.Picture
import SvgSkeleton.Proofs.Spelling

/-!
Going on from where a path has led. A walk along two paths walks the first and then the second, and
a slash or a drive in front is in front of the first already. So two joins lead where one join of
the two paths with a slash between them leads, however many folders there are on the way, and what
a chain of included folders gets at can be named from the outermost of them.
-/

namespace SvgSkeleton

namespace Path

lemma resolveFrom_eq_ok_iff {names got : List Segment} {rest : List Char} :
    resolveFrom names rest = .ok got ↔
      rest.contains '\\' = false ∧ walk names.reverse (segments rest) = some got.reverse := by
  unfold resolveFrom
  constructor
  · intro h
    split at h
    · cases h
    · next hb =>
      split at h
      · cases h
      · next place hw =>
        obtain rfl := Except.ok.inj h
        exact ⟨by simpa using hb, by rw [hw, List.reverse_reverse]⟩
  · rintro ⟨hb, hw⟩
    rw [hb, hw]
    simp

/-- Two walks, one from where the other ends, are one walk. -/
lemma resolveFrom_slash {names got end_ : List Segment} {first rest : List Char}
    (h : resolveFrom names first = .ok got) (hr : resolveFrom got rest = .ok end_) :
    resolveFrom names (first ++ '/' :: rest) = .ok end_ := by
  obtain ⟨hb, hw⟩ := resolveFrom_eq_ok_iff.mp h
  obtain ⟨hb', hw'⟩ := resolveFrom_eq_ok_iff.mp hr
  refine resolveFrom_eq_ok_iff.mpr ⟨?_, ?_⟩
  · rw [List.contains_append, hb]
    simpa using hb'
  · rw [segments_append_slash, walk_append, hw, Option.bind_some, hw']

lemma ordinary_of_resolveFrom {names got : List Segment} {rest : List Char}
    (hn : ∀ s ∈ names, Ordinary s) (h : resolveFrom names rest = .ok got) :
    ∀ s ∈ got, Ordinary s := by
  obtain ⟨-, hw⟩ := resolveFrom_eq_ok_iff.mp h
  intro s hs
  exact ordinary_of_walk (fun s hs => hn s (List.mem_reverse.mp hs))
    (fun s hs => not_mem_of_mem_segments hs) hw s (List.mem_reverse.mpr hs)

/-- What it takes to go from a folder along a path. -/
lemma join_eq_ok_iff {folder relative path : String} :
    join folder relative = .ok path ↔ ∃ names got, resolve folder.toList = .ok names ∧
      startsWithSlash relative.toList = false ∧ hasDrive relative.toList = false ∧
      resolveFrom names relative.toList = .ok got ∧ path = String.ofList (ofSegments got) := by
  constructor
  · intro h
    obtain ⟨names, hn⟩ := exists_resolve_of_join h
    have hrel : startsWithSlash relative.toList = false ∧ hasDrive relative.toList = false := by
      unfold join at h
      split at h
      · cases h
      · next hrel => simpa using hrel
    rw [join_eq hn hrel.1 hrel.2] at h
    split at h
    · cases h
    · next got hg => exact ⟨names, got, hn, hrel.1, hrel.2, hg, (Except.ok.inj h).symm⟩
  · rintro ⟨names, got, hn, hs, hd, hg, rfl⟩
    rw [join_eq hn hs hd, hg]

/-- What is joined after a join can be joined at once. -/
lemma join_slash {base first rest folder path : String} (hne : first ≠ "")
    (h : join base first = .ok folder) (hr : join folder rest = .ok path) :
    join base (first ++ "/" ++ rest) = .ok path := by
  obtain ⟨names, got, hn, hs, hd, hg, rfl⟩ := join_eq_ok_iff.mp h
  obtain ⟨names', end_, hn', -, -, he, rfl⟩ := join_eq_ok_iff.mp hr
  -- the folder is a normal form, so it resolves to the names that it is made of
  rw [String.toList_ofList] at hn'
  obtain rfl := resolve_ofSegments (ordinary_of_resolveFrom (ordinary_of_resolve hn) hg) hn'
  have hl : (first ++ "/" ++ rest).toList = first.toList ++ '/' :: rest.toList := by simp
  have hfirst : first.toList ≠ [] := by simpa using hne
  refine join_eq_ok_iff.mpr ⟨names, end_, hn, ?_, ?_, ?_, rfl⟩
  · rw [hl, startsWithSlash_append hfirst, hs]
  · rw [hl, hasDrive_slash hd]
  · rw [hl]
    exact resolveFrom_slash hg he

/-- A path that is not joined is refused as it was given. -/
lemma path_of_join_eq_error {base relative : String} {refusal : Refusal}
    (h : join base relative = .error refusal) : refusal.path = relative := by
  unfold join at h
  split at h
  · obtain rfl := Except.error.inj h
    rfl
  split at h
  · unfold normalize at h
    split at h
    · obtain rfl := Except.error.inj h
      rfl
    · cases h
  · split at h
    · obtain rfl := Except.error.inj h
      rfl
    · cases h

end Path

lemma joinPath_eq_ok_iff {base relative path : String} :
    joinPath base relative = .ok path ↔ Path.join base relative = .ok path :=
  mapError_eq_ok_iff

/-- One path after the other, with slashes between them. -/
lemma joinPath_intercalate {base first path : String} {rest : List String} (hne : first ≠ "")
    (h : (first :: rest).foldlM joinPath base = .ok path) :
    joinPath base (String.intercalate "/" (first :: rest)) = .ok path := by
  induction rest generalizing first with
  | nil =>
    obtain ⟨folder, hf, h⟩ := bind_eq_ok_iff.mp h
    obtain rfl := Except.ok.inj h
    exact hf
  | cons second rest ih =>
    obtain ⟨folder, hf, h⟩ := bind_eq_ok_iff.mp h
    obtain ⟨next, hn, h⟩ := bind_eq_ok_iff.mp h
    have hboth : joinPath base (first ++ "/" ++ second) = .ok next :=
      joinPath_eq_ok_iff.mpr
        (Path.join_slash hne (joinPath_eq_ok_iff.mp hf) (joinPath_eq_ok_iff.mp hn))
    have hne' : first ++ "/" ++ second ≠ "" := by simp
    have := ih hne' (bind_eq_ok_iff.mpr ⟨next, hboth, h⟩)
    rwa [String.intercalate_cons_append, ← String.intercalate_cons_cons] at this

namespace Resolve

open Manifest (Loaded)

/-- The manifest that containers lead to, one after the other. -/
inductive LeadsAlong (env : Setting) : Loaded → List String → Loaded → Prop
  | here (m : Loaded) : LeadsAlong env m [] m
  | on {m nested inner : Loaded} {path : String} {paths : List String}
      (h : Leads env m.folder path nested) (hr : LeadsAlong env nested paths inner) :
      LeadsAlong env m (path :: paths) inner

lemma LeadsAlong.foldlM {env : Setting} {m inner : Loaded} {paths : List String}
    (h : LeadsAlong env m paths inner) : paths.foldlM joinPath m.folder = .ok inner.folder := by
  induction h with
  | here m => rfl
  | on h _ ih => exact bind_eq_ok_iff.mpr ⟨_, h.1, ih⟩

/-- **What is reached in steps is reached at once.** Two joins lead where one join of both paths
leads. An asset of a folder that a chain of containers leads to is the file that all their paths
and its own, with slashes between them, name from the first folder. What fails to be joined is
refused as it was given. -/
theorem joinPath_in_steps :
    (∀ base first rest folder path, first ≠ "" → joinPath base first = .ok folder →
      joinPath folder rest = .ok path → joinPath base (first ++ "/" ++ rest) = .ok path) ∧
    (∀ env m first paths inner path file bytes, first ≠ "" →
      LeadsAlong env m (first :: paths) inner → HasAsset env inner.folder path file bytes →
      HasAsset env m.folder (String.intercalate "/" (first :: paths ++ [path])) file bytes) ∧
    ∀ base relative e, joinPath base relative = .error e →
      ∃ fault, e = .invalidPath ⟨relative, fault⟩ := by
  refine ⟨?_, ?_, ?_⟩
  · intro base first rest folder path hne h hr
    exact joinPath_eq_ok_iff.mpr
      (Path.join_slash hne (joinPath_eq_ok_iff.mp h) (joinPath_eq_ok_iff.mp hr))
  · rintro env m first paths inner path file bytes hne hl ⟨hj, hb⟩
    refine ⟨joinPath_intercalate hne ?_, hb⟩
    show ((first :: paths) ++ [path]).foldlM joinPath m.folder = .ok file
    rw [List.foldlM_append, hl.foldlM]
    exact bind_eq_ok_iff.mpr ⟨inner.folder, rfl, bind_eq_ok_iff.mpr ⟨file, hj, rfl⟩⟩
  · intro base relative e h
    unfold joinPath at h
    cases hj : Path.join base relative with
    | ok path =>
      rw [hj] at h
      cases h
    | error refusal =>
      rw [hj] at h
      obtain rfl := Except.error.inj h
      obtain rfl := Path.path_of_join_eq_error hj
      exact ⟨refusal.fault, rfl⟩

/-- Files with an image, and with a manifest in `inner` and in a folder in it. -/
def deepFiles : MemoryFiles :=
  .ofList [("a.png", "x".toUTF8), ("inner/collagen.json", "\x7b\x7d".toUTF8),
    ("inner/deep/collagen.json", "\x7b\x7d".toUTF8)]

def deepSetting : Setting := ⟨deepFiles.toStore, .empty, none, 64⟩

theorem deepFiles_in_steps :
    joinPath "a/b" "../c:" = .ok "a/c:" ∧ joinPath "a/c:" "./d" = .ok "a/c:/d" ∧
      joinPath "a/b" "../c:/./d" = .ok "a/c:/d" ∧
    (∃ m inner, m.folder = "" ∧ LeadsAlong deepSetting m ["inner", "./deep"] inner ∧
      HasAsset deepSetting m.folder "inner/./deep/../../a.png" "a.png" "x".toUTF8) ∧
    ∃ e fault, joinPath "sub" "../../a.png" = .error e ∧
      e = .invalidPath ⟨"../../a.png", fault⟩ := by
  obtain ⟨hsteps, hchain, hrefused⟩ := joinPath_in_steps
  have hfirst : joinPath "a/b" "../c:" = .ok "a/c:" := by decide +kernel
  have hrest : joinPath "a/c:" "./d" = .ok "a/c:/d" := by decide +kernel
  refine ⟨hfirst, hrest, hsteps _ _ _ _ _ (by decide) hfirst hrest, ?_, ?_⟩
  · obtain ⟨nested, hn, -⟩ := exists_of_any (p := fun _ => true)
      (x := Manifest.load deepFiles.toStore none "inner") (by decide +kernel)
    obtain ⟨inner, hi, -⟩ := exists_of_any (p := fun _ => true)
      (x := Manifest.load deepFiles.toStore none "inner/deep") (by decide +kernel)
    have hnested : nested.folder = "inner" := folder_of_load hn
    have hinner : inner.folder = "inner/deep" := folder_of_load hi
    have hl : Leads deepSetting "" "inner" nested := by
      rw [← hnested] at hn
      refine ⟨?_, hn⟩
      rw [hnested]
      decide +kernel
    have hl' : Leads deepSetting nested.folder "./deep" inner := by
      rw [← hinner] at hi
      refine ⟨?_, hi⟩
      rw [hnested, hinner]
      decide +kernel
    have hasset : HasAsset deepSetting inner.folder "../../a.png" "a.png" "x".toUTF8 := by
      refine ⟨?_, by decide +kernel⟩
      rw [hinner]
      decide +kernel
    have hpath : LeadsAlong deepSetting ⟨⟨[], [], none⟩, "", "collagen.json", .plain, 0⟩
        ["inner", "./deep"] inner := .on hl (.on hl' (.here inner))
    have hwhole : String.intercalate "/" (["inner", "./deep"] ++ ["../../a.png"]) =
        "inner/./deep/../../a.png" := by decide +kernel
    have h := hchain _ _ _ _ _ _ _ _ (by decide) hpath hasset
    rw [hwhole] at h
    exact ⟨_, inner, rfl, hpath, h⟩
  · obtain ⟨e, he⟩ := exists_error_of_isNone (x := joinPath "sub" "../../a.png")
      (by decide +kernel)
    obtain ⟨fault, rfl⟩ := hrefused _ _ e he
    exact ⟨_, fault, he, rfl⟩

end Resolve
end SvgSkeleton
