import SvgSkeleton.Proofs.Counting
import SvgSkeleton.Store

/-!
A folder of files in memory may be spelled in many ways, with dots and empty segments. Its manifest,
and where paths lead from it, depend on its normal form only.
-/

namespace SvgSkeleton

namespace Path

/-- Walk on from the place of some names. -/
def resolveFrom (names : List Segment) (rest : List Char) : Except Fault (List Segment) :=
  if rest.contains '\\' then .error .backslash
  else
    match walk names.reverse (segments rest) with
    | none => .error .aboveRoot
    | some place => .ok place.reverse

/-- A path that resolves begins with no slash or drive and has no backslash. -/
lemma plain_of_resolve {path : List Char} {names : List Segment} (h : resolve path = .ok names) :
    startsWithSlash path = false ∧ path.contains '\\' = false ∧ hasDrive path = false := by
  unfold resolve at h
  split at h
  · cases h
  · next hs =>
    split at h
    · cases h
    · next hb =>
      split at h
      · cases h
      · next hd => exact ⟨by simpa using hs, by simpa using hb, by simpa using hd⟩

lemma resolve_eq_resolveFrom {path : List Char} (hs : startsWithSlash path = false)
    (hd : hasDrive path = false) : resolve path = resolveFrom [] path := by
  unfold resolve
  rw [hs, hd]
  rfl

lemma startsWithSlash_append {a : List Char} (ha : a ≠ []) (b : List Char) :
    startsWithSlash (a ++ b) = startsWithSlash a := by
  cases a with
  | nil => exact absurd rfl ha
  | cons c r =>
    by_cases hc : c = '/'
    · subst hc
      rfl
    · simp [startsWithSlash, hc]

lemma hasDrive_append {a : List Char} (h : hasDrive a = true) (b : List Char) :
    hasDrive (a ++ b) = true := by
  unfold hasDrive at h
  split at h
  · exact h
  · cases h

lemma hasDrive_slash {a : List Char} (h : hasDrive a = false) (b : List Char) :
    hasDrive (a ++ '/' :: b) = false := by
  match a with
  | [] =>
    cases b with
    | nil => rfl
    | cons c r =>
      by_cases hc : c = ':'
      · subst hc
        rfl
      · simp [hasDrive, hc]
  | [c] => simp [hasDrive]
  | c :: d :: r =>
    by_cases hd : d = ':'
    · subst hd
      exact h
    · simp [hasDrive, hd]

/-- A walk on from a folder depends on the folder's place only. -/
lemma resolve_slash_eq {folder : List Char} {names : List Segment} (hne : folder ≠ [])
    (h : resolve folder = .ok names) (rest : List Char) :
    resolve (folder ++ '/' :: rest) = resolveFrom names rest := by
  obtain ⟨hs, hb, hd⟩ := plain_of_resolve h
  have hc : (folder ++ '/' :: rest).contains '\\' = rest.contains '\\' := by
    rw [List.contains_append, hb]
    simp
  unfold resolve
  rw [startsWithSlash_append hne, hs, hc, hasDrive_slash hd, segments_append_slash, walk_append,
    resolve_eq_ok h]
  rfl

/-! ### Normal forms -/

lemma mem_of_mem_segments {path s : List Char} (h : s ∈ segments path) : ∀ c ∈ s, c ∈ path := by
  induction path generalizing s with
  | nil => simp_all [segments]
  | cons d r ih =>
    intro c hc
    simp only [segments] at h
    split at h
    · rcases List.mem_cons.mp h with rfl | h
      · cases hc
      · exact List.mem_cons_of_mem _ (ih h c hc)
    · split at h
      · next hn => exact absurd hn (segments_ne_nil r)
      · next t ts hs =>
        rcases List.mem_cons.mp h with rfl | h
        · rcases List.mem_cons.mp hc with rfl | hc
          · exact List.mem_cons_self
          · exact List.mem_cons_of_mem _ (ih (by simp [hs]) c hc)
        · exact List.mem_cons_of_mem _ (ih (by simp [hs, h]) c hc)

lemma mem_of_walk {place route end_ : List Segment} (h : walk place route = some end_) :
    ∀ s ∈ end_, s ∈ place ∨ s ∈ route := by
  induction route generalizing place with
  | nil =>
    obtain rfl := Option.some.inj h
    exact fun s hs => .inl hs
  | cons t r ih =>
    intro s hs
    simp only [walk] at h
    split at h
    · exact (ih h s hs).imp id (List.mem_cons_of_mem _)
    · split at h
      · cases place with
        | nil => cases h
        | cons u above =>
          exact (ih h s hs).imp (List.mem_cons_of_mem _) (List.mem_cons_of_mem _)
      · rcases ih h s hs with hs | hs
        · rcases List.mem_cons.mp hs with rfl | hs
          · exact .inr List.mem_cons_self
          · exact .inl hs
        · exact .inr (List.mem_cons_of_mem _ hs)

lemma mem_ofSegments {names : List Segment} {c : Char} (h : c ∈ ofSegments names) :
    c = '/' ∨ ∃ s ∈ names, c ∈ s := by
  induction names with
  | nil => cases h
  | cons s r ih =>
    cases r with
    | nil => exact .inr ⟨s, by simp, h⟩
    | cons t r =>
      rcases List.mem_append.mp h with h | h
      · exact .inr ⟨s, by simp, h⟩
      · rcases List.mem_cons.mp h with h | h
        · exact .inl h
        · rcases ih h with h | ⟨u, hu, hc⟩
          · exact .inl h
          · exact .inr ⟨u, List.mem_cons_of_mem _ hu, hc⟩

lemma startsWithSlash_ofSegments {names : List Segment} (h : ∀ s ∈ names, Ordinary s) :
    startsWithSlash (ofSegments names) = false := by
  cases names with
  | nil => rfl
  | cons s r =>
    have hs := h s (by simp)
    cases s with
    | nil => exact absurd hs.stays (by decide)
    | cons c s =>
      have hc : c ≠ '/' := fun e => hs.slash (by simp [e])
      cases r <;> simp [ofSegments, startsWithSlash, hc]

lemma contains_ofSegments {names : List Segment} (h : ∀ s ∈ names, '\\' ∉ s) :
    (ofSegments names).contains '\\' = false := by
  rw [← Bool.not_eq_true, List.contains_iff_mem]
  intro hc
  rcases mem_ofSegments hc with hc | ⟨s, hs, hc⟩
  · exact absurd hc (by decide)
  · exact h s hs hc

/-- Ordinary names with slashes between them are a path to their place, if there is no backslash in
them and no drive in front. -/
lemma resolve_ofSegments_of_ordinary {names : List Segment}
    (h : ∀ s ∈ names, Ordinary s ∧ '\\' ∉ s) (hd : hasDrive (ofSegments names) = false) :
    resolve (ofSegments names) = .ok names := by
  have hord : ∀ s ∈ names, Ordinary s := fun s hs => (h s hs).1
  have hw : walk [] (segments (ofSegments names)) = some names.reverse := by
    by_cases hn : names = []
    · subst hn
      rfl
    · rw [segments_ofSegments hn fun s hs => (hord s hs).slash, walk_ordinary hord]
      simp
  rw [resolve_eq_resolveFrom (startsWithSlash_ofSegments hord) hd]
  unfold resolveFrom
  rw [contains_ofSegments fun s hs => (h s hs).2, List.reverse_nil, hw]
  simp

/-- The names that a path resolves to have no backslash in them. -/
lemma backslash_notMem_of_resolve {path : List Char} {names : List Segment}
    (h : resolve path = .ok names) : ∀ s ∈ names, '\\' ∉ s := by
  intro s hs hc
  rcases mem_of_walk (resolve_eq_ok h) s (by simpa using hs) with hs | hs
  · cases hs
  · have := (plain_of_resolve h).2.1
    rw [← Bool.not_eq_true, List.contains_iff_mem] at this
    exact this (mem_of_mem_segments hs _ hc)

/-- The normal form of a path resolves to the same place, unless it begins with a drive. -/
lemma resolve_ofSegments_eq {path : List Char} {names : List Segment}
    (h : resolve path = .ok names) (hd : hasDrive (ofSegments names) = false) :
    resolve (ofSegments names) = .ok names :=
  resolve_ofSegments_of_ordinary
    (fun s hs => ⟨ordinary_of_resolve h s hs, backslash_notMem_of_resolve h s hs⟩) hd

/-- A normal form that begins with a drive is no path. -/
lemma resolve_ofSegments_of_hasDrive {path : List Char} {names : List Segment}
    (h : resolve path = .ok names) (hd : hasDrive (ofSegments names) = true) :
    resolve (ofSegments names) = .error .absolute := by
  have hs := startsWithSlash_ofSegments (ordinary_of_resolve h)
  have hb := contains_ofSegments (backslash_notMem_of_resolve h)
  rw [resolve, hs, hb, hd]
  rfl

/-- A path taken from a folder walks on from the folder's place. -/
lemma join_eq {folder relative : String} {names : List Segment}
    (h : resolve folder.toList = .ok names) (hs : startsWithSlash relative.toList = false)
    (hd : hasDrive relative.toList = false) :
    join folder relative =
      match resolveFrom names relative.toList with
      | .error fault => .error ⟨relative, fault⟩
      | .ok got => .ok (String.ofList (ofSegments got)) := by
  rw [join, hs, hd, Bool.or_false, if_neg Bool.false_ne_true]
  by_cases he : folder = ""
  · subst he
    obtain rfl : [] = names := Except.ok.inj h
    have hn : normalize relative = match resolve relative.toList with
        | .error fault => .error ⟨relative, fault⟩
        | .ok got => .ok (String.ofList (ofSegments got)) := rfl
    rw [if_pos (show "".isEmpty = true from rfl), hn, resolve_eq_resolveFrom hs hd]
  · have hl : (folder ++ "/" ++ relative).toList = folder.toList ++ '/' :: relative.toList := by
      simp
    have hne : folder.toList ≠ [] := by simpa using he
    rw [if_neg (by simpa using he), normalize, hl, resolve_slash_eq hne h]
    cases resolveFrom names relative.toList <;> rfl

/-- Where a path leads from a folder does not depend on how the folder is spelled. -/
theorem join_eq_of_normalize {folder normal : String} (h : normalize folder = .ok normal)
    (hd : hasDrive normal.toList = false) (relative : String) :
    join folder relative = join normal relative := by
  obtain ⟨names, hr, rfl⟩ := normalize_eq_ok h
  rw [String.toList_ofList] at hd
  have hn : resolve (String.ofList (ofSegments names)).toList = .ok names := by
    rw [String.toList_ofList]
    exact resolve_ofSegments_eq hr hd
  by_cases hrel : (startsWithSlash relative.toList || hasDrive relative.toList) = true
  · rw [join, join, if_pos hrel, if_pos hrel]
  · simp only [Bool.or_eq_true, not_or, Bool.not_eq_true] at hrel
    rw [join_eq hr hrel.1 hrel.2, join_eq hn hrel.1 hrel.2]

/-- A folder from which a path leads somewhere is itself a place. -/
lemma exists_resolve_of_join {folder relative path : String} (h : join folder relative = .ok path) :
    ∃ names, resolve folder.toList = .ok names := by
  unfold join at h
  split at h
  · cases h
  split at h
  · next he =>
    obtain rfl : folder = "" := String.isEmpty_iff.mp he
    exact ⟨[], rfl⟩
  · next hne =>
    split at h
    · cases h
    · next p hp =>
      obtain ⟨got, hr, -⟩ := normalize_eq_ok hp
      have hl : (folder ++ "/" ++ relative).toList = folder.toList ++ '/' :: relative.toList := by
        simp
      rw [hl] at hr
      obtain ⟨hs, hb, hd⟩ := plain_of_resolve hr
      have hw := resolve_eq_ok hr
      rw [segments_append_slash, walk_append, Option.bind_eq_some_iff] at hw
      obtain ⟨place, hplace, -⟩ := hw
      have hne : folder.toList ≠ [] := by simpa using hne
      rw [startsWithSlash_append hne] at hs
      have hb : folder.toList.contains '\\' = false := by
        rw [List.contains_append, Bool.or_eq_false_iff] at hb
        exact hb.1
      have hd : hasDrive folder.toList = false := by
        rw [← Bool.not_eq_true] at hd ⊢
        exact fun hc => hd (hasDrive_append hc _)
      refine ⟨place.reverse, ?_⟩
      unfold resolve
      simp only [hs, hb, hd, hplace, Bool.false_eq_true, if_false]

lemma hasDrive_of_normalize {path normal : String} (h : normalize path = .ok normal) :
    hasDrive path.toList = false := by
  obtain ⟨names, hr, -⟩ := normalize_eq_ok h
  exact (plain_of_resolve hr).2.2

end Path

namespace MemoryFiles

variable {files : MemoryFiles} {compiler : Option Template.Compiler} {folder normal : String}

lemma joinPath_eq (h : normalizePath folder = .ok normal)
    (hd : Path.hasDrive normal.toList = false) (relative : String) :
    joinPath folder relative = joinPath normal relative := by
  rw [joinPath, joinPath, Path.join_eq_of_normalize (normalizePath_eq_ok h) hd]

/-- A folder with a manifest has no drive in its normal form. -/
lemma hasDrive_of_load {m : Manifest.Loaded}
    (hl : Manifest.load files.toStore compiler folder = .ok m)
    (h : normalizePath folder = .ok normal) : Path.hasDrive normal.toList = false := by
  obtain ⟨found, hf⟩ := Manifest.exists_locate_of_load hl
  obtain ⟨hj, hfile⟩ := Manifest.exists_file_of_locate hf
  obtain ⟨names, hr, rfl⟩ := Path.normalize_eq_ok (normalizePath_eq_ok h)
  have hname := ordinary_manifestName found.2.fileName_mem
  have hp := Path.join_name hname hr (joinPath_eq_ok hj)
  have hd : Path.hasDrive found.1.toList = false := by
    change files.isFile found.1 = true at hfile
    unfold isFile at hfile
    split at hfile
    · next key hk => exact Path.hasDrive_of_normalize hk
    · cases hfile
  rw [hp, String.toList_ofList] at hd
  rw [String.toList_ofList]
  by_cases hn : names = []
  · subst hn
    rfl
  · rw [Path.ofSegments_append hn] at hd
    rw [← Bool.not_eq_true] at hd ⊢
    exact fun hc => hd (Path.hasDrive_append hc _)

lemma imports_eq (h : normalizePath folder = .ok normal)
    (hd : Path.hasDrive normal.toList = false) :
    Manifest.imports files.toStore folder = Manifest.imports files.toStore normal := by
  simp only [Manifest.imports, joinPath_eq h hd]
  rfl

lemma locate_eq_ok (h : normalizePath folder = .ok normal)
    (hd : Path.hasDrive normal.toList = false) {found : String × Manifest.Format}
    (hf : Manifest.locate files.toStore folder = .ok found) :
    Manifest.locate files.toStore normal = .ok found := by
  unfold Manifest.locate at hf ⊢
  rw [joinPath_eq h hd, joinPath_eq h hd] at hf
  split at hf
  · cases hf
  · split at hf
    · next hfile =>
      rw [if_pos hfile]
      exact hf
    · next hfile =>
      rw [if_neg hfile]
      split at hf
      · cases hf
      · split at hf
        · next hfile =>
          rw [if_pos hfile]
          exact hf
        · cases hf

/-- **A folder has the manifest of its normal form.** -/
theorem load_normal {m : Manifest.Loaded} (hl : Manifest.load files.toStore compiler folder = .ok m)
    (h : normalizePath folder = .ok normal) :
    Manifest.load files.toStore compiler normal = .ok { m with folder := normal } := by
  have hd := hasDrive_of_load hl h
  obtain ⟨found, hf, hl⟩ := bind_eq_ok_iff.mp hl
  obtain ⟨source, hs, hl⟩ := bind_eq_ok_iff.mp hl
  obtain ⟨text, ht, hl⟩ := bind_eq_ok_iff.mp hl
  obtain ⟨root, hr, hl⟩ := bind_eq_ok_iff.mp hl
  obtain rfl := Except.ok.inj hl
  have ht' : Manifest.compile files.toStore compiler normal found.1 source found.2 = .ok text := by
    rw [← ht]
    unfold Manifest.compile
    rw [imports_eq h hd]
  simp [Manifest.load, locate_eq_ok h hd hf, hs, ht', hr, bind, Except.bind, pure, Except.pure]

end MemoryFiles
end SvgSkeleton
