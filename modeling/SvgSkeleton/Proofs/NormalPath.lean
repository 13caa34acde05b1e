import Mathlib.Data.List.Basic
import SvgSkeleton.Proofs.DiskPaths

/-!
Which paths are accepted, and what their normal forms are. A walk along the segments of a path is
given up where it would leave the root. It is as deep as the names so far exceed the steps up, so
it reaches the end if they fall short of them nowhere, and only names are left of it. A normal form
is its own normal form unless it begins with a drive: a path is refused for a drive that it begins
with itself, but a name that looks like one may come to the front where the segments before it go.
-/

namespace SvgSkeleton.Path

/-! ### Segments -/

lemma segments_eq_splitOn (path : List Char) : segments path = path.splitOn '/' := by
  induction path with
  | nil => rfl
  | cons c r ih =>
    rw [segments, List.splitOn, List.splitOnP_cons_eq_if_modifyHead, ← List.splitOn, ← ih]
    by_cases hc : c = '/'
    · simp [hc]
    · obtain ⟨s, ss, hs⟩ := List.exists_cons_of_ne_nil (segments_ne_nil r)
      simp [hc, hs]

lemma ofSegments_eq_intercalate (names : List Segment) :
    ofSegments names = ['/'].intercalate names := by
  induction names with
  | nil => rfl
  | cons s rest ih =>
    cases rest with
    | nil => rw [ofSegments, List.intercalate_singleton]
    | cons t rest =>
      rw [ofSegments, ih, List.intercalate_cons_cons, List.append_assoc, List.singleton_append]
      simp

/-! ### Walks from the root -/

/-- Is the segment the name of a file or folder? -/
def isOrdinary (s : Segment) : Bool := s ≠ [] && s ≠ ['.'] && s ≠ ['.', '.']

/-- One step along a segment, from the place with these names, innermost first. The root has
nothing above it. -/
def walkStep (place : List Segment) (s : Segment) : List Segment :=
  if isOrdinary s then s :: place else if s = ['.', '.'] then place.tail else place

/-- The names on the way to where a path leads from the root. -/
def route (path : String) : List Segment := ((path.toList.splitOn '/').foldl walkStep []).reverse

/-- From a place of this depth, no beginning of the segments leads above the root. -/
def StaysInside (depth : Nat) (ss : List Segment) : Prop :=
  ∀ begun, begun <+: ss → begun.count ['.', '.'] ≤ depth + begun.countP isOrdinary

lemma staysInside_nil (depth : Nat) : StaysInside depth [] := by
  intro begun h
  rw [List.prefix_nil.mp h]
  exact Nat.zero_le _

variable {depth : Nat} {s : Segment} {ss place end_ : List Segment}

lemma staysInside_cons_iff :
    StaysInside depth (s :: ss) ↔ ∀ begun, begun <+: ss →
      (s :: begun).count ['.', '.'] ≤ depth + (s :: begun).countP isOrdinary := by
  constructor
  · intro h begun hb
    exact h _ (List.cons_prefix_cons.mpr ⟨rfl, hb⟩)
  · intro h begun hb
    rcases List.prefix_cons_iff.mp hb with rfl | ⟨t, rfl, ht⟩
    · exact Nat.zero_le _
    · exact h t ht

lemma staysInside_stay (h : staysHere s = true) :
    StaysInside depth (s :: ss) ↔ StaysInside depth ss := by
  have hs : s = [] ∨ s = ['.'] := by simpa [staysHere] using h
  rw [staysInside_cons_iff]
  rcases hs with rfl | rfl <;> rfl

lemma staysInside_ordinary (h : isOrdinary s = true) :
    StaysInside depth (s :: ss) ↔ StaysInside (depth + 1) ss := by
  have hs : s ≠ ['.', '.'] := by
    rintro rfl
    cases h
  rw [staysInside_cons_iff]
  simp only [List.count_cons_of_ne hs, List.countP_cons_of_pos h, StaysInside, Nat.add_assoc,
    Nat.add_comm 1]

lemma staysInside_up :
    StaysInside depth (['.', '.'] :: ss) ↔ 0 < depth ∧ StaysInside (depth - 1) ss := by
  have hp : isOrdinary ['.', '.'] = false := rfl
  rw [staysInside_cons_iff]
  simp only [List.count_cons_self, List.countP_cons_of_neg (Bool.eq_false_iff.mp hp)]
  constructor
  · intro h
    have h0 := h [] List.nil_prefix
    simp only [List.count_nil, List.countP_nil] at h0
    refine ⟨by omega, fun begun hb => ?_⟩
    have := h begun hb
    omega
  · rintro ⟨hd, h⟩ begun hb
    have := h begun hb
    omega

/-- A walk reaches the end exactly if it stays inside, and then ends where its steps lead. -/
theorem walk_eq_some_iff :
    walk place ss = some end_ ↔ StaysInside place.length ss ∧ end_ = ss.foldl walkStep place := by
  induction ss generalizing place with
  | nil =>
    rw [walk, Option.some.injEq, and_iff_right (staysInside_nil _)]
    exact eq_comm
  | cons s ss ih =>
    simp only [walk, List.foldl_cons]
    by_cases hstay : staysHere s = true
    · have hstep : walkStep place s = place := by
        have hs : s = [] ∨ s = ['.'] := by simpa [staysHere] using hstay
        rcases hs with rfl | rfl <;> rfl
      rw [if_pos hstay, ih, staysInside_stay hstay, hstep]
    by_cases hup : goesUp s = true
    · obtain rfl : s = ['.', '.'] := by simpa [goesUp] using hup
      rw [if_neg hstay, if_pos hup, staysInside_up]
      cases place with
      | nil => simp
      | cons t above =>
        rw [ih]
        simp [walkStep, isOrdinary]
    · have hord : isOrdinary s = true := by
        simp only [staysHere, goesUp, Bool.or_eq_true, beq_iff_eq, not_or] at hstay hup
        simp [isOrdinary, hstay.1, hstay.2, hup]
      rw [if_neg hstay, if_neg hup, ih, staysInside_ordinary hord, walkStep, if_pos hord]
      rfl

/-! ### What is accepted -/

/-- The path is relative, has slashes only between its segments, and leads nowhere above the
root. -/
structure Inside (path : String) : Prop where
  slash : path.toList.head? ≠ some '/'
  drive : ∀ c r, path.toList = c :: ':' :: r → c.isAlpha = false
  backslash : '\\' ∉ path.toList
  stays : StaysInside 0 (path.toList.splitOn '/')

lemma startsWithSlash_eq_false_iff {path : List Char} :
    startsWithSlash path = false ↔ path.head? ≠ some '/' := by
  cases path with
  | nil => simp [startsWithSlash]
  | cons c r =>
    by_cases hc : c = '/'
    · simp [startsWithSlash, hc]
    · simp [startsWithSlash, hc]

lemma hasDrive_eq_false_iff {path : List Char} :
    hasDrive path = false ↔ ∀ c r, path = c :: ':' :: r → c.isAlpha = false := by
  unfold hasDrive
  split
  · next c r =>
    constructor
    · rintro h c' r' he
      obtain ⟨rfl, -⟩ := List.cons.inj he
      exact h
    · exact fun h => h c r rfl
  · next hn => exact iff_of_true rfl fun c r he => absurd he (hn c r)

lemma resolve_eq_ok_iff {path : List Char} {names : List Segment} :
    resolve path = .ok names ↔ startsWithSlash path = false ∧ path.contains '\\' = false ∧
      hasDrive path = false ∧ walk [] (segments path) = some names.reverse := by
  constructor
  · intro h
    obtain ⟨hs, hb, hd⟩ := plain_of_resolve h
    exact ⟨hs, hb, hd, resolve_eq_ok h⟩
  · rintro ⟨hs, hb, hd, hw⟩
    rw [resolve, hs, hb, hd, hw]
    simp

lemma normalize_eq_ok_iff {path normal : String} :
    normalize path = .ok normal ↔ Inside path ∧ normal = ofNames (route path) := by
  have hb : path.toList.contains '\\' = false ↔ '\\' ∉ path.toList := by
    rw [← Bool.not_eq_true, List.contains_iff_mem]
  constructor
  · intro h
    obtain ⟨names, hr, rfl⟩ := normalize_eq_ok h
    obtain ⟨hslash, hback, hdrive, hw⟩ := resolve_eq_ok_iff.mp hr
    rw [segments_eq_splitOn, walk_eq_some_iff] at hw
    refine ⟨⟨startsWithSlash_eq_false_iff.mp hslash, hasDrive_eq_false_iff.mp hdrive, hb.mp hback,
      hw.1⟩, ?_⟩
    rw [route, ← hw.2, List.reverse_reverse]
    rfl
  · rintro ⟨hi, rfl⟩
    refine normalize_of_resolve (resolve_eq_ok_iff.mpr ⟨startsWithSlash_eq_false_iff.mpr hi.slash,
      hb.mpr hi.backslash, hasDrive_eq_false_iff.mpr hi.drive, ?_⟩)
    rw [segments_eq_splitOn, walk_eq_some_iff, route, List.reverse_reverse]
    exact ⟨hi.stays, rfl⟩

/-- The names on an accepted way are names, and have no slash in them. -/
lemma isOrdinary_of_mem_route {path : String} (h : Inside path) :
    ∀ name ∈ route path, isOrdinary name = true ∧ '/' ∉ name := by
  obtain ⟨names, hr, he⟩ := normalize_eq_ok (normalize_eq_ok_iff.mpr ⟨h, rfl⟩)
  have hw := resolve_eq_ok hr
  rw [segments_eq_splitOn, walk_eq_some_iff] at hw
  rw [route, ← hw.2, List.reverse_reverse]
  intro name hn
  obtain ⟨hstay, hup, hslash⟩ := ordinary_of_resolve hr name hn
  simp only [staysHere, goesUp, Bool.or_eq_false_iff, beq_eq_false_iff_ne] at hstay hup
  exact ⟨by simp [isOrdinary, hstay.1, hstay.2, hup], hslash⟩

lemma isOrdinary_or_nil_of_mem_splitOn {names : List Segment} {s : Segment}
    (h : ∀ name ∈ names, isOrdinary name = true ∧ '/' ∉ name)
    (hs : s ∈ (['/'].intercalate names).splitOn '/') : isOrdinary s = true ∨ s = [] := by
  by_cases hn : names = []
  · subst hn
    exact .inr (List.mem_singleton.mp hs)
  · rw [List.splitOn_intercalate '/' (fun name hm => (h name hm).2) hn] at hs
    exact .inl (h s hs).1

/-- **A path is accepted exactly if it is relative and leads nowhere above the root**, and its
normal form consists of the names on the way from the root to where it leads. -/
theorem normalize_stays_inside (path : String) :
    ((∃ normal, normalize path = .ok normal) ↔ Inside path) ∧
      ∀ normal, normalize path = .ok normal →
        normal = String.ofList (['/'].intercalate (route path)) ∧
          (∀ name ∈ route path, isOrdinary name = true) ∧
          ∀ s ∈ normal.toList.splitOn '/', s ≠ ['.', '.'] := by
  constructor
  · exact ⟨fun ⟨_, h⟩ => (normalize_eq_ok_iff.mp h).1,
      fun h => ⟨_, normalize_eq_ok_iff.mpr ⟨h, rfl⟩⟩⟩
  · intro normal h
    obtain ⟨hi, rfl⟩ := normalize_eq_ok_iff.mp h
    have hnames := isOrdinary_of_mem_route hi
    rw [ofNames, ofSegments_eq_intercalate, String.toList_ofList]
    refine ⟨rfl, fun name hn => (hnames name hn).1, ?_⟩
    rintro s hs rfl
    rcases isOrdinary_or_nil_of_mem_splitOn hnames hs with h | h <;> cases h

/-! ### Normal forms of normal forms -/

/-- **A normal form is its own normal form, exactly if it does not begin with a drive**; otherwise
it is refused as absolute. -/
theorem normalize_normal {path normal : String} (h : normalize path = .ok normal) :
    normalize normal =
      if hasDrive normal.toList then .error ⟨normal, .absolute⟩ else .ok normal := by
  obtain ⟨names, hr, rfl⟩ := normalize_eq_ok h
  split
  · next hd =>
    rw [String.toList_ofList] at hd
    rw [normalize, String.toList_ofList, resolve_ofSegments_of_hasDrive hr hd]
  · next hd =>
    rw [String.toList_ofList, Bool.not_eq_true] at hd
    refine normalize_of_resolve ?_
    rw [String.toList_ofList]
    exact resolve_ofSegments_eq hr hd

theorem normalize_detour :
    normalize "a/./b//../c" = .ok "a/c" ∧ normalize "a/c" = .ok "a/c" := by
  have h : normalize "a/./b//../c" = .ok "a/c" := by rfl
  exact ⟨h, (normalize_normal h).trans (if_neg (by decide))⟩

/-- A dot in front hides a name that looks like a drive. -/
theorem normalize_hiddenDrive :
    normalize "./c:" = .ok "c:" ∧ normalize "c:" = .error ⟨"c:", .absolute⟩ :=
  ⟨by rfl, by rfl⟩

end SvgSkeleton.Path
