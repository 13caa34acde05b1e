import SvgSkeleton.Path

/-!
Walking a path in two stages. The segments of two paths with a slash between them are the segments
of the one and then those of the other, and a walk along both walks the first, then the second.
So joining an ordinary name to a folder adds that name to the folder's normal form.
-/

namespace SvgSkeleton.Path

theorem segments_ne_nil (s : List Char) : segments s ≠ [] := by
  cases s with
  | nil => simp [segments]
  | cons c r =>
    simp only [segments]
    split
    · simp
    · split <;> simp

theorem segments_append_slash (a b : List Char) :
    segments (a ++ '/' :: b) = segments a ++ segments b := by
  induction a with
  | nil => simp [segments]
  | cons c r ih =>
    simp only [List.cons_append, segments, ih]
    split
    · rfl
    · cases h : segments r with
      | nil => exact absurd h (segments_ne_nil r)
      | cons s ss => rfl

/-- A text without a slash is a single segment. -/
theorem segments_eq_singleton {s : List Char} (h : '/' ∉ s) : segments s = [s] := by
  induction s with
  | nil => rfl
  | cons c r ih =>
    have hc : c ≠ '/' := fun e => h (by simp [e])
    have hr : '/' ∉ r := fun e => h (by simp [e])
    simp [segments, hc, ih hr]

/-- The segments of a path contain no slash. -/
theorem not_mem_of_mem_segments {p s : List Char} (h : s ∈ segments p) : '/' ∉ s := by
  induction p generalizing s with
  | nil => simp_all [segments]
  | cons c r ih =>
    simp only [segments] at h
    split at h
    · rcases List.mem_cons.mp h with rfl | h
      · simp
      · exact ih h
    · next hc =>
      split at h
      · next hn => exact absurd hn (segments_ne_nil r)
      · next t ts hs =>
        rcases List.mem_cons.mp h with rfl | h
        · have := ih (s := t) (by simp [hs])
          simp [this, Ne.symm hc]
        · exact ih (by simp [hs, h])

theorem walk_append (place a b : List Segment) :
    walk place (a ++ b) = (walk place a).bind (walk · b) := by
  induction a generalizing place with
  | nil => rfl
  | cons s r ih =>
    simp only [List.cons_append, walk, ih]
    split
    · rfl
    · split
      · cases place <;> rfl
      · rfl

/-- A name that can denote a file or folder: not empty, not a dot or two, and without a slash. -/
structure Ordinary (s : Segment) : Prop where
  stays : staysHere s = false
  up : goesUp s = false
  slash : '/' ∉ s

theorem walk_ordinary {place names : List Segment} (h : ∀ s ∈ names, Ordinary s) :
    walk place names = some (names.reverse ++ place) := by
  induction names generalizing place with
  | nil => rfl
  | cons s r ih =>
    have hs := h s (by simp)
    simp [walk, hs.stays, hs.up, ih fun t ht => h t (by simp [ht])]

/-- Where a walk stays inside and its route has no slashes, it ends at ordinary names. -/
theorem ordinary_of_walk {place route end_ : List Segment} (hp : ∀ s ∈ place, Ordinary s)
    (hr : ∀ s ∈ route, '/' ∉ s) (h : walk place route = some end_) : ∀ s ∈ end_, Ordinary s := by
  induction route generalizing place with
  | nil =>
    obtain rfl := Option.some.inj h
    exact hp
  | cons s r ih =>
    simp only [walk] at h
    split at h
    · exact ih hp (fun t ht => hr t (by simp [ht])) h
    · next hs =>
      split at h
      · cases place with
        | nil => simp at h
        | cons t above =>
          exact ih (fun t ht => hp t (by simp [ht])) (fun t ht => hr t (by simp [ht])) h
      · next hu =>
        refine ih ?_ (fun t ht => hr t (by simp [ht])) h
        intro t ht
        rcases List.mem_cons.mp ht with rfl | ht
        · exact ⟨by simpa using hs, by simpa using hu, hr t (by simp)⟩
        · exact hp t ht

theorem ofSegments_append {a : List Segment} (ha : a ≠ []) (s : Segment) :
    ofSegments (a ++ [s]) = ofSegments a ++ '/' :: s := by
  induction a with
  | nil => exact absurd rfl ha
  | cons t r ih =>
    cases r with
    | nil => rfl
    | cons u r =>
      have := ih (by simp)
      simp only [List.cons_append] at this
      simp [ofSegments, this]

/-- The segments of names with slashes between them are the names. -/
theorem segments_ofSegments {names : List Segment} (hn : names ≠ [])
    (h : ∀ s ∈ names, '/' ∉ s) : segments (ofSegments names) = names := by
  induction names with
  | nil => exact absurd rfl hn
  | cons s r ih =>
    cases r with
    | nil => exact segments_eq_singleton (h s (by simp))
    | cons t r =>
      have hs : '/' ∉ s := h s (by simp)
      rw [ofSegments, segments_append_slash, segments_eq_singleton hs,
        ih (by simp) (fun u hu => h u (by simp [hu]))]
      · rfl
      · simp

theorem resolve_eq_ok {path : List Char} {names : List Segment} (h : resolve path = .ok names) :
    walk [] (segments path) = some names.reverse := by
  simp only [resolve] at h
  split at h
  · simp at h
  split at h
  · simp at h
  split at h
  · simp at h
  split at h
  · simp at h
  · next place hw =>
    obtain rfl := Except.ok.inj h
    simp [hw]

theorem ordinary_of_resolve {path : List Char} {names : List Segment}
    (h : resolve path = .ok names) : ∀ s ∈ names, Ordinary s := by
  intro s hs
  have hnil : ∀ s ∈ ([] : List Segment), Ordinary s := by simp
  exact ordinary_of_walk hnil (fun s hs => not_mem_of_mem_segments hs)
    (resolve_eq_ok h) s (by simpa using hs)

theorem normalize_eq_ok {path n : String} (h : normalize path = .ok n) :
    ∃ names, resolve path.toList = .ok names ∧ n = String.ofList (ofSegments names) := by
  simp only [normalize] at h
  split at h
  · simp at h
  · next names hr => exact ⟨names, hr, (Except.ok.inj h).symm⟩

/-- A path that walks ordinary names resolves to them, if it is not refused. -/
theorem resolve_ofSegments {names got : List Segment} (h : ∀ s ∈ names, Ordinary s)
    (hr : resolve (ofSegments names) = .ok got) : got = names := by
  have hw := resolve_eq_ok hr
  by_cases hn : names = []
  · subst hn
    have : walk [] (segments []) = some [] := by decide
    rw [ofSegments, this] at hw
    simpa using (Option.some.inj hw).symm
  · rw [segments_ofSegments hn fun s hs => (h s hs).slash, walk_ordinary h] at hw
    simpa using (Option.some.inj hw).symm

theorem resolve_slash {folder name : List Char} {names : List Segment} (hn : Ordinary name)
    (hf : resolve folder = .ok names) {got : List Segment}
    (h : resolve (folder ++ '/' :: name) = .ok got) : got = names ++ [name] := by
  have hw := resolve_eq_ok h
  rw [segments_append_slash, segments_eq_singleton hn.slash, walk_append, resolve_eq_ok hf] at hw
  have hs : walk names.reverse [name] = some (name :: names.reverse) := by
    simp [walk, hn.stays, hn.up]
  rw [Option.bind_some, hs] at hw
  have := congrArg List.reverse (Option.some.inj hw)
  simpa using this.symm

/-- Joining an ordinary name to a folder adds the name to the folder's normal form. -/
theorem join_name {folder name path : String} {names : List Segment}
    (hn : Ordinary name.toList) (hf : resolve folder.toList = .ok names)
    (h : join folder name = .ok path) :
    path = String.ofList (ofSegments (names ++ [name.toList])) := by
  simp only [join] at h
  split at h
  · simp at h
  split at h
  · next he =>
    obtain ⟨got, hr, rfl⟩ := normalize_eq_ok h
    have : folder = "" := String.isEmpty_iff.mp he
    subst this
    have : names = [] := by
      have : resolve "".toList = .ok [] := rfl
      rw [this] at hf
      exact (Except.ok.inj hf).symm
    subst this
    have hone : ∀ s ∈ [name.toList], Ordinary s := by simpa using hn
    have hr : resolve (ofSegments [name.toList]) = .ok got := by simpa [ofSegments] using hr
    rw [resolve_ofSegments hone hr]
    rfl
  · split at h
    · simp at h
    · next p hp =>
      obtain rfl := Except.ok.inj h
      obtain ⟨got, hr, rfl⟩ := normalize_eq_ok hp
      have : (folder ++ "/" ++ name).toList = folder.toList ++ '/' :: name.toList := by simp
      rw [this] at hr
      rw [resolve_slash hn hf hr]

theorem cutLast_append {sep : Char} {a b : List Char} (h : sep ∉ b) :
    cutLast sep (a ++ sep :: b) = some (a, b) := by
  have hb : ∀ c ∈ b.reverse, (c != sep) = true := by
    intro c hc
    simp only [bne_iff_ne]
    exact fun e => h (by simpa [e] using hc)
  have hd : (a ++ sep :: b).reverse.dropWhile (· != sep) = sep :: a.reverse := by
    rw [List.reverse_append, List.reverse_cons, List.append_assoc,
      List.dropWhile_append_of_pos hb]
    simp
  have ht : (a ++ sep :: b).reverse.takeWhile (· != sep) = b.reverse := by
    rw [List.reverse_append, List.reverse_cons, List.append_assoc,
      List.takeWhile_append_of_pos hb]
    simp
  rw [cutLast, hd, ht]
  simp

theorem cutLast_eq_none {sep : Char} {b : List Char} (h : sep ∉ b) : cutLast sep b = none := by
  have hb : ∀ c ∈ b.reverse, (c != sep) = true := by
    intro c hc
    simp only [bne_iff_ne]
    exact fun e => h (by simpa [e] using hc)
  have hd : b.reverse.dropWhile (· != sep) = [] := by
    rw [← List.append_nil b.reverse, List.dropWhile_append_of_pos hb, List.dropWhile_nil]
  simp [cutLast, hd]

/-- The folder of a name in a folder. -/
theorem parent_ofSegments {names : List Segment} {name : Segment} (hn : Ordinary name) :
    parent (String.ofList (ofSegments (names ++ [name]))) = String.ofList (ofSegments names) := by
  by_cases h : names = []
  · subst h
    simp [parent, ofSegments, cutLast_eq_none hn.slash]
  · rw [ofSegments_append h]
    simp [parent, cutLast_append hn.slash]

/-- The last segment of a name in a folder. -/
theorem fileName_ofSegments {names : List Segment} {name : Segment} (hn : Ordinary name) :
    fileName (ofSegments (names ++ [name])) = name := by
  by_cases h : names = []
  · subst h
    simp [fileName, ofSegments, cutLast_eq_none hn.slash]
  · rw [ofSegments_append h]
    simp [fileName, cutLast_append hn.slash]

end SvgSkeleton.Path
