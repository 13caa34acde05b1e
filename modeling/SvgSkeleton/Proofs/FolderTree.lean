import SvgSkeleton.FileTree.Lemmas
import SvgSkeleton.Proofs.Lookup

/-!
What stands where in a tree of files. The lists of its files and folders are complete, and a walk
down along names that meets no link leads to the place of these names or is stopped on the way.
-/

namespace SvgSkeleton.FileTree

variable {t x : FileTree} {name : FileName} {place names : Place}

/-! ### Places -/

@[simp] lemma at?_nil (t : FileTree) : t.at? [] = some t := rfl

@[simp] lemma at?_cons (t : FileTree) (name : FileName) (place : Place) :
    t.at? (name :: place) = (t.child? name).bind (·.at? place) := rfl

lemma at?_append (t : FileTree) (a b : Place) : t.at? (a ++ b) = (t.at? a).bind (·.at? b) := by
  simp only [at?, List.foldlM_append]
  rfl

lemma child?_eq_some_iff :
    t.child? name = some x ↔ ∃ entries, t = .folder entries ∧ entries.lookup name = some x := by
  cases t <;> simp [child?]

/-- What stands above something is no link. -/
lemma ne_link_of_at? (h : t.at? (name :: place) = some x) (target : List UInt8) :
    t ≠ .link target := by
  rintro rfl
  cases h

/-- What holds of a tree and passes from folders to their entries holds of all that stands in it. -/
lemma of_at? {P : FileTree → Prop}
    (hP : ∀ {entries name u}, P (.folder entries) → (name, u) ∈ entries → P u) (h : P t)
    (hx : t.at? place = some x) : P x := by
  induction place generalizing t with
  | nil =>
    obtain rfl := Option.some.inj hx
    exact h
  | cons name place ih =>
    rw [at?_cons, Option.bind_eq_some_iff] at hx
    obtain ⟨u, hu, hx⟩ := hx
    obtain ⟨entries, rfl, hl⟩ := child?_eq_some_iff.mp hu
    obtain ⟨before, after, rfl, -⟩ := List.lookup_eq_some_iff.mp hl
    exact ih (hP h (List.mem_append_right _ List.mem_cons_self)) hx

/-! ### The list of all files -/

mutual

/-- In no folder of the tree there are two entries with one name. -/
def Distinct : FileTree → Prop
  | .file _ => True
  | .special _ => True
  | .link _ => True
  | .folder entries => (entries.map (·.1)).Nodup ∧ DistinctOf entries

def DistinctOf : List (FileName × FileTree) → Prop
  | [] => True
  | (_, t) :: rest => Distinct t ∧ DistinctOf rest

end

mutual

instance decidableDistinct : ∀ t : FileTree, Decidable t.Distinct
  | .file _ => .isTrue trivial
  | .special _ => .isTrue trivial
  | .link _ => .isTrue trivial
  | .folder entries =>
    have := decidableDistinctOf entries
    inferInstanceAs (Decidable (_ ∧ _))

instance decidableDistinctOf : ∀ entries, Decidable (DistinctOf entries)
  | [] => .isTrue trivial
  | (_, t) :: rest =>
    have := decidableDistinct t
    have := decidableDistinctOf rest
    inferInstanceAs (Decidable (_ ∧ _))

end

lemma distinct_of_mem {entries : List (FileName × FileTree)} (h : DistinctOf entries)
    (hm : (name, t) ∈ entries) : t.Distinct := by
  induction entries with
  | nil => cases hm
  | cons e entries ih =>
    rcases List.mem_cons.mp hm with rfl | hm
    · exact h.1
    · exact ih h.2 hm

/-- What stands in a tree without two entries of one name is such a tree. -/
lemma distinct_of_at? (h : t.Distinct) (hx : t.at? place = some x) : x.Distinct :=
  of_at? (P := Distinct) (fun h hm => distinct_of_mem h.2 hm) h hx

lemma distinct_of_child? (h : t.Distinct) (hx : t.child? name = some x) : x.Distinct :=
  distinct_of_at? h (show t.at? [name] = some x by rw [at?_cons, hx]; rfl)

lemma filesOf_eq_flatMap (entries : List (FileName × FileTree)) :
    filesOf entries = entries.flatMap fun e => e.2.files.map (e.1 :: ·) := by
  induction entries with
  | nil => rfl
  | cons e entries ih => rw [filesOf, ih, List.flatMap_cons]

lemma foldersOf_eq_flatMap (entries : List (FileName × FileTree)) :
    foldersOf entries = entries.flatMap fun e => e.2.folders.map (e.1 :: ·) := by
  induction entries with
  | nil => rfl
  | cons e entries ih => rw [foldersOf, ih, List.flatMap_cons]

/-- A file below a name stands in what is there under this name. -/
lemma cons_mem_files_iff (h : t.Distinct) :
    name :: place ∈ t.files ↔ ∃ u, t.child? name = some u ∧ place ∈ u.files := by
  cases t with
  | folder entries => simp [files, filesOf_eq_flatMap, child?, lookup_eq_some_iff_mem h.1]
  | _ => simp [files, child?]

lemma cons_mem_folders_iff (h : t.Distinct) :
    name :: place ∈ t.folders ↔ ∃ u, t.child? name = some u ∧ place ∈ u.folders := by
  cases t with
  | folder entries => simp [folders, foldersOf_eq_flatMap, child?, lookup_eq_some_iff_mem h.1]
  | _ => simp [folders, child?]

/-- **The files of a tree are at the places where files stand.** -/
theorem mem_files_iff (h : t.Distinct) :
    place ∈ t.files ↔ ∃ content, t.at? place = some (.file content) := by
  induction place generalizing t with
  | nil => cases t <;> simp [files, filesOf_eq_flatMap]
  | cons name place ih =>
    simp only [cons_mem_files_iff h, at?_cons, Option.bind_eq_some_iff]
    constructor
    · rintro ⟨u, hu, hp⟩
      obtain ⟨content, hc⟩ := (ih (distinct_of_child? h hu)).mp hp
      exact ⟨content, u, hu, hc⟩
    · rintro ⟨content, u, hu, hc⟩
      exact ⟨u, hu, (ih (distinct_of_child? h hu)).mpr ⟨content, hc⟩⟩

/-- **Its folders are at the places where folders stand.** -/
theorem mem_folders_iff (h : t.Distinct) :
    place ∈ t.folders ↔ ∃ entries, t.at? place = some (.folder entries) := by
  induction place generalizing t with
  | nil => cases t <;> simp [folders]
  | cons name place ih =>
    simp only [cons_mem_folders_iff h, at?_cons, Option.bind_eq_some_iff]
    constructor
    · rintro ⟨u, hu, hp⟩
      obtain ⟨entries, he⟩ := (ih (distinct_of_child? h hu)).mp hp
      exact ⟨entries, u, hu, he⟩
    · rintro ⟨entries, u, hu, he⟩
      exact ⟨u, hu, (ih (distinct_of_child? h hu)).mpr ⟨entries, he⟩⟩

mutual

/-- No file of a tree is listed twice. -/
lemma nodup_files : ∀ {t : FileTree}, t.Distinct → t.files.Nodup
  | .file _, _ => List.nodup_singleton _
  | .special _, _ => List.nodup_nil
  | .link _, _ => List.nodup_nil
  | .folder entries, h => by
    rw [files, filesOf_eq_flatMap, List.nodup_flatMap]
    refine ⟨fun e he => (nodup_files_of_mem h.2 he).map List.cons_injective, ?_⟩
    refine (List.pairwise_map.mp h.1).imp fun hne place hp hq => ?_
    obtain ⟨a, -, rfl⟩ := List.mem_map.mp hp
    obtain ⟨b, -, hb⟩ := List.mem_map.mp hq
    exact hne (List.cons.inj hb).1.symm

lemma nodup_files_of_mem : ∀ {entries : List (FileName × FileTree)}, DistinctOf entries →
    ∀ {name : FileName} {t : FileTree}, (name, t) ∈ entries → t.files.Nodup
  | (_, u) :: rest, h, name, t, he => by
    rcases List.mem_cons.mp he with he | he
    · obtain ⟨-, rfl⟩ := Prod.mk.inj he
      exact nodup_files h.1
    · exact nodup_files_of_mem h.2 he

end

/-! ### Trees without links -/

mutual

/-- There are only files and folders in the tree. -/
def Plain : FileTree → Prop
  | .file _ => True
  | .special _ => False
  | .link _ => False
  | .folder entries => PlainOf entries

def PlainOf : List (FileName × FileTree) → Prop
  | [] => True
  | (_, t) :: rest => Plain t ∧ PlainOf rest

end

/-- What stands in the entries of a folder without others is such a tree. -/
lemma plain_of_mem {entries : List (FileName × FileTree)} (h : PlainOf entries)
    (hm : (name, t) ∈ entries) : t.Plain := by
  induction entries with
  | nil => cases hm
  | cons e entries ih =>
    rcases List.mem_cons.mp hm with rfl | hm
    · exact h.1
    · exact ih h.2 hm

/-- What stands in such a tree is such a tree. -/
lemma plain_of_at? (h : t.Plain) (hx : t.at? place = some x) : x.Plain :=
  of_at? (P := Plain) (fun h hm => plain_of_mem h hm) h hx

/-- In such a tree, the files and folders are all that stands somewhere. -/
lemma mem_files_or_folders (hd : t.Distinct) (hp : t.Plain) :
    place ∈ t.files ++ t.folders ↔ ∃ x, t.at? place = some x := by
  rw [List.mem_append, mem_files_iff hd, mem_folders_iff hd]
  constructor
  · rintro (⟨content, hx⟩ | ⟨entries, hx⟩)
    · exact ⟨_, hx⟩
    · exact ⟨_, hx⟩
  · rintro ⟨x, hx⟩
    have hplain := plain_of_at? hp hx
    cases x with
    | file content => exact .inl ⟨content, hx⟩
    | folder entries => exact .inr ⟨entries, hx⟩
    | special kind => exact hplain.elim
    | link target => exact hplain.elim

/-! ### Walks down -/

/-- On the way down from a place along names there is no link. -/
def NoLink (t : FileTree) (place names : Place) : Prop :=
  ∀ way, way <+: names → ∀ target, t.at? (place ++ way) ≠ some (.link target)

lemma NoLink.tail (h : NoLink t place (name :: names)) : NoLink t (place ++ [name]) names := by
  intro way hw target
  rw [List.append_assoc]
  exact h (name :: way) (List.cons_prefix_cons.mpr ⟨rfl, hw⟩) target

/-- What stands below a place and is no link has no link above it. -/
lemma noLink_of_at? {u : FileTree} (hp : t.at? place = some u) (hx : u.at? names = some x)
    (hl : ∀ target, x ≠ .link target) : t.NoLink place names := by
  rintro way ⟨rest, rfl⟩ target hw
  rw [at?_append, hp, Option.bind_some] at hw
  rw [at?_append, hw, Option.bind_some] at hx
  cases rest with
  | nil => exact hl target (Option.some.inj hx).symm
  | cons name rest => exact ne_link_of_at? hx target rfl

/-- Where there is no link on the way, a walk down along names gets to their place or fails. -/
lemma descend_down (bound : Option Nat) {inner : List FileName}
    (hn : NoLink t inner.reverse names) :
    t.descend bound inner (names.map .down) = .arrived (names.reverse ++ inner) ∨
      ∃ reason, t.descend bound inner (names.map .down) = .failed reason := by
  induction names generalizing inner with
  | nil => exact .inl rfl
  | cons name rest ih =>
    simp only [List.map_cons, descend]
    split
    · exact .inr ⟨_, rfl⟩
    · split
      · next entries he =>
        split
        · exact .inr ⟨_, rfl⟩
        · split
          · exact .inr ⟨_, rfl⟩
          · next target hl =>
            refine absurd ?_ (hn [name] ⟨rest, rfl⟩ target)
            simp [at?_append, he, child?, hl]
          · have hin : NoLink t (name :: inner).reverse rest := by simpa using hn.tail
            simpa using ih hin
      · exact .inr ⟨_, rfl⟩

/-- So a walk that may follow links gets to the same place, if to any. -/
lemma walk_down {bound : Option Nat} {links left : Nat} {inner got : List FileName}
    (hn : NoLink t inner.reverse names)
    (h : t.walk bound links inner (names.map .down) = .ok (got, left)) :
    got = names.reverse ++ inner := by
  rw [walk.eq_def] at h
  rcases descend_down bound hn with hd | ⟨reason, hd⟩
  · rw [hd] at h
    exact (Prod.mk.inj (Except.ok.inj h)).1.symm
  · rw [hd] at h
    cases h

/-- What is shorter than the bound, if there is one, is not too long for it. -/
lemma any_le_eq_false {bound : Option Nat} {k : Nat} (h : ∀ n ∈ bound, k < n) :
    bound.any (· ≤ k) = false := by
  cases bound with
  | none => rfl
  | some n => exact decide_eq_false (Nat.not_le.mpr (h n rfl))

/-- What stands below a place is gone down to, if its path and the names on the way are not too
long. -/
lemma descend_to {bound : Option Nat} {inner : List FileName} {u : FileTree}
    (hp : t.at? inner.reverse = some u) (hx : u.at? names = some x)
    (hl : ∀ target, x ≠ .link target) (hs : ∀ name ∈ names, name.length ≤ nameLimit)
    (hb : ∀ n ∈ bound, pathLength (names.reverse ++ inner) < n) :
    t.descend bound inner (names.map .down) = .arrived (names.reverse ++ inner) := by
  induction names generalizing inner u with
  | nil => rfl
  | cons name rest ih =>
    rw [at?_cons, Option.bind_eq_some_iff] at hx
    obtain ⟨v, hv, hx⟩ := hx
    obtain ⟨entries, rfl, hlook⟩ := child?_eq_some_iff.mp hv
    have hv : ∀ target, v ≠ .link target := by
      cases rest with
      | nil =>
        obtain rfl := Option.some.inj hx
        exact hl
      | cons next rest => exact ne_link_of_at? hx
    have hbound : bound.any (· ≤ Step.pathLength inner (.down name)) = false := by
      refine any_le_eq_false fun n hn => ?_
      have := hb n hn
      simp only [List.reverse_cons, pathLength_append, pathLength] at this
      simp only [Step.pathLength]
      omega
    have hnext : t.at? (name :: inner).reverse = some v := by
      simp [at?_append, hp, child?, hlook]
    have hin := ih hnext hx
      (fun next hn => hs next (List.mem_cons_of_mem _ hn)) (by simpa using hb)
    simp only [List.map_cons, descend, hbound, hp, Bool.false_eq_true, if_false,
      show ¬ name.length > nameLimit from Nat.not_lt.mpr (hs name List.mem_cons_self), hlook]
    cases v with
    | link target => exact absurd rfl (hv target)
    | _ => simpa using hin

lemma walk_to {bound : Option Nat} {inner : List FileName} {u : FileTree}
    (hp : t.at? inner.reverse = some u) (hx : u.at? names = some x)
    (hl : ∀ target, x ≠ .link target) (hs : ∀ name ∈ names, name.length ≤ nameLimit)
    (hb : ∀ n ∈ bound, pathLength (names.reverse ++ inner) < n) (links : Nat) :
    t.walk bound links inner (names.map .down) = .ok (names.reverse ++ inner, links) := by
  rw [walk.eq_def, descend_to hp hx hl hs hb]

/-- What stops a walk down at a place on the way to a name. -/
inductive Stops (t : FileTree) (place : Place) (name : FileName) : OsError → Prop
  | notFolder {x : FileTree} (hx : t.at? place = some x) (hf : ∀ entries, x ≠ .folder entries) :
      Stops t place name .notFolder
  | nameTooLong {entries : List (FileName × FileTree)} (hx : t.at? place = some (.folder entries))
      (hn : nameLimit < name.length) : Stops t place name .nameTooLong
  | noEntry {entries : List (FileName × FileTree)} (hx : t.at? place = some (.folder entries))
      (hn : name.length ≤ nameLimit) (hl : entries.lookup name = none) : Stops t place name .noEntry

lemma Stops.exists_at? {reason : OsError} (h : t.Stops place name reason) :
    ∃ x, t.at? place = some x := by
  cases h with
  | notFolder hx => exact ⟨_, hx⟩
  | nameTooLong hx => exact ⟨_, hx⟩
  | noEntry hx => exact ⟨_, hx⟩

lemma descend_of_stops {reason : OsError} {inner : List FileName}
    (h : t.Stops inner.reverse name reason) (route : List Step) :
    t.descend none inner (.down name :: route) = .failed reason := by
  simp only [descend, Option.any_none, Bool.false_eq_true, if_false]
  cases h with
  | notFolder hx hf =>
    rw [hx]
    split
    · next entries he => exact absurd (Option.some.inj he) (hf entries)
    · rfl
  | nameTooLong hx hn => simp only [hx, if_pos hn]
  | noEntry hx hn hl => simp only [hx, if_neg (Nat.not_lt.mpr hn), hl]

lemma descend_into {entries : List (FileName × FileTree)} {u : FileTree} {inner : List FileName}
    (hp : t.at? inner.reverse = some (.folder entries)) (hn : name.length ≤ nameLimit)
    (hl : entries.lookup name = some u) (hu : ∀ target, u ≠ .link target) (route : List Step) :
    t.descend none inner (.down name :: route) = t.descend none (name :: inner) route := by
  simp only [descend, Option.any_none, Bool.false_eq_true, if_false, hp,
    if_neg (Nat.not_lt.mpr hn), hl]

/-- A walk down that meets no link gets to something, or is stopped on its way. -/
lemma descend_cases {inner : List FileName} {u : FileTree} (hp : t.at? inner.reverse = some u)
    (hn : t.NoLink inner.reverse names) :
    (t.descend none inner (names.map .down) = .arrived (names.reverse ++ inner) ∧
        ∃ x, t.at? (inner.reverse ++ names) = some x) ∨
      ∃ way name rest reason, names = way ++ name :: rest ∧
        t.Stops (inner.reverse ++ way) name reason ∧
        t.descend none inner (names.map .down) = .failed reason := by
  induction names generalizing inner u with
  | nil => exact .inl ⟨rfl, u, by rwa [List.append_nil]⟩
  | cons name rest ih =>
    have stopped : ∀ {reason}, t.Stops inner.reverse name reason →
        ∃ way last after reason, name :: rest = way ++ last :: after ∧
          t.Stops (inner.reverse ++ way) last reason ∧
          t.descend none inner ((name :: rest).map .down) = .failed reason := fun hs =>
      ⟨[], name, rest, _, rfl, by rwa [List.append_nil], descend_of_stops hs _⟩
    by_cases hf : ∃ entries, u = .folder entries
    · obtain ⟨entries, rfl⟩ := hf
      by_cases hlong : name.length ≤ nameLimit
      · cases hl : entries.lookup name with
        | none => exact .inr (stopped (.noEntry hp hlong hl))
        | some v =>
          have hv : t.at? (name :: inner).reverse = some v := by
            simp [at?_append, hp, child?, hl]
          have hlink : ∀ target, v ≠ .link target := by
            rintro target rfl
            exact hn [name] ⟨rest, rfl⟩ target (by simpa using hv)
          rw [List.map_cons, descend_into hp hlong hl hlink]
          rcases ih hv (by simpa using hn.tail) with
            ⟨ha, hx⟩ | ⟨way, last, after, reason, rfl, hs, hd⟩
          · exact .inl ⟨by simpa using ha, by simpa using hx⟩
          · exact .inr ⟨name :: way, last, after, reason, rfl, by simpa using hs, hd⟩
      · exact .inr (stopped (.nameTooLong hp (Nat.not_le.mp hlong)))
    · exact .inr (stopped (.notFolder hp fun entries he => hf ⟨entries, he⟩))

/-- So a walk that may follow links gets there or is stopped there. -/
lemma walk_cases {links : Nat} {u : FileTree} (hp : t.at? place = some u)
    (hn : t.NoLink place names) :
    (∃ x, t.at? (place ++ names) = some x) ∨
      ∃ way name rest reason, names = way ++ name :: rest ∧ t.Stops (place ++ way) name reason ∧
        t.walk none links place.reverse (names.map .down) = .error reason := by
  rw [← List.reverse_reverse place] at hp hn
  rcases descend_cases hp hn with ⟨-, hx⟩ | ⟨way, name, rest, reason, he, hs, hd⟩
  · rw [List.reverse_reverse] at hx
    exact .inl hx
  · rw [List.reverse_reverse] at hs
    exact .inr ⟨way, name, rest, reason, he, hs, by rw [walk.eq_def, hd]⟩

/-- A walk along names to a place where it is stopped fails there. -/
lemma walk_of_stops {links : Nat} {u : FileTree} {way rest : Place} {reason : OsError}
    (hp : t.at? place = some u) (hn : t.NoLink place way)
    (hs : ∀ s ∈ way, s.length ≤ nameLimit) (h : t.Stops (place ++ way) name reason) :
    t.walk none links place.reverse ((way ++ name :: rest).map .down) = .error reason := by
  obtain ⟨x, hx⟩ := h.exists_at?
  have hlink : ∀ target, x ≠ .link target := by
    rintro target rfl
    exact hn way List.prefix_rfl target hx
  rw [at?_append, hp, Option.bind_some] at hx
  rw [← List.reverse_reverse place] at hp
  have hd := descend_to hp hx hlink hs (show ∀ n ∈ none, _ from fun n hn => nomatch hn)
  have hstop : t.Stops (way.reverse ++ place.reverse).reverse name reason := by
    rwa [List.reverse_append, List.reverse_reverse, List.reverse_reverse]
  rw [walk.eq_def, List.map_append, descend_append, hd, List.map_cons]
  simp only [Stop.andThen, descend_of_stops hstop]

/-! ### Bounds on the lengths of paths -/

section

variable {bound other : Option Nat} {links : Nat} {inner : List FileName} {route : List Step}

/-- Every path in the tree keeps the bound, even with a slash behind it. -/
def Fits (t : FileTree) (bound : Option Nat) : Prop :=
  ∀ n ∈ bound, ∀ place x, t.at? place = some x → pathLength place + 1 < n

lemma fits_none (t : FileTree) : t.Fits none := by
  rintro n ⟨⟩

/-- A stop that is not a failure is the same under a bound that the tree keeps. -/
lemma descend_eq_of_fits (hfit : t.Fits bound)
    (h : ∀ reason, t.descend other inner route ≠ .failed reason) :
    t.descend bound inner route = t.descend other inner route := by
  induction route generalizing inner with
  | nil => rfl
  | cons s rest ih =>
    simp only [descend] at h ⊢
    split at h
    · exact absurd rfl (h _)
    · next hother =>
      rw [if_neg hother]
      split at h
      · next entries hf =>
        have hhere : bound.any (· ≤ pathLength inner + 1) = false := any_le_eq_false fun n hn => by
          simpa only [pathLength_reverse] using hfit n hn _ _ hf
        cases s with
        | stay =>
          rw [show Step.pathLength inner .stay = pathLength inner + 1 from rfl, hhere]
          exact ih h
        | up =>
          rw [show Step.pathLength inner .up = pathLength inner + 1 from rfl, hhere]
          exact ih h
        | down name =>
          simp only [] at h ⊢
          split at h
          · exact absurd rfl (h _)
          · next hname =>
            cases hl : entries.lookup name with
            | none =>
              rw [hl] at h
              exact absurd rfl (h _)
            | some u =>
              have hthere : bound.any (· ≤ Step.pathLength inner (.down name)) = false := by
                refine any_le_eq_false fun n hn => ?_
                have hx : t.at? (name :: inner).reverse = some u := by
                  simp [at?_append, hf, child?, hl]
                have := hfit n hn _ _ hx
                rw [pathLength_reverse, pathLength] at this
                rw [Step.pathLength]
                omega
              rw [hl] at h
              simp only [hthere, Bool.false_eq_true, if_false, if_neg hname]
              cases u with
              | link target => rfl
              | _ => exact ih h
      · exact absurd rfl (h _)

/-- What a walk gets to under some bound it gets to under one that the tree keeps. -/
lemma walk_of_fits {r : List FileName × Nat} (hfit : t.Fits bound)
    (h : t.walk other links inner route = .ok r) : t.walk bound links inner route = .ok r := by
  induction links generalizing inner route with
  | zero =>
    rw [walk] at h ⊢
    rw [descend_eq_of_fits hfit (by rintro reason hd; rw [hd] at h; cases h)]
    exact h
  | succ links ih =>
    rw [walk] at h ⊢
    rw [descend_eq_of_fits hfit (by rintro reason hd; rw [hd] at h; cases h)]
    cases hd : t.descend other inner route with
    | arrived place =>
      rw [hd] at h
      exact h
    | failed reason =>
      rw [hd] at h
      cases h
    | atLink place target rest =>
      rw [hd] at h
      exact ih h

mutual

/-- The length of the longest path in a tree. -/
def longest : FileTree → Nat
  | .file _ => 0
  | .special _ => 0
  | .link _ => 0
  | .folder entries => longestOf entries

def longestOf : List (FileName × FileTree) → Nat
  | [] => 0
  | (name, t) :: rest => max (1 + name.length + longest t) (longestOf rest)

end

lemma le_longestOf {entries : List (FileName × FileTree)} (h : entries.lookup name = some x) :
    1 + name.length + x.longest ≤ longestOf entries := by
  obtain ⟨before, after, rfl, -⟩ := List.lookup_eq_some_iff.mp h
  clear h
  induction before with
  | nil => exact Nat.le_max_left ..
  | cons e before ih => exact Nat.le_trans ih (Nat.le_max_right ..)

lemma pathLength_le_longest (h : t.at? place = some x) : pathLength place ≤ t.longest := by
  induction place generalizing t with
  | nil => exact Nat.zero_le _
  | cons name place ih =>
    rw [at?_cons, Option.bind_eq_some_iff] at h
    obtain ⟨u, hu, h⟩ := h
    obtain ⟨entries, rfl, hl⟩ := child?_eq_some_iff.mp hu
    have := le_longestOf hl
    have := ih h
    simp only [pathLength, longest]
    omega

lemma fits_of_longest {n : Nat} (h : t.longest + 1 < n) : t.Fits (some n) := by
  rintro _ ⟨⟩ place x hx
  have := pathLength_le_longest hx
  omega

end

end SvgSkeleton.FileTree
