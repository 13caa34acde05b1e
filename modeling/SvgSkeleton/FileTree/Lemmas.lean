import SvgSkeleton.FileTree

/-!
A walk in two stages, and how far a walk can lead. Walking along two routes, one after the other,
is walking the first and then, from where it ends and with the links still allowed, the second. A
bounded walk ends at a place whose path is short, and there are finitely many of those.
-/

namespace SvgSkeleton.FileTree

/-- A stop on the way to where a further route begins, or on that route. -/
def Stop.andThen (t : FileTree) (bound : Option Nat) (rest : List Step) : Stop → Stop
  | .arrived place => t.descend bound place rest
  | .atLink place target left => .atLink place target (left ++ rest)
  | .failed reason => .failed reason

theorem descend_append (t : FileTree) (bound : Option Nat) (place : List FileName)
    (a b : List Step) :
    t.descend bound place (a ++ b) = (t.descend bound place a).andThen t bound b := by
  induction a generalizing place with
  | nil => rfl
  | cons s r ih =>
    simp only [List.cons_append, descend]
    split
    · rfl
    · split
      · cases s with
        | stay => exact ih place
        | up => exact ih place.tail
        | down name =>
          simp only []
          split
          · rfl
          · split
            · rfl
            · rfl
            · exact ih (name :: place)
      · rfl

theorem walk_append (t : FileTree) (bound : Option Nat) (links : Nat) (place : List FileName)
    (a b : List Step) :
    t.walk bound links place (a ++ b)
      = (t.walk bound links place a).bind fun r => t.walk bound r.2 r.1 b := by
  induction links generalizing place a with
  | zero =>
    conv => lhs; rw [walk, descend_append]
    conv => rhs; rw [walk]
    cases hd : t.descend bound place a with
    | arrived p => conv => rhs; simp only [Except.bind]; rw [walk]
                   rfl
    | atLink p target left => rfl
    | failed reason => rfl
  | succ n ih =>
    conv => lhs; rw [walk, descend_append]
    conv => rhs; rw [walk]
    cases hd : t.descend bound place a with
    | arrived p => conv => rhs; simp only [Except.bind]; rw [walk]
                   rfl
    | atLink p target left =>
      simp only [Stop.andThen]
      rw [← List.append_assoc, ih]
    | failed reason => rfl

/-! ### Short paths -/

/-- The place that a stop stands at, innermost name first. -/
def Stop.place? : Stop → Option (List FileName)
  | .arrived place | .atLink place _ _ => some place
  | .failed _ => none

theorem pathLength_tail_le (place : List FileName) : pathLength place.tail ≤ pathLength place := by
  cases place with
  | nil => simp
  | cons n r => simp [pathLength]

/-- On its way to a stop a bounded walk does not leave the places whose paths are short. -/
theorem pathLength_of_descend {t : FileTree} {n : Nat} {route : List Step}
    {place p : List FileName} (h : (t.descend (some n) place route).place? = some p) {m : Nat}
    (hm : n ≤ m) (hp : pathLength place < m) : pathLength p < m := by
  induction route generalizing place with
  | nil =>
    simp only [descend, Stop.place?, Option.some.injEq] at h
    exact h ▸ hp
  | cons s r ih =>
    simp only [descend] at h
    split at h
    · simp [Stop.place?] at h
    · next hs =>
      split at h
      · cases s with
        | stay => exact ih h hp
        | up => exact ih h (Nat.lt_of_le_of_lt (pathLength_tail_le place) hp)
        | down name =>
          simp only [] at h
          split at h
          · simp [Stop.place?] at h
          · split at h
            · simp [Stop.place?] at h
            · simp only [Stop.place?, Option.some.injEq] at h
              exact h ▸ hp
            · refine ih h ?_
              have hs : ¬ n ≤ pathLength place + 1 + name.length := fun hle =>
                hs (decide_eq_true hle)
              simp only [pathLength]
              omega
      · simp [Stop.place?] at h

theorem pathLength_of_walk {t : FileTree} {n links : Nat} {place : List FileName}
    {route : List Step} {r : List FileName × Nat} (h : t.walk (some n) links place route = .ok r)
    {m : Nat} (hm : n ≤ m) (hp : pathLength place < m) : pathLength r.1 < m := by
  induction links generalizing place route with
  | zero =>
    rw [walk] at h
    cases hd : t.descend (some n) place route with
    | arrived p =>
      simp only [hd, Except.ok.injEq] at h
      exact h ▸ pathLength_of_descend (by rw [hd]; rfl) hm hp
    | atLink p target left => simp [hd] at h
    | failed reason => simp [hd] at h
  | succ k ih =>
    rw [walk] at h
    cases hd : t.descend (some n) place route with
    | arrived p =>
      simp only [hd, Except.ok.injEq] at h
      exact h ▸ pathLength_of_descend (by rw [hd]; rfl) hm hp
    | atLink p target left =>
      simp only [hd] at h
      refine ih h ?_
      split
      · exact Nat.lt_of_le_of_lt (Nat.zero_le _) hp
      · exact pathLength_of_descend (by rw [hd]; rfl) hm hp
    | failed reason => simp [hd] at h

/-- The lists of at most so many items. -/
def listsUpTo {α : Type} (items : List α) : Nat → List (List α)
  | 0 => [[]]
  | n + 1 => [] :: items.flatMap fun x => (listsUpTo items n).map (x :: ·)

theorem mem_listsUpTo {α : Type} {items l : List α} {n : Nat} (hn : l.length ≤ n)
    (hl : ∀ x ∈ l, x ∈ items) : l ∈ listsUpTo items n := by
  induction n generalizing l with
  | zero => simp [listsUpTo, List.length_eq_zero_iff.mp (Nat.le_zero.mp hn)]
  | succ n ih =>
    cases l with
    | nil => simp [listsUpTo]
    | cons x r =>
      simp only [listsUpTo, List.mem_cons, reduceCtorEq, List.mem_flatMap, List.mem_map,
        false_or]
      refine ⟨x, hl x (by simp), r, ih (by simpa using hn) ?_, rfl⟩
      exact fun y hy => hl y (by simp [hy])

/-- Every byte. -/
def allBytes : List UInt8 := (List.range 256).map UInt8.ofNat

theorem mem_allBytes (b : UInt8) : b ∈ allBytes :=
  List.mem_map.mpr ⟨b.toNat, List.mem_range.mpr b.toNat_lt, by simp⟩

/-- The places whose paths are at most so long, and others. -/
def placesUpTo (n : Nat) : List Place := listsUpTo (listsUpTo allBytes n) n

theorem mem_placesUpTo {place : Place} {n : Nat} (h : pathLength place ≤ n) :
    place ∈ placesUpTo n := by
  have hl : place.length ≤ pathLength place ∧ ∀ x ∈ place, x.length ≤ pathLength place := by
    clear h
    induction place with
    | nil => simp
    | cons x r ih =>
      simp only [pathLength, List.length_cons, List.mem_cons, forall_eq_or_imp] at ih ⊢
      exact ⟨by omega, by omega, fun y hy => Nat.le_trans (ih.2 y hy) (by omega)⟩
  exact mem_listsUpTo (Nat.le_trans hl.1 h) fun x hx =>
    mem_listsUpTo (Nat.le_trans (hl.2 x hx) h) fun b _ => mem_allBytes b

theorem pathLength_append (a b : List FileName) :
    pathLength (a ++ b) = pathLength a + pathLength b := by
  induction a with
  | nil => simp [pathLength]
  | cons n r ih => simp only [List.cons_append, pathLength, ih]; omega

theorem pathLength_reverse (place : List FileName) :
    pathLength place.reverse = pathLength place := by
  induction place with
  | nil => rfl
  | cons n r ih => simp only [List.reverse_cons, pathLength_append, pathLength, ih]; omega

theorem length_flatMap_slash (place : Place) :
    (place.flatMap (0x2F :: ·)).length = pathLength place := by
  induction place with
  | nil => rfl
  | cons n r ih =>
    simp only [List.flatMap_cons, List.length_append, List.length_cons, pathLength, ih]; omega

theorem pathLength_le_absolutePath (place : Place) :
    pathLength place ≤ (absolutePath place).length := by
  unfold absolutePath
  split
  · next h => simp [List.isEmpty_iff.mp h, pathLength]
  · exact Nat.le_of_eq (length_flatMap_slash place).symm

theorem checkPath_eq_ok {path : List UInt8} :
    checkPath path = .ok () ↔ 0 ∉ path ∧ path ≠ [] ∧ path.length < pathLimit := by
  simp only [checkPath, checkText, bind, Except.bind]
  split
  · next h =>
    split at h <;> try split at h
    all_goals simp_all
  · next h =>
    split at h <;> try split at h
    all_goals simp_all [pure, Except.pure]

/-- Where the path of an entry can be walked at once, so can that of its folder. -/
theorem checkPath_parent {place : Place} {name : FileName}
    (h : checkPath (absolutePath (place ++ [name])) = .ok ()) :
    checkPath (absolutePath place) = .ok () := by
  rw [checkPath_eq_ok] at h ⊢
  have hf : absolutePath (place ++ [name]) = place.flatMap (0x2F :: ·) ++ 0x2F :: name := by
    simp [absolutePath]
  rw [hf] at h
  by_cases hp : place = []
  · subst hp
    refine ⟨by decide, by decide, by decide⟩
  · have ha : absolutePath place = place.flatMap (0x2F :: ·) := by simp [absolutePath, hp]
    obtain ⟨h0, -, hl⟩ := h
    rw [ha]
    simp only [List.mem_append, not_or, List.length_append] at h0 hl
    refine ⟨h0.1, ?_, by omega⟩
    cases place with
    | nil => exact absurd rfl hp
    | cons n r => simp

end SvgSkeleton.FileTree
