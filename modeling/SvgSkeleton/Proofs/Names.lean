import Mathlib.Data.List.Nodup
import SvgSkeleton.Markup.Element
import SvgSkeleton.Proofs.Lookup

/-!
The names of attribute lists. Setting an attribute adds its name if it is new and keeps the others
where they are, so the names stay distinct, in the order in which they came. The value of a name is
the one that was set last.
-/

namespace SvgSkeleton

lemma eraseDups_of_nodup {α : Type} [BEq α] [LawfulBEq α] {l : List α} (h : l.Nodup) :
    l.eraseDups = l := by
  induction l with
  | nil => rfl
  | cons a l ih =>
    obtain ⟨ha, hl⟩ := List.nodup_cons.mp h
    have hf : l.filter (fun b => !b == a) = l := by
      refine List.filter_eq_self.mpr fun b hb => ?_
      rw [Bool.not_eq_true', beq_eq_false_iff_ne]
      rintro rfl
      exact ha hb
    rw [List.eraseDups_cons, hf, ih hl]

namespace Attributes

variable {a : Attributes} {entries : List (String × String)} {name n value : String}

lemma map_fst_setIn (l : List (String × String)) :
    (setIn name value l).map (·.1) =
      if name ∈ l.map (·.1) then l.map (·.1) else l.map (·.1) ++ [name] := by
  induction l with
  | nil => rfl
  | cons e r ih =>
    by_cases he : e.1 = name
    · simp [setIn, he]
    · simp only [setIn, if_neg he, List.map_cons, ih, List.mem_cons, Ne.symm he, false_or]
      split <;> rfl

/-- A name that is new goes to the end. -/
lemma names_set :
    (a.set name value).names = if name ∈ a.names then a.names else a.names ++ [name] :=
  map_fst_setIn a.toList

lemma mem_names_set : n ∈ (a.set name value).names ↔ n ∈ a.names ∨ n = name := by
  rw [names_set]
  split
  · next h =>
    constructor
    · exact .inl
    · rintro (hn | rfl)
      · exact hn
      · exact h
  · simp

lemma nodup_names_set (h : a.names.Nodup) : (a.set name value).names.Nodup := by
  rw [names_set]
  split
  · exact h
  · next hn =>
    rw [List.nodup_append_comm]
    exact List.nodup_cons.mpr ⟨hn, h⟩

lemma mem_names_setAll :
    n ∈ (a.setAll entries).names ↔ n ∈ a.names ∨ n ∈ entries.map (·.1) := by
  induction entries generalizing a with
  | nil => simp [setAll]
  | cons e r ih =>
    show n ∈ ((a.set e.1 e.2).setAll r).names ↔ _
    rw [ih, mem_names_set, List.map_cons, List.mem_cons, or_assoc]

lemma nodup_names_setAll (h : a.names.Nodup) : (a.setAll entries).names.Nodup := by
  induction entries generalizing a with
  | nil => exact h
  | cons e r ih => exact ih (nodup_names_set h)

lemma mem_names_ofList : n ∈ (ofList entries).names ↔ n ∈ entries.map (·.1) := by
  rw [ofList, mem_names_setAll]
  simp [empty, names]

lemma nodup_names_ofList : (ofList entries).names.Nodup :=
  nodup_names_setAll List.nodup_nil

/-- New names go to the end, in their order. -/
lemma names_setAll :
    (a.setAll entries).names = a.names ++ ((entries.map (·.1)).removeAll a.names).eraseDups := by
  induction entries generalizing a with
  | nil => simp [setAll, List.removeAll]
  | cons e r ih =>
    show ((a.set e.1 e.2).setAll r).names = _
    rw [ih, names_set]
    by_cases h : e.1 ∈ a.names
    · simp [List.removeAll, h]
    · simp [List.removeAll, h, List.eraseDups_cons, List.filter_filter, Bool.and_comm,
        beq_eq_decide]

lemma names_ofList : (ofList entries).names = (entries.map (·.1)).eraseDups := by
  rw [ofList, names_setAll]
  simp [names, empty, List.removeAll]

/-- Entries that are set behind a single one leave that in front. -/
lemma names_setAll_set (h : (entries.map (·.1)).Nodup) :
    ((empty.set name value).setAll entries).names = name :: (entries.map (·.1)).erase name := by
  have hone : (empty.set name value).names = [name] := rfl
  have hrest : (entries.map (·.1)).removeAll [name] = (entries.map (·.1)).erase name := by
    rw [h.erase_eq_filter]
    simp [List.removeAll, bne, beq_eq_decide]
  rw [names_setAll, hone, hrest, eraseDups_of_nodup (h.erase name)]
  rfl

lemma get?_set : (a.set name value).get? n = if n = name then some value else a.get? n := by
  obtain ⟨l⟩ := a
  show (setIn name value l).lookup n = if n = name then some value else l.lookup n
  induction l with
  | nil => rw [setIn, Catalog.lookup_cons]
  | cons e r ih =>
    unfold setIn
    by_cases he : e.1 = name
    · rw [if_pos he, Catalog.lookup_cons, Catalog.lookup_cons, he]
      split <;> rfl
    · rw [if_neg he, Catalog.lookup_cons, Catalog.lookup_cons, ih]
      by_cases hn : n = name
      · rw [if_neg (hn ▸ Ne.symm he), if_pos hn, if_pos hn]
      · rw [if_neg hn, if_neg hn]

/-- The last entry of a name counts. -/
lemma get?_setAll : (a.setAll entries).get? n = (entries.reverse.lookup n).or (a.get? n) := by
  induction entries generalizing a with
  | nil => rfl
  | cons e r ih =>
    show ((a.set e.1 e.2).setAll r).get? n = _
    rw [ih, get?_set, List.reverse_cons, List.lookup_append, Option.or_assoc,
      Catalog.lookup_cons]
    by_cases hn : n = e.1
    · rw [if_pos hn, if_pos hn, Option.some_or]
    · rw [if_neg hn, if_neg hn]
      rfl

lemma contains_iff_mem : a.contains name = true ↔ name ∈ a.names := isSome_lookup_iff

lemma toList_setDefaultFirst :
    (a.setDefaultFirst name value).toList =
      if name ∈ a.names then a.toList else (name, value) :: a.toList := by
  unfold setDefaultFirst
  by_cases h : name ∈ a.names
  · rw [if_pos (contains_iff_mem.mpr h), if_pos h]
  · rw [if_neg (fun hc => h (contains_iff_mem.mp hc)), if_neg h]

lemma names_setDefaultFirst :
    (a.setDefaultFirst name value).names =
      if name ∈ a.names then a.names else name :: a.names := by
  rw [names, toList_setDefaultFirst]
  split <;> rfl

lemma mem_names_setDefaultFirst :
    n ∈ (a.setDefaultFirst name value).names ↔ n ∈ a.names ∨ n = name := by
  rw [names_setDefaultFirst]
  split
  · next h => exact (or_iff_left_of_imp fun hn => hn ▸ h).symm
  · rw [List.mem_cons, or_comm]

lemma nodup_names_setDefaultFirst (h : a.names.Nodup) :
    (a.setDefaultFirst name value).names.Nodup := by
  rw [names_setDefaultFirst]
  split
  · exact h
  · next hn => exact List.nodup_cons.mpr ⟨hn, h⟩

/-- A value that is there counts for more than one that is put in front. -/
lemma get?_setDefaultFirst :
    (a.setDefaultFirst name value).get? n =
      (a.get? n).or (if n = name then some value else none) := by
  unfold setDefaultFirst
  by_cases hc : a.contains name = true
  · rw [if_pos hc]
    by_cases hn : n = name
    · obtain ⟨v, hv⟩ := Option.isSome_iff_exists.mp hc
      rw [hn, hv, Option.some_or]
    · rw [if_neg hn, Option.or_none]
  · rw [if_neg hc]
    show ((name, value) :: a.toList).lookup n = _
    rw [Catalog.lookup_cons]
    by_cases hn : n = name
    · have hnone : a.get? name = none := Option.not_isSome_iff_eq_none.mp hc
      rw [if_pos hn, if_pos hn, hn, hnone, Option.none_or]
    · rw [if_neg hn, if_neg hn, Option.or_none]
      rfl

end Attributes
end SvgSkeleton
