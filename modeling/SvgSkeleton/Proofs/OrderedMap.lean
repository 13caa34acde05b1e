import Mathlib.Data.List.Induction
import SvgSkeleton.Proofs.Names

/-!
Attribute lists as ordered maps. A list is made from the empty one by setting names and by putting
names in front that are not there, in any order and any number of times. What is set counts for more
than what is put in front, the last value that is set for more than those before it, and the first
value that is put in front for more than those behind it. The place of a name is settled by the
change that first names it, and no later change moves it.
-/

namespace SvgSkeleton.Attributes

/-- A change to an attribute list. -/
inductive Change where
  | set (name value : String)
  | setDefaultFirst (name value : String)
  deriving DecidableEq, Repr

namespace Change

/-- The name that the change is about. -/
def name : Change → String
  | .set name _ => name
  | .setDefaultFirst name _ => name

def isSet : Change → Bool
  | .set _ _ => true
  | .setDefaultFirst _ _ => false

/-- The value to which the change sets the name. -/
def valueSet? (n : String) : Change → Option String
  | .set name value => if n = name then some value else none
  | .setDefaultFirst _ _ => none

/-- The value that the change puts in front with the name. -/
def defaultValue? (n : String) : Change → Option String
  | .set _ _ => none
  | .setDefaultFirst name value => if n = name then some value else none

end Change

/-- The list after one more change. -/
def apply (a : Attributes) : Change → Attributes
  | .set name value => a.set name value
  | .setDefaultFirst name value => a.setDefaultFirst name value

/-- The empty list after all the changes, one after the other. -/
def ofChanges (changes : List Change) : Attributes := changes.foldl apply empty

/-- The changes that are the first to name something, in order. -/
def introductions : List Change → List Change
  | [] => []
  | c :: r => c :: (introductions r).filter (·.name ≠ c.name)

/-- The list holds what the changes make of the empty one, in the order in which they make it. -/
structure IsMapOf (changes : List Change) (a : Attributes) : Prop where
  nodup : a.names.Nodup
  get? (n : String) : a.get? n =
    (changes.filterMap (Change.valueSet? n)).getLast?.or
      (changes.filterMap (Change.defaultValue? n)).head?
  contains (n : String) : a.contains n = true ↔ n ∈ changes.map Change.name
  names : a.names =
    ((introductions changes).filter (!·.isSet)).reverse.map Change.name ++
      ((introductions changes).filter (·.isSet)).map Change.name

variable {a : Attributes} {changes : List Change} {name n value : String}

/-- A name that is new is introduced by the change that names it. -/
lemma introductions_concat_of_notMem {c : Change} (h : c.name ∉ changes.map Change.name) :
    introductions (changes ++ [c]) = introductions changes ++ [c] := by
  induction changes with
  | nil => rfl
  | cons d r ih =>
    rw [List.map_cons, List.mem_cons, not_or] at h
    rw [List.cons_append, introductions, introductions, ih h.2, List.filter_append,
      List.cons_append]
    simp [h.1]

/-- A name that was named before is not introduced again. -/
lemma introductions_concat_of_mem {c : Change} (h : c.name ∈ changes.map Change.name) :
    introductions (changes ++ [c]) = introductions changes := by
  induction changes with
  | nil => cases h
  | cons d r ih =>
    rw [List.cons_append, introductions, introductions]
    by_cases hr : c.name ∈ r.map Change.name
    · rw [ih hr]
    · have hd : c.name = d.name := (List.mem_cons.mp h).resolve_right hr
      rw [introductions_concat_of_notMem hr, List.filter_append]
      simp [hd]

lemma isMapOf_empty : IsMapOf [] empty where
  nodup := List.nodup_nil
  get? _ := rfl
  contains _ := by simp [contains, Attributes.get?, empty]
  names := rfl

namespace IsMapOf

lemma mem_names_iff (h : IsMapOf changes a) : n ∈ a.names ↔ n ∈ changes.map Change.name := by
  rw [← contains_iff_mem, h.contains]

lemma set (h : IsMapOf changes a) (name value : String) :
    IsMapOf (changes ++ [.set name value]) (a.set name value) where
  nodup := nodup_names_set h.nodup
  get? n := by
    rw [get?_set, h.get?, List.filterMap_append, List.filterMap_append]
    by_cases hn : n = name
    · simp [hn, Change.valueSet?]
    · simp [hn, Change.valueSet?, Change.defaultValue?]
  contains n := by
    rw [contains_iff_mem, mem_names_set, h.mem_names_iff, List.map_append, List.mem_append]
    simp [Change.name]
  names := by
    rw [names_set]
    by_cases hm : name ∈ a.names
    · have hc := h.mem_names_iff.mp hm
      rw [if_pos hm, introductions_concat_of_mem (c := .set name value) hc, h.names]
    · have hc := mt h.mem_names_iff.mpr hm
      rw [if_neg hm, introductions_concat_of_notMem (c := .set name value) hc, h.names]
      simp [Change.isSet, Change.name]

lemma setDefaultFirst (h : IsMapOf changes a) (name value : String) :
    IsMapOf (changes ++ [.setDefaultFirst name value]) (a.setDefaultFirst name value) where
  nodup := nodup_names_setDefaultFirst h.nodup
  get? n := by
    rw [get?_setDefaultFirst, h.get?, List.filterMap_append, List.filterMap_append,
      List.head?_append, Option.or_assoc]
    by_cases hn : n = name
    · simp [hn, Change.valueSet?, Change.defaultValue?]
    · simp [hn, Change.valueSet?, Change.defaultValue?]
  contains n := by
    rw [contains_iff_mem, mem_names_setDefaultFirst, h.mem_names_iff, List.map_append,
      List.mem_append]
    simp [Change.name]
  names := by
    rw [names_setDefaultFirst]
    by_cases hm : name ∈ a.names
    · have hc := h.mem_names_iff.mp hm
      rw [if_pos hm, introductions_concat_of_mem (c := .setDefaultFirst name value) hc, h.names]
    · have hc := mt h.mem_names_iff.mpr hm
      rw [if_neg hm, introductions_concat_of_notMem (c := .setDefaultFirst name value) hc, h.names]
      simp [Change.isSet, Change.name]

end IsMapOf

/-- After one more change the list is the map of one more change. -/
lemma isMapOf_apply (h : IsMapOf changes a) (c : Change) :
    IsMapOf (changes ++ [c]) (a.apply c) := by
  cases c with
  | set name value => exact h.set name value
  | setDefaultFirst name value => exact h.setDefaultFirst name value

/-- **An attribute list is an ordered map.** After any changes to the empty list its names are
distinct; a name has the value that it was set to last or, if it was never set, the one with which
it was first put in front; it is there exactly if some change named it; and first come the names
that were introduced by putting them in front, the latest first, and then those that were introduced
by setting them, the earliest first. -/
theorem isMapOf_ofChanges (changes : List Change) : IsMapOf changes (ofChanges changes) := by
  induction changes using List.reverseRecOn with
  | nil => exact isMapOf_empty
  | append_singleton changes c ih =>
    rw [ofChanges, List.foldl_append]
    exact isMapOf_apply ih c

/-- A name that is set keeps its place, and is not put in front again. -/
example : (ofChanges [.set "y" "1", .set "x" "2", .set "y" "3", .setDefaultFirst "xmlns" "n",
    .setDefaultFirst "x" "4"]).toList = [("xmlns", "n"), ("y", "3"), ("x", "2")] := by decide

end SvgSkeleton.Attributes
