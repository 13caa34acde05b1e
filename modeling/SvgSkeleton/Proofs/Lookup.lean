import Mathlib.Data.List.Nodup
import Mathlib.Tactic.Lemma
import SvgSkeleton.Catalog

/-!
Looking up keys in lists of pairs.
-/

namespace SvgSkeleton

lemma isSome_lookup_iff {α : Type} {l : List (String × α)} {key : String} :
    (l.lookup key).isSome = true ↔ key ∈ l.map (·.1) := by
  rw [← not_iff_not, Bool.not_eq_true, Option.isSome_eq_false_iff, Option.isNone_iff_eq_none,
    List.lookup_eq_none_iff, List.mem_map]
  simp only [bne_iff_ne, not_exists, not_and]
  exact forall₂_congr fun e _ => ne_comm

lemma lookup_cons_of_ne {α : Type} {key : String} {e : String × α} {l : List (String × α)}
    (h : e.1 ≠ key) : (e :: l).lookup key = l.lookup key := by
  rw [Catalog.lookup_cons, if_neg h.symm]

lemma Catalog.nodup_keys {α : Type} (c : Catalog α) : (c.entries.map (·.1)).Nodup := by
  refine c.increasing.imp ?_
  rintro a b h rfl
  exact String.lt_irrefl a h

lemma lookup_cons_eq_ite {α κ : Type} [BEq κ] [LawfulBEq κ] [DecidableEq κ] {l : List (κ × α)}
    (key : κ) (e : κ × α) :
    (e :: l).lookup key = if key = e.1 then some e.2 else l.lookup key := by
  rw [List.lookup_cons]
  split
  · next h => rw [if_pos (beq_iff_eq.mp h)]
  · next h => rw [if_neg (beq_eq_false_iff_ne.mp h)]

/-- Where no key occurs twice, what is looked up is what stands in the list. -/
lemma lookup_eq_some_iff_mem {α κ : Type} [BEq κ] [LawfulBEq κ] {l : List (κ × α)}
    (h : (l.map (·.1)).Nodup) {key : κ} {value : α} :
    l.lookup key = some value ↔ (key, value) ∈ l := by
  rw [List.lookup_eq_some_iff]
  constructor
  · rintro ⟨before, after, rfl, -⟩
    simp
  · intro hm
    obtain ⟨before, after, rfl⟩ := List.append_of_mem hm
    refine ⟨before, after, rfl, fun e he => bne_iff_ne.mpr ?_⟩
    rintro rfl
    rw [List.map_append, List.nodup_append] at h
    exact h.2.2 _ (List.mem_map_of_mem he) _ (List.mem_map_of_mem List.mem_cons_self) rfl

/-- Where no key occurs twice, the order does not matter to what is looked up. -/
lemma lookup_reverse {α : Type} {l : List (String × α)} (h : (l.map (·.1)).Nodup) (key : String) :
    l.reverse.lookup key = l.lookup key := by
  have hr : (l.reverse.map (·.1)).Nodup := by
    rw [List.map_reverse]
    exact List.nodup_reverse.mpr h
  refine Option.ext fun value => ?_
  rw [lookup_eq_some_iff_mem hr, lookup_eq_some_iff_mem h, List.mem_reverse]

end SvgSkeleton
