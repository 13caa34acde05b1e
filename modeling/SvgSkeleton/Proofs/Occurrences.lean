import Mathlib.Data.List.Infix
import SvgSkeleton.Text.Search

/-!
First and last occurrences. A search stops at an occurrence that no other one precedes, and an
occurrence that begins earlier ends before the last character of this one; so it is enough that the
piece does not occur in what stands before it together with its own first characters. Looking
for the last occurrence is the same from the other end.
-/

namespace SvgSkeleton.Text

variable {piece before after s : List Char}

/-- What occurs nowhere up to the last character of an occurrence does not begin before it. -/
lemma not_prefix_before {c : Char} (hp : piece ≠ [])
    (h : ¬ piece <:+: c :: before ++ piece.dropLast) :
    ¬ piece <+: c :: before ++ piece ++ after := by
  intro hpre
  have hs : c :: before ++ piece ++ after =
      (c :: before ++ piece.dropLast) ++ (piece.getLast hp :: after) := by
    conv_lhs => rw [← List.dropLast_concat_getLast hp]
    simp
  have hl : piece.length ≤ (c :: before ++ piece.dropLast).length := by
    rw [List.length_append, List.length_dropLast, List.length_cons]
    omega
  rw [hs] at hpre
  exact h (List.prefix_of_prefix_length_le hpre (List.prefix_append _ _) hl).isInfix

lemma splitFirst_go_at {passed : List Char} (hp : piece ≠ []) :
    splitFirst.go piece passed (piece ++ after) = some (passed.reverse, after) := by
  obtain ⟨c, r, rfl⟩ := List.exists_cons_of_ne_nil hp
  have h : (c :: r).isPrefixOf? (c :: (r ++ after)) = some after :=
    List.isPrefixOf?_eq_some_iff_append_eq.mpr rfl
  rw [List.cons_append, splitFirst.go, h]

lemma splitFirst_go_past {passed : List Char} {c : Char} (h : ¬ piece <+: c :: s) :
    splitFirst.go piece passed (c :: s) = splitFirst.go piece (c :: passed) s := by
  have hn : piece.isPrefixOf? (c :: s) = none := by
    rw [Option.eq_none_iff_forall_ne_some]
    intro rest hr
    exact h ⟨rest, List.isPrefixOf?_eq_some_iff_append_eq.mp hr⟩
  rw [splitFirst.go, hn]

lemma splitFirst_go_eq {passed : List Char} (hp : piece ≠ [])
    (h : ¬ piece <:+: before ++ piece.dropLast) :
    splitFirst.go piece passed (before ++ piece ++ after) =
      some (passed.reverse ++ before, after) := by
  induction before generalizing passed with
  | nil => rw [List.nil_append, splitFirst_go_at hp, List.append_nil]
  | cons c t ih =>
    have ht : ¬ piece <:+: t ++ piece.dropLast := fun hi => h (List.infix_cons hi)
    have hn : ¬ piece <+: c :: (t ++ piece ++ after) := not_prefix_before hp h
    rw [List.cons_append, List.cons_append, splitFirst_go_past hn, ih ht]
    simp

/-- A text is split at an occurrence of the piece that is the first. -/
theorem splitFirst_append (hp : piece ≠ []) (h : ¬ piece <:+: before ++ piece.dropLast) :
    splitFirst piece (before ++ piece ++ after) = some (before, after) :=
  splitFirst_go_eq hp h

lemma not_infix_of_splitFirst_go {passed : List Char} (hp : piece ≠ [])
    (h : splitFirst.go piece passed s = some (passed.reverse ++ before, after)) :
    ¬ piece <:+: before ++ piece.dropLast := by
  induction s generalizing passed before with
  | nil => simp [splitFirst.go, hp] at h
  | cons c r ih =>
    have hs : c :: r = before ++ (piece ++ after) := by
      have := splitFirst_go h
      rwa [List.append_assoc, List.append_assoc, List.append_cancel_left_eq] at this
    by_cases hpre : piece <+: c :: r
    · obtain ⟨rest, hr⟩ := hpre
      rw [← hr, splitFirst_go_at hp] at h
      have hb : before = [] := by simpa using (Prod.mk.inj (Option.some.inj h)).1
      rw [hb, List.nil_append]
      intro hi
      have hlen := hi.length_le
      have hpos := List.length_pos_iff.mpr hp
      rw [List.length_dropLast] at hlen
      omega
    · rw [splitFirst_go_past hpre] at h
      cases before with
      | nil => exact absurd ⟨after, hs.symm⟩ hpre
      | cons d t =>
        obtain ⟨rfl, hr⟩ := List.cons.inj hs
        have hpassed : passed.reverse ++ c :: t = (c :: passed).reverse ++ t := by simp
        rw [List.cons_append, List.infix_cons_iff, not_or]
        refine ⟨fun hi => hpre (hi.trans ?_), ih (hpassed ▸ h)⟩
        rw [hs, List.cons_append, List.cons_prefix_cons, List.prefix_append_right_inj]
        exact ⟨rfl, (List.dropLast_prefix piece).trans (List.prefix_append _ _)⟩

/-- A text is split at the first occurrence of the piece. -/
theorem splitFirst_eq_some_iff (hp : piece ≠ []) :
    splitFirst piece s = some (before, after) ↔
      s = before ++ piece ++ after ∧ ¬ piece <:+: before ++ piece.dropLast := by
  constructor
  · exact fun h => ⟨eq_append_of_splitFirst h, not_infix_of_splitFirst_go hp h⟩
  · rintro ⟨rfl, h⟩
    exact splitFirst_append hp h

/-- A text is split at the first of its characters that is the one looked for. -/
theorem splitFirst_singleton_eq_some_iff {c : Char} :
    splitFirst [c] s = some (before, after) ↔ s = before ++ c :: after ∧ c ∉ before := by
  rw [splitFirst_eq_some_iff (List.cons_ne_nil c []), List.append_assoc, List.singleton_append,
    List.dropLast_singleton, List.append_nil, List.singleton_infix_iff]

/-- A text is split at an occurrence of the piece that is the last. -/
theorem splitLast_append (hp : piece ≠ []) (h : ¬ piece <:+: piece.tail ++ after) :
    splitLast piece (before ++ piece ++ after) = some (before, after) := by
  have hr : ¬ piece.reverse <:+: after.reverse ++ piece.reverse.dropLast := by
    rwa [List.dropLast_reverse, ← List.reverse_append, List.reverse_infix]
  have hs : (before ++ piece ++ after).reverse =
      after.reverse ++ piece.reverse ++ before.reverse := by
    simp
  rw [splitLast, hs, splitFirst_append (by simpa using hp) hr]
  simp

/-- Where a piece occurs it has a last occurrence. -/
lemma exists_last (hp : piece ≠ []) (h : piece <:+: s) :
    ∃ before after, s = before ++ piece ++ after ∧ ¬ piece <:+: piece.tail ++ after := by
  induction hn : s.length using Nat.strongRecOn generalizing s with
  | _ n ih =>
    obtain ⟨x, y, rfl⟩ := h
    by_cases hlast : piece <:+: piece.tail ++ y
    · obtain ⟨c, r, rfl⟩ := List.exists_cons_of_ne_nil hp
      have hlt : ((c :: r).tail ++ y).length < n := by
        rw [← hn]
        simp
        omega
      obtain ⟨before, after, he, ha⟩ := ih _ hlt hlast rfl
      refine ⟨x ++ c :: before, after, ?_, ha⟩
      rw [List.tail_cons] at he
      rw [List.append_assoc, List.cons_append, he]
      simp
    · exact ⟨x, y, rfl, hlast⟩

/-- A text is split at the last occurrence of the piece. -/
theorem splitLast_eq_some_iff (hp : piece ≠ []) :
    splitLast piece s = some (before, after) ↔
      s = before ++ piece ++ after ∧ ¬ piece <:+: piece.tail ++ after := by
  constructor
  · intro h
    have hi : piece <:+: s := ⟨before, after, (eq_append_of_splitLast h).symm⟩
    obtain ⟨x, y, rfl, hy⟩ := exists_last hp hi
    obtain ⟨rfl, rfl⟩ := Prod.mk.inj (Option.some.inj ((splitLast_append hp hy).symm.trans h))
    exact ⟨rfl, hy⟩
  · rintro ⟨rfl, h⟩
    exact splitLast_append hp h

/-- A piece does not begin in a text without its first character. -/
lemma infix_append_iff_of_notMem {c : Char} {r : List Char} (h : c ∉ before) :
    c :: r <:+: before ++ after ↔ c :: r <:+: after := by
  induction before with
  | nil => rfl
  | cons d t ih =>
    rw [List.mem_cons, not_or] at h
    rw [List.cons_append, List.infix_cons_iff, ih h.2, or_iff_right]
    intro hp
    exact h.1 (List.cons_prefix_cons.mp hp).1

/-- A piece without the last character of a text does not reach beyond its end. -/
lemma infix_append_iff_of_getLast? {c : Char} (hl : before.getLast? = some c) (hc : c ∉ piece) :
    piece <:+: before ++ after ↔ piece <:+: before ∨ piece <:+: after := by
  rw [List.infix_append_iff]
  constructor
  · rintro (h | h | ⟨x, y, rfl, ⟨u, rfl⟩, hy⟩)
    · exact .inl h
    · exact .inr h
    · cases hx : x.getLast? with
      | none =>
        rw [List.getLast?_eq_none_iff.mp hx]
        exact .inr hy.isInfix
      | some d =>
        rw [List.getLast?_append, hx] at hl
        obtain rfl := Option.some.inj hl
        exact absurd (List.mem_append_left _ (List.mem_of_getLast? hx)) hc
  · rintro (h | h)
    · exact .inl h
    · exact .inr (.inl h)

/-- A piece that does not end in the last character of a text occurs before it. -/
lemma infix_of_infix_concat {c d : Char} {r : List Char} (h : r ++ [c] <:+: s ++ [d])
    (hne : c ≠ d) : r ++ [c] <:+: s := by
  rcases List.infix_concat_iff.mp h with h | h
  · obtain ⟨x, hx⟩ := h
    rw [← List.append_assoc] at hx
    exact absurd (List.append_inj_right' hx rfl) (by simpa using hne)
  · exact h

end SvgSkeleton.Text
