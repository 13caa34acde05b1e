/-!
Looking for a piece of text inside another. The parts around an occurrence, put together
again, are the text that was searched.
-/

namespace SvgSkeleton.Text

/-- What stands before and after the first occurrence of `piece`. -/
def splitFirst (piece : List Char) (s : List Char) : Option (List Char × List Char) :=
  go [] s
where
  /-- Search on, with the text already passed over in reverse. -/
  go (passed : List Char) : List Char → Option (List Char × List Char)
    | [] => if piece.isEmpty then some (passed.reverse, []) else none
    | c :: r =>
      match piece.isPrefixOf? (c :: r) with
      | some after => some (passed.reverse, after)
      | none => go (c :: passed) r

/-- What stands before and after the last occurrence of `piece`. -/
def splitLast (piece : List Char) (s : List Char) : Option (List Char × List Char) :=
  (splitFirst piece.reverse s.reverse).map fun p => (p.2.reverse, p.1.reverse)

theorem append_of_isPrefixOf? {piece s after : List Char} (h : piece.isPrefixOf? s = some after) :
    s = piece ++ after := by
  induction piece generalizing s with
  | nil => exact Option.some.inj h
  | cons a piece ih =>
    cases s with
    | nil => cases h
    | cons b s =>
      have h : (if a == b then piece.isPrefixOf? s else none) = some after := h
      split at h
      · next hab => rw [ih h, beq_iff_eq.mp hab]; rfl
      · cases h

theorem splitFirst_go {piece passed s before after : List Char}
    (h : splitFirst.go piece passed s = some (before, after)) :
    passed.reverse ++ s = before ++ piece ++ after := by
  induction s generalizing passed with
  | nil =>
    simp only [splitFirst.go] at h
    split at h
    · next he =>
      obtain ⟨rfl, rfl⟩ := Prod.mk.inj (Option.some.inj h)
      simp [List.isEmpty_iff.mp he]
    · simp at h
  | cons c r ih =>
    simp only [splitFirst.go] at h
    split at h
    · next rest hp =>
      obtain ⟨rfl, rfl⟩ := Prod.mk.inj (Option.some.inj h)
      rw [append_of_isPrefixOf? hp, List.append_assoc]
    · rw [← ih h]; simp

theorem eq_append_of_splitFirst {piece s before after : List Char}
    (h : splitFirst piece s = some (before, after)) : s = before ++ piece ++ after := by
  simpa using splitFirst_go h

theorem eq_append_of_splitLast {piece s before after : List Char}
    (h : splitLast piece s = some (before, after)) : s = before ++ piece ++ after := by
  obtain ⟨⟨x, y⟩, hp, hxy⟩ := Option.map_eq_some_iff.mp h
  obtain ⟨rfl, rfl⟩ := Prod.mk.inj hxy
  have := congrArg List.reverse (eq_append_of_splitFirst hp)
  simpa [List.append_assoc] using this

end SvgSkeleton.Text
