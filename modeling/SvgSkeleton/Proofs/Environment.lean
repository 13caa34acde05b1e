import SvgSkeleton.Proofs.Fallible
import SvgSkeleton.Scope

/-!
A stack of frames as one list of pairs, the outermost frame first. A name means what the last pair
of that name in the list says, whatever frames the pairs come from; so filling in a text needs to
know no more of a stack than its list.
-/

namespace SvgSkeleton

namespace Bindings

@[simp] lemma last?_nil (name : String) : last? [] name = none := rfl

lemma last?_append (a b : Bindings) (name : String) :
    last? (a ++ b) name = (last? b name).or (last? a name) := by
  simp [last?, List.lookup_append]

lemma last?_eq_some_iff {b : Bindings} {name : String} {value : Scalar} :
    b.last? name = some value ↔
      ∃ before after, b = before ++ (name, value) :: after ∧ ∀ p ∈ after, p.1 ≠ name := by
  unfold last?
  rw [List.lookup_eq_some_iff]
  constructor
  · rintro ⟨x, y, h, hx⟩
    refine ⟨y.reverse, x.reverse, ?_, ?_⟩
    · rw [← List.reverse_reverse b, h]
      simp
    · intro p hp
      exact (bne_iff_ne.mp (hx p (by simpa using hp))).symm
  · rintro ⟨before, after, rfl, h⟩
    refine ⟨after.reverse, before.reverse, by simp, ?_⟩
    intro p hp
    exact bne_iff_ne.mpr (h p (by simpa using hp)).symm

lemma last?_eq_none_iff {b : Bindings} {name : String} :
    b.last? name = none ↔ ∀ p ∈ b, p.1 ≠ name := by
  unfold last?
  rw [List.lookup_eq_none_iff]
  simp only [List.mem_reverse, bne_iff_ne]
  exact forall₂_congr fun p _ => ne_comm

end Bindings

/-- What a piece of a text stands for; the error is a name that no pair gives a value. -/
def Piece.valueIn (vars : Bindings) : Piece → Except String String
  | .copy c => .ok (String.singleton c)
  | .hole name =>
    match vars.last? name with
    | some value => .ok value.render
    | none => .error name

/-- The text with each placeholder replaced by the last value of its name, or the first name that
has none. -/
def Bindings.fillIn (vars : Bindings) (text : String) : Except String String := do
  return String.join (← (Piece.ofText text.toList).mapM (Piece.valueIn vars))

namespace Scope

/-- All pairs of a stack of frames, the innermost last. -/
def flat (scope : Scope) : Bindings := scope.reverse.flatten

@[simp] lemma flat_nil : flat [] = [] := rfl

@[simp] lemma flat_cons (vars : Bindings) (scope : Scope) :
    flat (vars :: scope) = flat scope ++ vars := by
  simp [flat]

lemma find?_eq_last? (scope : Scope) (name : String) :
    scope.find? name = scope.flat.last? name := by
  induction scope with
  | nil => rfl
  | cons vars outer ih =>
    rw [flat_cons, Bindings.last?_append, find?, ih]
    cases vars.last? name <;> rfl

lemma fill_eq (scope : Scope) (done : String × Nat) (p : Piece) :
    (scope.fill done p).map (·.1) = (p.valueIn scope.flat).map (done.1 ++ ·) := by
  cases p with
  | copy c => simp [fill, Piece.valueIn, Except.map]
  | hole name =>
    rw [fill, Piece.valueIn, find?_eq_last?]
    cases scope.flat.last? name <;> rfl

/-- Filling in piece by piece puts the values of all pieces behind what is there. -/
lemma foldlM_fill_eq (scope : Scope) (pieces : List Piece) (done : String × Nat) :
    (pieces.foldlM (fill scope) done).map (·.1) =
      (pieces.mapM (Piece.valueIn scope.flat)).map fun values => done.1 ++ String.join values := by
  induction pieces generalizing done with
  | nil => simp [Except.map, pure, Except.pure]
  | cons p rest ih =>
    have h := fill_eq scope done p
    rw [List.foldlM_cons, List.mapM_cons]
    cases hf : fill scope done p with
    | error name =>
      cases hv : p.valueIn scope.flat with
      | error n =>
        rw [hf, hv] at h
        exact h
      | ok v => simp [hf, hv, Except.map] at h
    | ok next =>
      cases hv : p.valueIn scope.flat with
      | error n => simp [hf, hv, Except.map] at h
      | ok v =>
        have h1 : next.1 = done.1 ++ v := by simpa [hf, hv, Except.map] using h
        have h2 := ih next
        rw [h1] at h2
        show (rest.foldlM (fill scope) next).map (·.1) = _
        rw [h2]
        cases rest.mapM (Piece.valueIn scope.flat) with
        | error n => rfl
        | ok vs => simp [Except.map, bind, Except.bind, pure, Except.pure, String.append_assoc]

/-- **Filling in a text from a stack of frames is filling it in from the list of all pairs.** -/
theorem interpolate_eq (scope : Scope) (text : String) :
    (scope.interpolate text).map (·.1) = scope.flat.fillIn text := by
  rw [interpolate, foldlM_fill_eq, Bindings.fillIn]
  cases (Piece.ofText text.toList).mapM (Piece.valueIn scope.flat) <;>
    simp [Except.map, bind, Except.bind, pure, Except.pure]

end Scope

/-! ### What filling in means -/

/-- A piece of a text stands for a value: a placeholder for that of the last pair of its name. -/
inductive Piece.Means (vars : Bindings) : Piece → String → Prop
  | copy (c : Char) : Means vars (.copy c) (String.singleton c)
  | hole {before after : Bindings} {name : String} {value : Scalar}
      (h : vars = before ++ (name, value) :: after) (hlast : ∀ p ∈ after, p.1 ≠ name) :
      Means vars (.hole name) value.render

lemma Piece.means_iff {vars : Bindings} {p : Piece} {value : String} :
    p.Means vars value ↔ p.valueIn vars = .ok value := by
  constructor
  · rintro (c | ⟨h, hlast⟩)
    · rfl
    · rw [valueIn, Bindings.last?_eq_some_iff.mpr ⟨_, _, h, hlast⟩]
  · intro h
    cases p with
    | copy c =>
      obtain rfl := Except.ok.inj h
      exact .copy c
    | hole name =>
      rw [valueIn] at h
      cases hv : vars.last? name with
      | none =>
        rw [hv] at h
        cases h
      | some v =>
        rw [hv] at h
        obtain rfl := Except.ok.inj h
        obtain ⟨before, after, hb, hlast⟩ := Bindings.last?_eq_some_iff.mp hv
        exact .hole hb hlast

namespace Bindings

/-- The text with every placeholder replaced by the value of the last pair of its name. -/
def FillsIn (vars : Bindings) (text out : String) : Prop :=
  ∃ values, List.Forall₂ (Piece.Means vars) (Piece.ofText text.toList) values ∧
    out = String.join values

lemma fillsIn_iff {vars : Bindings} {text out : String} :
    vars.FillsIn text out ↔ vars.fillIn text = .ok out := by
  have hmeans : Piece.Means vars = fun p value => p.valueIn vars = .ok value := by
    funext p value
    exact propext Piece.means_iff
  rw [FillsIn, hmeans, fillIn, bind_eq_ok_iff]
  constructor
  · rintro ⟨values, hv, rfl⟩
    exact ⟨values, mapM_eq_ok_iff.mpr hv, rfl⟩
  · rintro ⟨values, hv, ho⟩
    exact ⟨values, mapM_eq_ok_iff.mp hv, (Except.ok.inj ho).symm⟩

lemma FillsIn.unique {vars : Bindings} {text a b : String} (ha : vars.FillsIn text a)
    (hb : vars.FillsIn text b) : a = b :=
  Except.ok.inj ((fillsIn_iff.mp ha).symm.trans (fillsIn_iff.mp hb))

/-- A name without a pair, before which all placeholders have values, is what filling in fails
with. -/
lemma fillIn_eq_error {vars : Bindings} {text name : String} {before after : List Piece}
    (h : Piece.ofText text.toList = before ++ .hole name :: after)
    (hbefore : ∀ n, .hole n ∈ before → ∃ p ∈ vars, p.1 = n) (hname : ∀ p ∈ vars, p.1 ≠ name) :
    vars.fillIn text = .error name := by
  have hmap : (before ++ .hole name :: after).mapM (Piece.valueIn vars) = .error name := by
    clear h
    induction before with
    | nil => simp [List.mapM_cons, Piece.valueIn, last?_eq_none_iff.mpr hname, bind, Except.bind]
    | cons p before ih =>
      have hp : ∃ v, p.valueIn vars = .ok v := by
        cases p with
        | copy c => exact ⟨_, rfl⟩
        | hole n =>
          cases hv : vars.last? n with
          | none =>
            obtain ⟨q, hq, hn⟩ := hbefore n List.mem_cons_self
            exact absurd hn (last?_eq_none_iff.mp hv q hq)
          | some v => exact ⟨v.render, by rw [Piece.valueIn, hv]⟩
      obtain ⟨v, hv⟩ := hp
      have ih := ih fun n hn => hbefore n (List.mem_cons_of_mem _ hn)
      rw [List.cons_append, List.mapM_cons]
      exact bind_eq_error_iff.mpr (.inr ⟨v, hv, bind_eq_error_iff.mpr (.inl ih)⟩)
  rw [fillIn, h, hmap]
  rfl

end Bindings
end SvgSkeleton
