import Mathlib.Algebra.BigOperators.Group.List.Basic
import Mathlib.Algebra.Ring.Nat
import SvgSkeleton.Proofs.Fallible
import SvgSkeleton.Resolve

/-!
Counting does not steer a run. Whatever the counts it starts from, a run that resolves a manifest
comes to the same outcome and adds the same counts. So it has one result, and the result of a
sequence of runs is the sequence of their results; what it counts is the sum of what they count.
-/

namespace SvgSkeleton

namespace Stats

lemma add_def (a b : Stats) : a + b = add a b := rfl

lemma zero_add (a : Stats) : zero + a = a := by
  simp [add_def, add, zero]

lemma add_zero (a : Stats) : a + zero = a := by
  simp [add_def, add, zero]

lemma add_assoc (a b c : Stats) : a + b + c = a + (b + c) := by
  simp only [add_def, add, Nat.add_assoc]

lemma add_comm (a b : Stats) : a + b = b + a := by
  simp only [add_def, add, Nat.add_comm]

instance : Zero Stats := ⟨zero⟩

instance : AddCommMonoid Stats where
  add_assoc := add_assoc
  zero_add := zero_add
  add_zero := add_zero
  add_comm := add_comm
  nsmul := nsmulRec

end Stats

namespace Run

variable {α β : Type}

/-- The outcome of a run. -/
def result (r : Run α) : Outcome α := (r.start .zero).1

/-- What a run counts, also where it fails. -/
def counted (r : Run α) : Stats := (r.start .zero).2

/-- The run only adds to the counts, and they do not change its outcome. -/
class Adds (r : Run α) : Prop where
  start_eq : ∀ s, r.start s = (r.result, s + r.counted)

lemma start_fst (r : Run α) [hr : r.Adds] (s : Stats) : (r.start s).1 = r.result := by
  rw [hr.start_eq]

lemma start_bind (r : Run α) (f : α → Run β) (s : Stats) :
    (r >>= f).start s =
      match r.start s with
      | (.ok a, t) => (f a).start t
      | (.error e, t) => (.error e, t) := by
  simp only [start, bind, ExceptT.bind, ExceptT.mk, StateT.bind]
  rcases r s with ⟨o, t⟩
  cases o <;> rfl

@[simp] lemma result_pure (a : α) : (pure a : Run α).result = .ok a := rfl
@[simp] lemma result_throw (e : Error) : (throw e : Run α).result = .error e := rfl
@[simp] lemma result_ofOutcome (o : Outcome α) : (ofOutcome o).result = o := rfl
@[simp] lemma result_count (new : Stats) : (count new).result = .ok () := rfl

instance (a : α) : (pure a : Run α).Adds where
  start_eq s := congrArg _ (Stats.add_zero s).symm

instance (e : Error) : (throw e : Run α).Adds where
  start_eq s := congrArg _ (Stats.add_zero s).symm

instance (o : Outcome α) : (ofOutcome o).Adds where
  start_eq s := congrArg _ (Stats.add_zero s).symm

instance (new : Stats) : (count new).Adds where
  start_eq s := by
    show ((.ok () : Outcome Unit), s + new) = (.ok (), s + (Stats.zero + new))
    rw [Stats.zero_add]

instance {p : Prop} [Decidable p] {r r' : Run α} [r.Adds] [r'.Adds] :
    (if p then r else r').Adds := by
  split <;> infer_instance

instance {r : Run α} {f : α → Run β} [hr : r.Adds] [hf : ∀ a, (f a).Adds] : (r >>= f).Adds where
  start_eq s := by
    have h0 : (r >>= f).start .zero = _ := start_bind r f .zero
    rw [hr.start_eq .zero, Stats.zero_add] at h0
    rw [result, counted, h0, start_bind, hr.start_eq s]
    cases r.result with
    | ok a =>
      have h := (hf a).start_eq
      simp only [h (s + _), h r.counted, Stats.add_assoc]
    | error e => rfl

@[simp] lemma result_bind {r : Run α} {f : α → Run β} [hr : r.Adds] [hf : ∀ a, (f a).Adds] :
    (r >>= f).result = r.result >>= fun a => (f a).result := by
  rw [result, start_bind, hr.start_eq]
  cases r.result with
  | ok a =>
    show ((f a).start _).1 = (f a).result
    rw [(hf a).start_eq]
  | error e => rfl

lemma result_bind_eq_ok_iff {r : Run α} {f : α → Run β} [r.Adds] [∀ a, (f a).Adds] {b : β} :
    (r >>= f).result = .ok b ↔ ∃ a, r.result = .ok a ∧ (f a).result = .ok b := by
  rw [result_bind, bind_eq_ok_iff]

instance {r : Run α} {f : α → β} [r.Adds] : (f <$> r).Adds := by
  rw [← bind_pure_comp]
  infer_instance

@[simp] lemma result_map {r : Run α} {f : α → β} [r.Adds] :
    (f <$> r).result = f <$> r.result := by
  rw [← bind_pure_comp, result_bind]
  cases r.result <;> rfl

instance {f : α → Run β} [∀ a, (f a).Adds] (l : List α) : (l.mapM f).Adds := by
  induction l with
  | nil => rw [List.mapM_nil]; infer_instance
  | cons a l ih => rw [List.mapM_cons]; infer_instance

@[simp] lemma result_mapM {f : α → Run β} [∀ a, (f a).Adds] (l : List α) :
    (l.mapM f).result = l.mapM fun a => (f a).result := by
  induction l with
  | nil => rfl
  | cons a l ih => simp [List.mapM_cons, ih]

/-- The run comes to a value, and counts so much. -/
def Yields (r : Run α) (a : α) (c : Stats) : Prop := r.start .zero = (.ok a, c)

section

variable {a : α} {b : β} {c : Stats}

lemma Yields.result_eq {r : Run α} (h : r.Yields a c) : r.result = .ok a := congrArg Prod.fst h

lemma yields_pure_iff {a' : α} : (pure a' : Run α).Yields a c ↔ a' = a ∧ c = 0 := by
  constructor
  · intro h
    obtain ⟨ha, hc⟩ := Prod.mk.inj h
    exact ⟨Except.ok.inj ha, hc.symm⟩
  · rintro ⟨rfl, rfl⟩
    rfl

lemma yields_bind_iff {r : Run α} {f : α → Run β} [hf : ∀ a, (f a).Adds] :
    (r >>= f).Yields b c ↔ ∃ a x y, c = x + y ∧ r.Yields a x ∧ (f a).Yields b y := by
  unfold Yields
  rw [start_bind]
  constructor
  · intro h
    split at h
    · next a x hr =>
      rw [(hf a).start_eq] at h
      obtain ⟨hb, hc⟩ := Prod.mk.inj h
      exact ⟨a, x, (f a).counted, hc.symm, hr, Prod.ext hb rfl⟩
    · cases h
  · rintro ⟨a, x, y, rfl, hr, hy⟩
    have hb : (f a).result = .ok b := congrArg Prod.fst hy
    have hc : (f a).counted = y := congrArg Prod.snd hy
    rw [hr]
    show (f a).start x = _
    rw [(hf a).start_eq, hb, hc]

lemma yields_ofOutcome_bind_iff {o : Outcome α} {f : α → Run β} :
    (ofOutcome o >>= f).Yields b c ↔ ∃ a, o = .ok a ∧ (f a).Yields b c := by
  unfold Yields
  rw [start_bind]
  cases o with
  | ok a => exact ⟨fun h => ⟨a, rfl, h⟩, fun ⟨_, ha, h⟩ => Except.ok.inj ha ▸ h⟩
  | error e => exact iff_of_false nofun nofun

lemma yields_count_bind_iff {new : Stats} {f : Unit → Run β} [∀ a, (f a).Adds] :
    (count new >>= f).Yields b c ↔ ∃ x, c = new + x ∧ (f ()).Yields b x := by
  have hcount : (count new).start .zero = (.ok (), new) := congrArg _ (Stats.zero_add new)
  rw [yields_bind_iff]
  constructor
  · rintro ⟨u, x, y, rfl, hx, hy⟩
    obtain rfl := (Prod.mk.inj (hcount.symm.trans hx)).2
    exact ⟨y, rfl, hy⟩
  · rintro ⟨x, rfl, hx⟩
    exact ⟨(), new, x, rfl, hcount, hx⟩

lemma yields_count_pure_iff {new : Stats} {b' : β} :
    (count new >>= fun _ => pure b' : Run β).Yields b c ↔ b' = b ∧ c = new := by
  rw [yields_count_bind_iff]
  constructor
  · rintro ⟨x, rfl, h⟩
    obtain ⟨rfl, rfl⟩ := yields_pure_iff.mp h
    exact ⟨rfl, add_zero new⟩
  · rintro ⟨rfl, rfl⟩
    exact ⟨0, (add_zero _).symm, yields_pure_iff.mpr ⟨rfl, rfl⟩⟩

/-- A list of runs counts what they count one after the other. -/
lemma exists_of_yields_mapM {f : α → Run β} [∀ a, (f a).Adds] {l : List α} {out : List β}
    (h : (l.mapM f).Yields out c) :
    ∃ counts, List.Forall₂ (fun a c => ∃ b, (f a).Yields b c) l counts ∧ c = counts.sum := by
  induction l generalizing out c with
  | nil =>
    rw [List.mapM_nil, yields_pure_iff] at h
    exact ⟨[], .nil, h.2⟩
  | cons a l ih =>
    rw [List.mapM_cons] at h
    obtain ⟨b, x, y, rfl, hb, h⟩ := yields_bind_iff.mp h
    obtain ⟨bs, y, z, rfl, hbs, h⟩ := yields_bind_iff.mp h
    obtain ⟨-, rfl⟩ := yields_pure_iff.mp h
    obtain ⟨counts, hc, rfl⟩ := ih hbs
    exact ⟨x :: counts, .cons ⟨b, hb⟩ hc, by rw [List.sum_cons, add_zero]⟩

end

end Run

namespace Resolve

open Manifest (Tag FontFace Root)

variable {s : Surroundings} {scope : Scope}

instance (element text : String) : (fillText scope element text).Adds := by
  unfold fillText
  split <;> infer_instance

instance (element : String) (a : String × Scalar) : (fillAttr scope element a).Adds := by
  unfold fillAttr
  split <;> infer_instance

instance (element : String) (attrs : Bindings) : (fillAttrs scope element attrs).Adds := by
  unfold fillAttrs
  infer_instance

instance (face : FontFace) : (fontFace s scope face).Adds := by
  unfold fontFace
  infer_instance

instance (faces : List FontFace) (attrs : Bindings) : (font s scope faces attrs).Adds := by
  unfold font
  infer_instance

instance (path : String) (attrs : Bindings) : (nestedSvg s scope path attrs).Adds := by
  unfold nestedSvg
  infer_instance

instance (content : String) (raw : Bool) : (text scope content raw).Adds := by
  unfold text
  infer_instance

section

variable [∀ path, (s.included path).Adds]

/-- Tags and lists of them only add to the counts if what they include does. -/
lemma adds_tags :
    (∀ scope t, (tag s scope t).Adds) ∧ (∀ scope kids, (children s scope kids).Adds) ∧
      ∀ scope ts, (tagList s scope ts).Adds := by
  apply tag.mutual_induct
  all_goals intros; simp only [tag, children, tagList]; infer_instance

instance (t : Tag) : (tag s scope t).Adds := adds_tags.1 scope t

instance (kids : Option (List Tag)) : (children s scope kids).Adds := adds_tags.2.1 scope kids

instance (ts : List Tag) : (tagList s scope ts).Adds := adds_tags.2.2 scope ts

instance (r : Root) : (root s scope r).Adds := by
  unfold root
  infer_instance

end

/-- An included folder only adds to the counts. -/
instance adds_includeFolder (env : Setting) (chain : IncludeChain) (folder path : String) :
    (includeFolder env chain folder path).Adds := by
  fun_induction includeFolder env chain folder path <;> infer_instance

instance adds_document (env : Setting) (m : Manifest.Loaded) (globals : Bindings) :
    (document env m globals).Adds := by
  unfold document
  infer_instance

end Resolve
end SvgSkeleton
