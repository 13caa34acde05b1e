import SvgSkeleton.Proofs.KeyOrder

/-!
Children in lists. Where children are expected, lists are taken apart down to the values in them
that are no lists: these are the leaves, and each of them is one tag. So the tags are told by the
leaves alone, and a manifest says the same however its leaves are grouped.
-/

namespace SvgSkeleton

namespace Json

mutual

/-- The values in a value that are no lists, from left to right. -/
def leaves : Json → List Json
  | .array items => leavesOf items
  | v => [v]

def leavesOf : List Json → List Json
  | [] => []
  | v :: rest => v.leaves ++ leavesOf rest

end

mutual

/-- The same value but for the grouping of children, at any depth. -/
inductive Regrouped : Json → Json → Prop
  | same (v : Json) : Regrouped v v
  | object {m m' : List (String × Json)} (h : RegroupedMembers m m') :
      Regrouped (.object m) (.object m')

inductive RegroupedItems : List Json → List Json → Prop
  | nil : RegroupedItems [] []
  | cons {v w : Json} {rest others : List Json} (h : Regrouped v w)
      (hr : RegroupedItems rest others) : RegroupedItems (v :: rest) (w :: others)

inductive RegroupedMembers : List (String × Json) → List (String × Json) → Prop
  | nil : RegroupedMembers [] []
  | keep {rest others : List (String × Json)} (e : String × Json)
      (hr : RegroupedMembers rest others) : RegroupedMembers (e :: rest) (e :: others)
  | children {v w : Json} {rest others : List (String × Json)}
      (h : RegroupedItems v.leaves w.leaves) (hr : RegroupedMembers rest others) :
      RegroupedMembers (("children", v) :: rest) (("children", w) :: others)

end

mutual

theorem Regrouped.symm {v w : Json} : Regrouped v w → Regrouped w v
  | .same v => .same v
  | .object h => .object h.symm

theorem RegroupedItems.symm {items others : List Json} :
    RegroupedItems items others → RegroupedItems others items
  | .nil => .nil
  | .cons h hr => .cons h.symm hr.symm

theorem RegroupedMembers.symm {m m' : List (String × Json)} :
    RegroupedMembers m m' → RegroupedMembers m' m
  | .nil => .nil
  | .keep e hr => .keep e hr.symm
  | .children h hr => .children h.symm hr.symm

end

lemma RegroupedItems.refl (items : List Json) : RegroupedItems items items := by
  induction items with
  | nil => exact .nil
  | cons v rest ih => exact .cons (.same v) ih

namespace RegroupedMembers

/-- Members stay where they are, and only those under the key `children` may change. -/
lemma forall₂ {m m' : Members} : RegroupedMembers m m' →
    List.Forall₂ (fun e e' => e'.1 = e.1 ∧ (e.1 ≠ "children" → e' = e)) m m'
  | .nil => .nil
  | .keep _ hr => .cons ⟨rfl, fun _ => rfl⟩ hr.forall₂
  | .children _ hr => .cons ⟨rfl, fun hne => absurd rfl hne⟩ hr.forall₂

variable {m m' : Members} (h : RegroupedMembers m m')
include h

lemma keys_eq : m'.keys = m.keys := by
  replace h := h.forall₂
  induction h with
  | nil => rfl
  | cons he _ ih =>
    rw [Members.keys, List.map_cons, he.1]
    exact congrArg _ ih

lemma find?_eq {key : String} (hk : key ≠ "children") : m'.find? key = m.find? key := by
  replace h := h.forall₂
  induction h with
  | nil => rfl
  | @cons e e' rest others he _ ih =>
    rw [Members.find?, Members.find?, Catalog.lookup_cons, Catalog.lookup_cons, he.1]
    by_cases hkey : key = e.1
    · rw [if_pos hkey, if_pos hkey, he.2 (hkey ▸ hk)]
    · rw [if_neg hkey, if_neg hkey]
      exact ih

end RegroupedMembers
end Json

namespace Manifest

open Json (Members Regrouped RegroupedItems RegroupedMembers)

/-! ### One tag for each leaf -/

lemma tagOf_eq_ok_iff {l : Location} {v : Json} {t : Tag} : tagOf l v = .ok t ↔ IsTag v t := by
  cases v with
  | object m => exact tagOf_object_eq_ok_iff
  | string s =>
    constructor
    · intro h
      obtain rfl := Except.ok.inj h
      exact .string s
    · rintro ⟨⟩
      rfl
  | _ => exact iff_of_false (fun h => nomatch h) (fun h => nomatch h)

/-- Lists of tags are read as the tags that their leaves are. -/
lemma forest_iff_leaves :
    (∀ v tags, IsForest v tags ↔ List.Forall₂ IsTag v.leaves tags) ∧
      ∀ items tags, AreForests items tags ↔ List.Forall₂ IsTag (Json.leavesOf items) tags := by
  refine Json.leaves.mutual_induct _ _ ?array ?leaf ?nil ?cons
  case array =>
    intro items ih tags
    rw [Json.leaves, ← ih]
    constructor
    · rintro (h | h)
      · cases h
      · exact h
    · exact .array
  case leaf =>
    intro v hv tags
    rw [Json.leaves.eq_2 v hv]
    constructor
    · rintro (h | h)
      · exact .cons h .nil
      · exact absurd rfl (hv _)
    · rintro (_ | ⟨h, ⟨⟩⟩)
      exact .tag h
  case nil =>
    intro tags
    rw [Json.leavesOf]
    constructor
    · rintro ⟨⟩
      exact .nil
    · rintro ⟨⟩
      exact .nil
  case cons =>
    intro v rest ihv ihrest tags
    rw [Json.leavesOf]
    constructor
    · rintro (_ | ⟨h, hr⟩)
      exact List.rel_append ((ihv _).mp h) ((ihrest _).mp hr)
    · intro h
      have hfirst := (List.forall₂_take_append _ _ _ h.flip).flip
      have hrest := (List.forall₂_drop_append _ _ _ h.flip).flip
      rw [← List.take_append_drop v.leaves.length tags]
      exact .cons ((ihv _).mpr hfirst) ((ihrest _).mpr hrest)

lemma isForest_iff_leaves {v : Json} {tags : List Tag} :
    IsForest v tags ↔ List.Forall₂ IsTag v.leaves tags := forest_iff_leaves.1 v tags

/-! ### Other groups -/

section

variable {m m' : Members} (h : RegroupedMembers m m')
include h

lemma OnlyKeys.regrouped {allowed : List String} (hk : OnlyKeys m allowed) :
    OnlyKeys m' allowed :=
  fun key hm => hk key (h.keys_eq ▸ hm)

lemma IsOfKind.regrouped {kind : Kind} (hk : IsOfKind m kind) : IsOfKind m' kind :=
  ⟨fun k => by rw [h.keys_eq, hk.mark], hk.keys.regrouped h⟩

lemma MayHaveString.regrouped {key : String} {o : Option String} (hkey : key ≠ "children")
    (ho : MayHaveString m key o) : MayHaveString m' key o := by
  cases ho with
  | missing hf => exact .missing ((h.find?_eq hkey).trans hf)
  | present hf => exact .present ((h.find?_eq hkey).trans hf)

lemma MayHaveBool.regrouped {key : String} {o : Option Bool} (hkey : key ≠ "children")
    (ho : MayHaveBool m key o) : MayHaveBool m' key o := by
  cases ho with
  | missing hf => exact .missing ((h.find?_eq hkey).trans hf)
  | present hf => exact .present ((h.find?_eq hkey).trans hf)

lemma HasBindings.regrouped {key : String} {b : Bindings} (hkey : key ≠ "children")
    (hb : HasBindings m key b) : HasBindings m' key b := by
  cases hb with
  | missing hf => exact .missing ((h.find?_eq hkey).trans hf)
  | present hf hb => exact .present ((h.find?_eq hkey).trans hf) hb

lemma HasVariables.regrouped {vars : Bindings} (hv : HasVariables m vars) :
    HasVariables m' vars :=
  ⟨hv.1.regrouped h (by decide), hv.2⟩

/-- An object stands for the same tag with its children in other groups, if they do. -/
lemma IsTag.of_regroupedMembers (hkids : ∀ kids, HasChildren m kids → HasChildren m' kids)
    {t : Tag} (ht : IsTag (.object m) t) : IsTag (.object m') t := by
  have hfind {key : String} {v : Json} (hne : key ≠ "children") (hf : m.find? key = some v) :
      m'.find? key = some v := (h.find?_eq hne).trans hf
  cases ht with
  | container hk hp => exact .container (hk.regrouped h) (hfind (by decide) hp)
  | image hk hp ht ha hc hv =>
    exact .image (hk.regrouped h) (hfind (by decide) hp) (ht.regrouped h (by decide))
      (ha.regrouped h (by decide)) (hkids _ hc) (hv.regrouped h)
  | font hk hi hf ha =>
    exact .font (hk.regrouped h) (hfind (by decide) hi) hf (ha.regrouped h (by decide))
  | nestedSvg hk hp ha =>
    exact .nestedSvg (hk.regrouped h) (hfind (by decide) hp) (ha.regrouped h (by decide))
  | text hk ht hr =>
    exact .text (hk.regrouped h) (hfind (by decide) ht) (hr.regrouped h (by decide))
  | generic hk hn hne ha hc hv =>
    exact .generic (hk.regrouped h) (hfind (by decide) hn) hne (ha.regrouped h (by decide))
      (hkids _ hc) (hv.regrouped h)

end

mutual

theorem IsTag.regrouped {v w : Json} : v.Regrouped w → ∀ {t}, IsTag v t → IsTag w t
  | .same _, _, ht => ht
  | .object h, _, ht => ht.of_regroupedMembers h fun _ => HasChildren.regrouped h

theorem areTags_regrouped {items others : List Json} : RegroupedItems items others →
    ∀ {tags}, List.Forall₂ IsTag items tags → List.Forall₂ IsTag others tags
  | .nil, _, ht => ht
  | .cons h hr, _, .cons ht hts => .cons (IsTag.regrouped h ht) (areTags_regrouped hr hts)

theorem HasChildren.regrouped {m m' : Members} : RegroupedMembers m m' →
    ∀ {kids}, HasChildren m kids → HasChildren m' kids
  | .nil, _, hc => hc
  | .keep (key, v) hr, _, hc => by
    by_cases hk : key = "children"
    · subst hk
      exact hasChildren_cons_children.mpr (hasChildren_cons_children.mp hc)
    · exact (hasChildren_cons_of_ne hk).mpr
        (HasChildren.regrouped hr ((hasChildren_cons_of_ne hk).mp hc))
  | .children h hr, _, hc => by
    obtain ⟨tags, rfl, ht⟩ := hasChildren_cons_children.mp hc
    have hl := areTags_regrouped h (isForest_iff_leaves.mp ht)
    exact hasChildren_cons_children.mpr ⟨tags, rfl, isForest_iff_leaves.mpr hl⟩

end

lemma marks_regrouped {m m' : Members} (h : RegroupedMembers m m') : marks m' = marks m := by
  refine List.filter_congr fun k _ => ?_
  rw [Bool.eq_iff_iff, isSome_find?_iff, isSome_find?_iff, h.keys_eq]

/-- **A manifest with its children in other groups is read as the same manifest.** -/
theorem ofJson_regrouped {v w : Json} {r : Root} (hr : v.Regrouped w) (hread : ofJson v = .ok r) :
    ofJson w = .ok r := by
  cases hr with
  | same => exact hread
  | @object m m' h =>
    have hmarks := marks_regrouped h
    by_cases hm : marks m = []
    · obtain ⟨hk, ha, hc, hv⟩ := (ofJson_eq_ok_iff_of_no_marks hm).mp hread
      refine (ofJson_eq_ok_iff_of_no_marks (hmarks.trans hm)).mpr ⟨hk.regrouped h, ?_, ?_, ?_⟩
      · exact ha.regrouped h (by decide)
      · exact HasChildren.regrouped h hc
      · exact hv.regrouped h
    · obtain ⟨t, ht, rfl⟩ := (ofJson_eq_ok_iff_of_marks hm).mp hread
      have ht := IsTag.regrouped (.object h) ht
      exact (ofJson_eq_ok_iff_of_marks (hmarks ▸ hm)).mpr ⟨t, ht, rfl⟩

end Manifest
end SvgSkeleton
