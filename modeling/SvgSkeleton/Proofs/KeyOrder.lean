import Mathlib.Data.List.Perm.Basic
import SvgSkeleton.Proofs.DistinctKeys
import SvgSkeleton.Proofs.Environment
import SvgSkeleton.Proofs.Grammar

/-!
The order of keys. Where the keys of an object stand does not matter to what is looked up in it, so
a manifest whose objects have their keys in other places stands for the same tags, but for the order
in which variables are defined; and that does not matter to their values, since no name is defined
twice. Only attributes keep the order in which they stand.
-/

namespace SvgSkeleton

namespace Json

mutual

/-- The second value is the first one with the keys of objects in other places. What stands under
the key `attrs` is left as it is. -/
inductive Reordered : Json → Json → Prop
  | same (v : Json) : Reordered v v
  | array {items others : List Json} (h : ReorderedItems items others) :
      Reordered (.array items) (.array others)
  | object {m m' moved : Members} (h : ReorderedMembers m m') (hp : moved.Perm m') :
      Reordered (.object m) (.object moved)

inductive ReorderedItems : List Json → List Json → Prop
  | nil : ReorderedItems [] []
  | cons {v v' : Json} {rest rest' : List Json} (hv : Reordered v v')
      (hr : ReorderedItems rest rest') : ReorderedItems (v :: rest) (v' :: rest')

inductive ReorderedMembers : List (String × Json) → List (String × Json) → Prop
  | nil : ReorderedMembers [] []
  | cons {key : String} {v v' : Json} {rest rest' : List (String × Json)} (hv : Reordered v v')
      (ha : key = "attrs" → v' = v) (hr : ReorderedMembers rest rest') :
      ReorderedMembers ((key, v) :: rest) ((key, v') :: rest')

end

/-- The same is found in the second object as in the first one, up to the order of keys in it. -/
structure Members.Alike (m m' : Members) : Prop where
  mem_keys (key : String) : key ∈ m'.keys ↔ key ∈ m.keys
  find {key : String} {v : Json} (h : m.find? key = some v) :
    ∃ v', m'.find? key = some v' ∧ v.Reordered v' ∧ (key = "attrs" → v' = v)

lemma ReorderedItems.refl (items : List Json) : ReorderedItems items items := by
  induction items with
  | nil => exact .nil
  | cons v rest ih => exact .cons (.same v) ih

lemma exists_of_reordered_array {items : List Json} {w : Json}
    (h : Reordered (.array items) w) :
    ∃ others, w = .array others ∧ ReorderedItems items others := by
  cases h with
  | same => exact ⟨items, rfl, .refl items⟩
  | array h => exact ⟨_, rfl, h⟩

lemma keys_of_reorderedMembers {m m' : Members} (h : ReorderedMembers m m') :
    m'.keys = m.keys := by
  induction m generalizing m' with
  | nil =>
    cases h
    rfl
  | cons e rest ih =>
    cases h with
    | @cons key _ _ _ _ _ _ hr => exact congrArg (key :: ·) (ih hr)

lemma find_of_reorderedMembers {m m' : Members} (h : ReorderedMembers m m') {key : String}
    {v : Json} (hf : m.find? key = some v) :
    ∃ v', m'.find? key = some v' ∧ v.Reordered v' ∧ (key = "attrs" → v' = v) := by
  induction m generalizing m' with
  | nil => cases hf
  | cons e rest ih =>
    cases h with
    | @cons k w w' rest rest' hv ha hr =>
      rw [Members.find?, Catalog.lookup_cons] at hf ⊢
      split at hf
      · next hk =>
        obtain rfl := Option.some.inj hf
        rw [if_pos hk]
        exact ⟨w', rfl, hv, fun he => ha (hk.symm.trans he)⟩
      · next hk =>
        rw [if_neg hk]
        exact ih hr hf

/-- In an object without repeated keys, the order of the members does not matter. -/
lemma find_of_perm {m m' : Members} (hp : m'.Perm m) (hn : m.keys.Nodup) (key : String) :
    m'.find? key = m.find? key := by
  have hn' : m'.keys.Nodup := (hp.map Prod.fst).nodup_iff.mpr hn
  refine Option.ext fun v => ?_
  rw [Members.find?, Members.find?, lookup_eq_some_iff_mem hn, lookup_eq_some_iff_mem hn',
    hp.mem_iff]

lemma exists_of_reordered_object {m : Members} {w : Json} (hd : (object m).Distinct)
    (h : Reordered (.object m) w) : ∃ m' : Members, w = .object m' ∧ m.Alike m' := by
  cases h with
  | same => exact ⟨m, rfl, fun _ => .rfl, fun hf => ⟨_, hf, .same _, fun _ => rfl⟩⟩
  | @object _ m' moved h hp =>
    have hn : (Members.keys m').Nodup := by
      rw [keys_of_reorderedMembers h]
      exact hd.1
    refine ⟨moved, rfl, fun key => ?_, fun hf => ?_⟩
    · rw [← keys_of_reorderedMembers h]
      exact (hp.map (·.1)).mem_iff
    · rw [find_of_perm hp hn]
      exact find_of_reorderedMembers h hf

lemma distinct_of_find {m : Members} (hd : (object m).Distinct) {key : String} {v : Json}
    (hf : m.find? key = some v) : v.Distinct :=
  distinctMembers_iff.mp hd.2 _ ((lookup_eq_some_iff_mem hd.1).mp hf)

namespace Members.Alike

variable {m m' : Members} (h : m.Alike m') {key : String}
include h

lemma find_eq_none (hf : m.find? key = none) : m'.find? key = none := by
  rw [← Option.not_isSome_iff_eq_none, Manifest.isSome_find?_iff] at hf ⊢
  exact fun hk => hf ((h.mem_keys key).mp hk)

lemma find_string {s : String} (hf : m.find? key = some (.string s)) :
    m'.find? key = some (.string s) := by
  obtain ⟨v', hf', hr, -⟩ := h.find hf
  cases hr
  exact hf'

lemma find_bool {b : Bool} (hf : m.find? key = some (.bool b)) :
    m'.find? key = some (.bool b) := by
  obtain ⟨v', hf', hr, -⟩ := h.find hf
  cases hr
  exact hf'

end Members.Alike

end Json

/-! ### Variables -/

/-- Do the two lists give every name the same value? -/
def Bindings.SameValues (a b : Bindings) : Prop := ∀ name, a.last? name = b.last? name

lemma Bindings.sameValues_of_perm {a b : Bindings} (hp : a.Perm b) (hn : (a.map (·.1)).Nodup) :
    a.SameValues b := by
  have hr (l : Bindings) (h : (l.map (·.1)).Nodup) : (l.reverse.map (·.1)).Nodup := by
    rw [List.map_reverse]
    exact List.nodup_reverse.mpr h
  intro name
  refine Option.ext fun value => ?_
  rw [last?, last?, lookup_eq_some_iff_mem (hr a hn),
    lookup_eq_some_iff_mem (hr b ((hp.map _).nodup_iff.mp hn)), List.mem_reverse,
    List.mem_reverse, hp.mem_iff]

namespace Manifest

open Json (Members)

/-! ### Values without tags in them -/

section

variable {m m' : Members} (h : m.Alike m')
include h

lemma OnlyKeys.reordered {allowed : List String} (hk : OnlyKeys m allowed) : OnlyKeys m' allowed :=
  fun key hm => hk key ((h.mem_keys key).mp hm)

lemma IsOfKind.reordered {kind : Kind} (hk : IsOfKind m kind) : IsOfKind m' kind :=
  ⟨fun k => (h.mem_keys k.mark).trans (hk.mark k), hk.keys.reordered h⟩

lemma MayHaveString.reordered {key : String} {o : Option String} (ho : MayHaveString m key o) :
    MayHaveString m' key o := by
  rcases ho with hf | hf
  · exact .missing (h.find_eq_none hf)
  · exact .present (h.find_string hf)

lemma MayHaveBool.reordered {key : String} {o : Option Bool} (ho : MayHaveBool m key o) :
    MayHaveBool m' key o := by
  rcases ho with hf | hf
  · exact .missing (h.find_eq_none hf)
  · exact .present (h.find_bool hf)

lemma HasSource.reordered {source : FontSource} (hs : HasSource m source) :
    HasSource m' source := by
  rcases hs with ⟨hb, hp⟩ | ⟨hb, hp⟩
  · exact .bundled (h.find_bool hb) (h.find_eq_none hp)
  · exact .file (h.find_eq_none hb) (h.find_string hp)

/-- Attributes stand in the same order. -/
lemma HasBindings.reordered {attrs : Bindings} (ha : HasBindings m "attrs" attrs) :
    HasBindings m' "attrs" attrs := by
  rcases ha with hf | ⟨hf, hb⟩
  · exact .missing (h.find_eq_none hf)
  · obtain ⟨v', hf', -, he⟩ := h.find hf
    rw [he rfl] at hf'
    exact .present hf' hb

end

lemma names_of_isBinding {members : Members} {b : Bindings}
    (h : List.Forall₂ IsBinding members b) : b.map (·.1) = members.keys := by
  induction h with
  | nil => rfl
  | cons he _ ih => exact congrArg₂ _ he.1.symm ih

/-- Strings and numbers are not reordered. -/
lemma eq_of_reorderedMembers {members others : Members} {b : Bindings}
    (h : List.Forall₂ IsBinding members b) (hr : Json.ReorderedMembers members others) :
    others = members := by
  induction h generalizing others with
  | nil =>
    cases hr
    rfl
  | @cons m b _ _ he _ ih =>
    obtain ⟨-, hs⟩ := he
    cases hr with
    | cons hv _ hr =>
      obtain rfl := ih hr
      obtain ⟨name, value⟩ := b
      cases hs <;> cases hv <;> rfl

/-- Variables may stand in another order, with the same values. -/
lemma HasVariables.reordered {m m' : Members} (h : m.Alike m') (hd : (Json.object m).Distinct)
    {vars : Bindings} (hv : HasVariables m vars) :
    ∃ vars', HasVariables m' vars' ∧ vars.SameValues vars' := by
  obtain ⟨hb, hi⟩ := hv
  rcases hb with hf | @⟨members, _, hf, hb⟩
  · exact ⟨[], ⟨.missing (h.find_eq_none hf), hi⟩, fun _ => rfl⟩
  · obtain ⟨w, hf', hr, -⟩ := h.find hf
    have hn : (vars.map (·.1)).Nodup := by
      rw [names_of_isBinding hb]
      exact (Json.distinct_of_find hd hf).1
    cases hr with
    | same => exact ⟨vars, ⟨.present hf' hb, hi⟩, fun _ => rfl⟩
    | object hr hp =>
      obtain rfl := eq_of_reorderedMembers hb hr
      obtain ⟨vars', hb', hp'⟩ := List.perm_comp_forall₂ hp hb
      refine ⟨vars', ⟨.present hf' hb', fun v hm => hi v (hp'.mem_iff.mp hm)⟩, ?_⟩
      exact Bindings.sameValues_of_perm hp'.symm hn

lemma IsFontFace.reordered {v w : Json} {face : FontFace} (hd : v.Distinct) (hr : v.Reordered w)
    (hf : IsFontFace v face) : IsFontFace w face := by
  obtain ⟨hk, hn, hs, ha⟩ := hf
  obtain ⟨m', rfl, h⟩ := Json.exists_of_reordered_object hd hr
  exact .face (hk.reordered h) (h.find_string hn) (hs.reordered h) (ha.reordered h)

lemma fontFaces_reordered {items others : List Json} {faces : List FontFace}
    (hd : Json.DistinctItems items) (hr : Json.ReorderedItems items others)
    (hf : List.Forall₂ IsFontFace items faces) : List.Forall₂ IsFontFace others faces := by
  induction hf generalizing others with
  | nil =>
    cases hr
    exact .nil
  | cons hface _ ih =>
    cases hr with
    | cons hv hr => exact .cons (hface.reordered hd.1 hv) (ih hd.2 hr)

/-! ### Tags -/

mutual

/-- The tags are the same but for the order in which they define variables. -/
inductive Tag.Alike : Tag → Tag → Prop
  | container (path : String) : Tag.Alike (.container path) (.container path)
  | image {path : String} {kind : Option String} {attrs vars vars' : Bindings}
      {kids kids' : Option (List Tag)} (hv : vars.SameValues vars')
      (hk : ChildrenAlike kids kids') :
      Tag.Alike (.image path kind attrs vars kids) (.image path kind attrs vars' kids')
  | font (faces : List FontFace) (attrs : Bindings) :
      Tag.Alike (.font faces attrs) (.font faces attrs)
  | nestedSvg (path : String) (attrs : Bindings) :
      Tag.Alike (.nestedSvg path attrs) (.nestedSvg path attrs)
  | text (content : String) (raw : Bool) : Tag.Alike (.text content raw) (.text content raw)
  | generic {name : String} {attrs vars vars' : Bindings} {kids kids' : Option (List Tag)}
      (hv : vars.SameValues vars') (hk : ChildrenAlike kids kids') :
      Tag.Alike (.generic name attrs vars kids) (.generic name attrs vars' kids')

inductive ChildrenAlike : Option (List Tag) → Option (List Tag) → Prop
  | none : ChildrenAlike none none
  | some {tags tags' : List Tag} (h : TagsAlike tags tags') :
      ChildrenAlike (some tags) (some tags')

inductive TagsAlike : List Tag → List Tag → Prop
  | nil : TagsAlike [] []
  | cons {t t' : Tag} {rest rest' : List Tag} (ht : t.Alike t') (hr : TagsAlike rest rest') :
      TagsAlike (t :: rest) (t' :: rest')

end

/-- The manifests are the same but for the order in which variables are defined. -/
structure Root.Alike (r r' : Root) : Prop where
  attrs : r'.attrs = r.attrs
  vars : r.vars.SameValues r'.vars
  children : ChildrenAlike r.children r'.children

lemma TagsAlike.append {a a' b b' : List Tag} (ha : TagsAlike a a') (hb : TagsAlike b b') :
    TagsAlike (a ++ b) (a' ++ b') := by
  induction a generalizing a' with
  | nil =>
    cases ha
    exact hb
  | cons t rest ih =>
    cases ha with
    | cons ht hr => exact .cons ht (ih hr)

mutual

/-- What a value stands for as a tag, it stands for with its keys in other places. -/
theorem IsTag.reordered {v w : Json} {t : Tag} (hd : v.Distinct) (hr : v.Reordered w) :
    IsTag v t → ∃ t', IsTag w t' ∧ t.Alike t'
  | .string s => by
    cases hr
    exact ⟨_, .string s, .text s false⟩
  | .container hk hp => by
    obtain ⟨m', rfl, h⟩ := Json.exists_of_reordered_object hd hr
    exact ⟨_, .container (hk.reordered h) (h.find_string hp), .container _⟩
  | .image hk hp ht ha hc hv => by
    obtain ⟨m', rfl, h⟩ := Json.exists_of_reordered_object hd hr
    obtain ⟨kids', hc', hkids⟩ := HasChildren.reordered hd h hc
    obtain ⟨vars', hv', hvars⟩ := hv.reordered h hd
    exact ⟨_, .image (hk.reordered h) (h.find_string hp) (ht.reordered h) (ha.reordered h) hc' hv',
      .image hvars hkids⟩
  | .font hk hi hf ha => by
    obtain ⟨m', rfl, h⟩ := Json.exists_of_reordered_object hd hr
    obtain ⟨w, hi', hw, -⟩ := h.find hi
    obtain ⟨others, rfl, hitems⟩ := Json.exists_of_reordered_array hw
    have hf' := fontFaces_reordered (Json.distinct_of_find hd hi) hitems hf
    exact ⟨_, .font (hk.reordered h) hi' hf' (ha.reordered h), .font _ _⟩
  | .nestedSvg hk hp ha => by
    obtain ⟨m', rfl, h⟩ := Json.exists_of_reordered_object hd hr
    exact ⟨_, .nestedSvg (hk.reordered h) (h.find_string hp) (ha.reordered h), .nestedSvg _ _⟩
  | .text hk ht hraw => by
    obtain ⟨m', rfl, h⟩ := Json.exists_of_reordered_object hd hr
    exact ⟨_, .text (hk.reordered h) (h.find_string ht) (hraw.reordered h), .text _ _⟩
  | .generic hk hn hne ha hc hv => by
    obtain ⟨m', rfl, h⟩ := Json.exists_of_reordered_object hd hr
    obtain ⟨kids', hc', hkids⟩ := HasChildren.reordered hd h hc
    obtain ⟨vars', hv', hvars⟩ := hv.reordered h hd
    exact ⟨_, .generic (hk.reordered h) (h.find_string hn) hne (ha.reordered h) hc' hv',
      .generic hvars hkids⟩

theorem IsForest.reordered {v w : Json} {tags : List Tag} (hd : v.Distinct) (hr : v.Reordered w) :
    IsForest v tags → ∃ tags', IsForest w tags' ∧ TagsAlike tags tags'
  | .tag h => by
    obtain ⟨t', ht, ha⟩ := IsTag.reordered hd hr h
    exact ⟨_, .tag ht, .cons ha .nil⟩
  | .array h => by
    obtain ⟨others, rfl, hitems⟩ := Json.exists_of_reordered_array hr
    obtain ⟨tags', ht, ha⟩ := AreForests.reordered hd hitems h
    exact ⟨_, .array ht, ha⟩

theorem AreForests.reordered {items others : List Json} {tags : List Tag}
    (hd : Json.DistinctItems items) (hr : Json.ReorderedItems items others) :
    AreForests items tags → ∃ tags', AreForests others tags' ∧ TagsAlike tags tags'
  | .nil => by
    cases hr
    exact ⟨_, .nil, .nil⟩
  | .cons h hrest => by
    cases hr with
    | cons hv hr =>
      obtain ⟨tags', ht, ha⟩ := IsForest.reordered hd.1 hv h
      obtain ⟨others', ho, hb⟩ := AreForests.reordered hd.2 hr hrest
      exact ⟨_, .cons ht ho, ha.append hb⟩

theorem HasChildren.reordered {m m' : Members} {kids : Option (List Tag)}
    (hd : (Json.object m).Distinct) (h : m.Alike m') :
    HasChildren m kids → ∃ kids', HasChildren m' kids' ∧ ChildrenAlike kids kids'
  | .missing hf => ⟨_, .missing (h.find_eq_none hf), .none⟩
  | .present hf hforest => by
    obtain ⟨w, hf', hw, -⟩ := h.find hf
    obtain ⟨tags', ht, ha⟩ := IsForest.reordered (Json.distinct_of_find hd hf) hw hforest
    exact ⟨_, .present hf' ht, .some ha⟩

end

lemma marks_reordered {m m' : Members} (h : m.Alike m') : marks m' = marks m := by
  refine List.filter_congr fun k _ => ?_
  rw [Bool.eq_iff_iff, isSome_find?_iff, isSome_find?_iff]
  exact h.mem_keys k.mark

/-- **A manifest with its keys in other places is read as the same manifest**, but for the order in
which variables are defined. -/
theorem ofJson_reordered {v w : Json} {r : Root} (hd : v.Distinct) (hr : v.Reordered w)
    (hread : ofJson v = .ok r) : ∃ r', ofJson w = .ok r' ∧ r.Alike r' := by
  cases v with
  | object m =>
    obtain ⟨m', rfl, h⟩ := Json.exists_of_reordered_object hd hr
    have hmarks := marks_reordered h
    by_cases hm : marks m = []
    · obtain ⟨hk, ha, hc, hv⟩ := (ofJson_eq_ok_iff_of_no_marks hm).mp hread
      obtain ⟨kids', hc', hkids⟩ := hc.reordered hd h
      obtain ⟨vars', hv', hvars⟩ := hv.reordered h hd
      refine ⟨⟨r.attrs, vars', kids'⟩, ?_, rfl, hvars, hkids⟩
      exact (ofJson_eq_ok_iff_of_no_marks (hmarks.trans hm)).mpr
        ⟨hk.reordered h, ha.reordered h, hc', hv'⟩
    · obtain ⟨t, ht, rfl⟩ := (ofJson_eq_ok_iff_of_marks hm).mp hread
      obtain ⟨t', ht', halike⟩ := ht.reordered hd hr
      refine ⟨_, (ofJson_eq_ok_iff_of_marks (hmarks ▸ hm)).mpr ⟨t', ht', rfl⟩, ?_⟩
      exact ⟨rfl, fun _ => rfl, .some (.cons halike .nil)⟩
  | _ => cases hread

end Manifest
end SvgSkeleton
