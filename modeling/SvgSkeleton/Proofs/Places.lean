import SvgSkeleton.Proofs.Grammar

/-!
Places in a manifest and what is expected there. A place is reached in steps, and at each one a part
is expected: a tag, a font face, or an object of attributes or variables, and on the way lists of
tags and of font faces. A part can be at fault by itself: it is no such part, and would be none if
all that has a place of its own inside it were empty.

Parts are checked in the order of the manifest, and inside an object font faces come before
attributes, these before children, and these before variables. The culprit of a value is the part
that is at fault by itself while whatever comes before it is as it should be.
-/

namespace SvgSkeleton

open Json (Members)

namespace Json

/-- A value under a key without what has a place of its own inside it. -/
def hollowMember (key : String) (v : Json) : Json :=
  if key = "children" then .array []
  else match v with
  | .array items => if key = "fonts" then .array [] else .array items
  | .object m => if key = "attrs" ∨ key = "vars" then .object [] else .object m
  | v => v

def Members.hollow (m : Members) : Members := m.map fun e => (e.1, hollowMember e.1 e.2)

/-- The value without the children, font faces, attributes and variables in it. -/
def hollow : Json → Json
  | .object m => .object (Members.hollow m)
  | v => v

lemma Members.keys_hollow (m : Members) : m.hollow.keys = m.keys := by
  simp [Members.hollow, Members.keys]

lemma Members.find?_hollow (m : Members) (key : String) :
    m.hollow.find? key = (m.find? key).map (hollowMember key) := by
  induction m with
  | nil => rfl
  | cons e rest ih =>
    unfold Members.hollow Members.find? at *
    rw [List.map_cons, Catalog.lookup_cons, Catalog.lookup_cons, ih]
    by_cases hk : key = e.1
    · rw [if_pos hk, if_pos hk, hk]
      rfl
    · rw [if_neg hk, if_neg hk]

lemma hollowMember_of_ne {key : String} (v : Json)
    (h : key ∉ ["fonts", "attrs", "children", "vars"]) : hollowMember key v = v := by
  simp only [List.mem_cons, List.not_mem_nil, or_false, not_or] at h
  obtain ⟨hf, ha, hc, hv⟩ := h
  unfold hollowMember
  rw [if_neg hc]
  split
  · rw [if_neg hf]
  · rw [if_neg (by simp [ha, hv])]
  · rfl

end Json

namespace Manifest

/-! ### Places and what is expected there -/

/-- What may be expected at a place. -/
inductive Part where
  | manifest
  | tag
  | fontFace
  | attributes
  | variables
  | children
  | fontFaces
  deriving DecidableEq, Repr

/-- The key behind a step into an object, and what is expected under it. -/
def Step.member : Step → Option (String × Part)
  | .fonts => some ("fonts", .fontFaces)
  | .attrs => some ("attrs", .attributes)
  | .children => some ("children", .children)
  | .vars => some ("vars", .variables)
  | .item _ => none

namespace Part

/-- What is expected in each place of a list. -/
def items : Part → Option Part
  | .children => some .children
  | .fontFaces => some .fontFace
  | _ => none

/-- By the grammar the value is such a part. -/
def Accepts : Part → Json → Prop
  | .manifest, v => ∃ r, IsManifest v r
  | .tag, v => ∃ t, IsTag v t
  | .fontFace, v => ∃ face, IsFontFace v face
  | .attributes, v => ∃ m b, v = .object m ∧ List.Forall₂ IsBinding m b
  | .variables, v => ∃ m b, v = .object m ∧ List.Forall₂ IsBinding m b ∧
      ∀ d ∈ b, Text.isIdentifier d.1 = true
  | .children, v => ∃ tags, IsForest v tags
  | .fontFaces, v => ∃ items faces, v = .array items ∧ List.Forall₂ IsFontFace items faces

/-- The object has just the keys of the part, so that under each of them something is expected. -/
def Fits : Part → Members → Prop
  | .manifest, m => OnlyKeys m rootKeys
  | .tag, m => ∃ kind, IsOfKind m kind
  | .fontFace, m => OnlyKeys m fontFaceKeys
  | _, _ => False

/-- The value of a part without the parts in it. -/
def bare : Part → Json → Json
  | .manifest, v | .tag, v | .fontFace, v => v.hollow
  | _, v => v

/-- The value is no such part, whatever the parts in it are. -/
structure Faulty (p : Part) (v : Json) : Prop where
  whole : ¬ p.Accepts v
  bare : ¬ p.Accepts (p.bare v)
  single : p.items = none

end Part

/-- Where a value is expected to be a part, a further part is expected at the place that the steps
lead to, and the other value stands there. -/
inductive Stands : Part → Json → List Step → Part → Json → Prop
  | here (p : Part) (v : Json) : Stands p v [] p v
  | sole {m : Members} {steps : List Step} {p : Part} {w : Json} (hm : marks m ≠ [])
      (h : Stands .tag (.object m) steps p w) : Stands .manifest (.object m) steps p w
  | leaf {v : Json} {steps : List Step} {p : Part} {w : Json} (hv : ∀ items, v ≠ .array items)
      (h : Stands .tag v steps p w) : Stands .children v steps p w
  | item {q inner : Part} {items : List Json} {i : Nat} {v : Json} {steps : List Step} {p : Part}
      {w : Json} (hq : q.items = some inner) (hi : items[i]? = some v)
      (h : Stands inner v steps p w) : Stands q (.array items) (.item i :: steps) p w
  | member {q : Part} {m : Members} {s : Step} {key : String} {inner : Part} {v : Json}
      {steps : List Step} {p : Part} {w : Json} (hq : q.Fits m) (hs : s.member = some (key, inner))
      (hf : m.find? key = some v) (h : Stands inner v steps p w) :
      Stands q (.object m) (s :: steps) p w

/-- The order in which the parts of one value are checked. -/
def Step.Before : Step → Step → Prop
  | .item i, .item j => i < j
  | .fonts, .attrs | .fonts, .children | .fonts, .vars => True
  | .attrs, .children | .attrs, .vars => True
  | .children, .vars => True
  | _, _ => False

/-- A place comes before another one and does not contain it. -/
inductive Precedes : List Step → List Step → Prop
  | here {a b : Step} (h : a.Before b) (as bs : List Step) : Precedes (a :: as) (b :: bs)
  | inside (a : Step) {as bs : List Step} (h : Precedes as bs) : Precedes (a :: as) (a :: bs)

/-- What stands behind one step into a value. -/
def Step.into (s : Step) : Json → Option Json
  | .object m => s.member.bind fun e => Members.find? m e.1
  | .array items =>
    match s with
    | .item i => items[i]?
    | _ => none
  | _ => none

end Manifest

/-- What stands at the end of the steps. -/
def Json.follow? (v : Json) (steps : List Manifest.Step) : Option Json :=
  steps.foldlM (fun v s => s.into v) v

namespace Manifest

lemma Stands.follow?_eq {p q : Part} {v w : Json} {steps : List Step} (h : Stands p v steps q w) :
    v.follow? steps = some w := by
  induction h with
  | here => rfl
  | sole _ _ ih => exact ih
  | leaf _ _ ih => exact ih
  | item _ hi _ ih =>
    rw [Json.follow?, List.foldlM_cons]
    exact Option.bind_eq_some_iff.mpr ⟨_, hi, ih⟩
  | member _ hs hf _ ih =>
    rw [Json.follow?, List.foldlM_cons]
    exact Option.bind_eq_some_iff.mpr ⟨_, by rw [Step.into, hs]; exact hf, ih⟩

/-! ### Inside what is as it should be -/

section

variable {m : Members} {key : String} {v : Json}

lemma mem_keys_of_find? (h : m.find? key = some v) : key ∈ m.keys :=
  isSome_find?_iff.mp (Option.isSome_of_eq_some h)

lemma HasBindings.accepts {b : Bindings} (h : HasBindings m "attrs" b)
    (hf : m.find? "attrs" = some v) : Part.attributes.Accepts v := by
  cases h with
  | missing hn => cases hn.symm.trans hf
  | present hp hb =>
    obtain rfl := Option.some.inj (hp.symm.trans hf)
    exact ⟨_, _, rfl, hb⟩

lemma HasVariables.accepts {vars : Bindings} (h : HasVariables m vars)
    (hf : m.find? "vars" = some v) : Part.variables.Accepts v := by
  obtain ⟨hb, hvars⟩ := h
  cases hb with
  | missing hn => cases hn.symm.trans hf
  | present hp hb =>
    obtain rfl := Option.some.inj (hp.symm.trans hf)
    exact ⟨_, _, rfl, hb, hvars⟩

lemma HasChildren.accepts {kids : Option (List Tag)} (h : HasChildren m kids)
    (hf : m.find? "children" = some v) : Part.children.Accepts v := by
  cases h with
  | missing hn => cases hn.symm.trans hf
  | present hp hforest =>
    obtain rfl := Option.some.inj (hp.symm.trans hf)
    exact ⟨_, hforest⟩

/-- What a tag lists under a key is as it should be. -/
lemma IsTag.accepts_member {t : Tag} (h : IsTag (.object m) t) {s : Step} {inner : Part}
    (hs : s.member = some (key, inner)) (hf : m.find? key = some v) : inner.Accepts v := by
  have hmem := mem_keys_of_find? hf
  cases h with
  | container hk _ =>
    have := hk.keys _ hmem
    cases s <;> cases hs <;> exact absurd this (by decide)
  | image hk _ _ ha hc hv =>
    have := hk.keys _ hmem
    cases s <;> cases hs
    · exact hc.accepts hf
    · exact absurd this (by decide)
    · exact ha.accepts hf
    · exact hv.accepts hf
  | font hk hi hfaces ha =>
    have := hk.keys _ hmem
    cases s <;> cases hs
    · exact absurd this (by decide)
    · exact ⟨_, _, Option.some.inj (hf.symm.trans hi), hfaces⟩
    · exact ha.accepts hf
    · exact absurd this (by decide)
  | nestedSvg hk _ ha =>
    have := hk.keys _ hmem
    cases s <;> cases hs
    · exact absurd this (by decide)
    · exact absurd this (by decide)
    · exact ha.accepts hf
    · exact absurd this (by decide)
  | text hk _ _ =>
    have := hk.keys _ hmem
    cases s <;> cases hs <;> exact absurd this (by decide)
  | generic hk _ _ ha hc hv =>
    have := hk.keys _ hmem
    cases s <;> cases hs
    · exact hc.accepts hf
    · exact absurd this (by decide)
    · exact ha.accepts hf
    · exact hv.accepts hf

end

/-- What is expected in a part that is as it should be is so too. -/
lemma Part.Accepts.member {q : Part} {m : Members} (h : q.Accepts (.object m)) (hq : q.Fits m)
    {s : Step} {key : String} {inner : Part} (hs : s.member = some (key, inner)) {v : Json}
    (hf : m.find? key = some v) : inner.Accepts v := by
  have hmem := mem_keys_of_find? hf
  cases q with
  | manifest =>
    obtain ⟨r, ht | ⟨-, ha, hc, hv⟩⟩ := h
    · exact ht.accepts_member hs hf
    · cases s <;> cases hs
      · exact hc.accepts hf
      · exact absurd (hq _ hmem) (by decide)
      · exact ha.accepts hf
      · exact hv.accepts hf
  | tag =>
    obtain ⟨t, ht⟩ := h
    exact ht.accepts_member hs hf
  | fontFace =>
    obtain ⟨face, ⟨-, -, -, ha⟩⟩ := h
    cases s <;> cases hs
    · exact absurd (hq _ hmem) (by decide)
    · exact absurd (hq _ hmem) (by decide)
    · exact ha.accepts hf
    · exact absurd (hq _ hmem) (by decide)
  | _ => exact hq.elim

lemma accepts_of_areForests {items : List Json} {tags : List Tag} {v : Json} :
    AreForests items tags → v ∈ items → Part.children.Accepts v
  | .cons h hr, hv => by
    rcases List.mem_cons.mp hv with rfl | hv
    · exact ⟨_, h⟩
    · exact accepts_of_areForests hr hv

lemma accepts_of_fontFaces {items : List Json} {faces : List FontFace} {v : Json} :
    List.Forall₂ IsFontFace items faces → v ∈ items → Part.fontFace.Accepts v
  | .cons h hr, hv => by
    rcases List.mem_cons.mp hv with rfl | hv
    · exact ⟨_, h⟩
    · exact accepts_of_fontFaces hr hv

lemma Part.Accepts.item {q inner : Part} {items : List Json} (h : q.Accepts (.array items))
    (hq : q.items = some inner) {v : Json} (hv : v ∈ items) : inner.Accepts v := by
  cases q <;> cases hq
  · obtain ⟨tags, ht | ht⟩ := h
    · cases ht
    · exact accepts_of_areForests ht hv
  · obtain ⟨others, faces, heq, hfaces⟩ := h
    obtain rfl := Json.array.inj heq
    exact accepts_of_fontFaces hfaces hv

/-- Where a part is as it should be, so is everything in it. -/
lemma Stands.accepts {p q : Part} {v w : Json} {steps : List Step} (h : Stands p v steps q w)
    (hv : p.Accepts v) : q.Accepts w := by
  induction h with
  | here => exact hv
  | sole hm _ ih =>
    obtain ⟨r, ht | ⟨hk, -, -, -⟩⟩ := hv
    · exact ih ⟨_, ht⟩
    · exact absurd (marks_eq_nil_of_onlyKeys hk) hm
  | leaf hleaf _ ih =>
    obtain ⟨tags, ht | _⟩ := hv
    · exact ih ⟨_, ht⟩
    · exact absurd rfl (hleaf _)
  | item hq hi _ ih => exact ih (hv.item hq (List.mem_of_getElem? hi))
  | member hq hs hf _ ih => exact ih (hv.member hq hs hf)

/-! ### The fault of a value -/

/-- In a value that is expected to be some part, a part at the end of the steps is at fault by
itself, and the parts before it are as they should be. -/
structure Culprit (p : Part) (v : Json) (steps : List Step) : Prop where
  stands : ∃ q w, Stands p v steps q w ∧ q.Faulty w
  before : ∀ places q w, Stands p v places q w → Precedes places steps → q.Accepts w

/-- What an object lists before a step is as it should be. -/
def SoundBefore (m : Members) (s : Step) : Prop :=
  ∀ ⦃a key inner v⦄, Step.Before a s → a.member = some (key, inner) → m.find? key = some v →
    Part.Accepts inner v

namespace Culprit

variable {p : Part} {v : Json} {steps : List Step}

lemma of_faulty (h : p.Faulty v) : Culprit p v [] :=
  ⟨⟨p, v, .here p v, h⟩, fun _ _ _ _ hlt => nomatch hlt⟩

lemma leaf (hv : ∀ items, v ≠ .array items) (h : Culprit .tag v steps) :
    Culprit .children v steps := by
  obtain ⟨⟨q, w, hs, hf⟩, hb⟩ := h
  refine ⟨⟨q, w, .leaf hv hs, hf⟩, fun places q w hw hlt => ?_⟩
  cases hw with
  | here => cases hlt
  | leaf _ hw => exact hb _ _ _ hw hlt
  | item => exact absurd rfl (hv _)
  | member hq => exact hq.elim

lemma sole {m : Members} (hm : marks m ≠ []) (h : Culprit .tag (.object m) steps) :
    Culprit .manifest (.object m) steps := by
  obtain ⟨⟨q, w, hs, hf⟩, hb⟩ := h
  refine ⟨⟨q, w, .sole hm hs, hf⟩, fun places q w hw hlt => ?_⟩
  cases hw with
  | here => cases hlt
  | sole _ hw => exact hb _ _ _ hw hlt
  | member hq => exact absurd (marks_eq_nil_of_onlyKeys hq) hm

lemma item {q : Part} {items : List Json} {i : Nat} (hq : q.items = some p)
    (hi : items[i]? = some v) (h : Culprit p v steps)
    (hbefore : ∀ j u, j < i → items[j]? = some u → p.Accepts u) :
    Culprit q (.array items) (.item i :: steps) := by
  obtain ⟨⟨r, w, hw, hfault⟩, hb⟩ := h
  refine ⟨⟨r, w, .item hq hi hw, hfault⟩, fun places r w hw hlt => ?_⟩
  cases hw with
  | here => cases hlt
  | leaf hv => exact absurd rfl (hv _)
  | item hq' hj hw =>
    obtain rfl := Option.some.inj (hq.symm.trans hq')
    cases hlt with
    | here hlt => exact hw.accepts (hbefore _ _ hlt hj)
    | inside _ hlt =>
      obtain rfl := Option.some.inj (hi.symm.trans hj)
      exact hb _ _ _ hw hlt

/-- A fault in what an object lists is one of the object, if all before it is as it should be. -/
lemma member {q : Part} {m : Members} {s : Step} {key : String} (hq : q.Fits m)
    (hs : s.member = some (key, p)) (hf : m.find? key = some v) (h : Culprit p v steps)
    (hbefore : SoundBefore m s) : Culprit q (.object m) (s :: steps) := by
  obtain ⟨⟨r, w, hw, hfault⟩, hb⟩ := h
  refine ⟨⟨r, w, .member hq hs hf hw, hfault⟩, fun places r w hw hlt => ?_⟩
  cases hw with
  | here => cases hlt
  | sole hm => exact absurd (marks_eq_nil_of_onlyKeys hq) hm
  | leaf => exact hq.elim
  | member _ hs' hf' hw =>
    cases hlt with
    | here hlt => exact hw.accepts (hbefore hlt hs' hf')
    | inside _ hlt =>
      obtain ⟨rfl, rfl⟩ := Prod.mk.inj (Option.some.inj (hs.symm.trans hs'))
      obtain rfl := Option.some.inj (hf.symm.trans hf')
      exact hb _ _ _ hw hlt

end Culprit

end Manifest
end SvgSkeleton
