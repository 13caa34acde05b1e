import SvgSkeleton.Proofs.Places
import SvgSkeleton.Proofs.Placeholders

/-!
The place of a fault. A manifest that is refused is refused at a place, which is written as a path
into it. The path is read in one way only, and what stands there is the culprit.

Reading follows the value downwards, so a fault is found from the inside out: the fault of a part is
one of the whole if what is read before the part is as it should be. A reading that fails at the
object itself does not look into the parts in it, so it fails in the same way when they are empty.
-/

namespace SvgSkeleton
namespace Manifest

open Json (Members)

/-! ### Faults of an object itself -/

/-- If the first reading fails at the place itself, the second fails too, wherever. -/
def FailsAlong {α β : Type} (l : Location) (x : Checked α) (y : Checked β) : Prop :=
  ∀ f, x = .error ⟨l, f⟩ → ∃ e, y = .error e

namespace FailsAlong

variable {α β γ : Type} {l : Location}

lemma refl (x : Checked α) : FailsAlong l x x := fun _ h => ⟨_, h⟩

lemma of_inside {x : Checked α} (h : ∀ e, x = .error e → e.location ≠ l) (y : Checked β) :
    FailsAlong l x y := fun _ hx => absurd rfl (h _ hx)

lemma bind {x : Checked α} {y : Checked β} {f : α → Checked γ} {g : β → Checked γ}
    (h : FailsAlong l x y) (hf : ∀ a b, FailsAlong l (f a) (g b)) :
    FailsAlong l (x >>= f) (y >>= g) := by
  intro fault he
  cases y with
  | error e => exact ⟨e, rfl⟩
  | ok b =>
    rcases bind_eq_error_iff.mp he with hx | ⟨a, -, ha⟩
    · obtain ⟨e, hy⟩ := h fault hx
      cases hy
    · exact hf a b fault ha

/-- The same reading, followed by readings of which one fails along with the other. -/
lemma bind_same {x : Checked α} {f g : α → Checked γ} (hf : ∀ a, FailsAlong l (f a) (g a)) :
    FailsAlong l (x >>= f) (x >>= g) := by
  intro fault he
  rcases bind_eq_error_iff.mp he with hx | ⟨a, hx, ha⟩
  · exact ⟨_, bind_eq_error_iff.mpr (.inl hx)⟩
  · obtain ⟨e, he⟩ := hf a fault ha
    exact ⟨e, bind_eq_error_iff.mpr (.inr ⟨a, hx, he⟩)⟩

end FailsAlong

section

variable {l : Location} {m : Members} {key : String}

lemma Location.step_ne (l : Location) (s : Step) : l.step s ≠ l := by
  intro h
  have := congrArg (·.steps.length) h
  simp [Location.step] at this

lemma marks_hollow : marks m.hollow = marks m := by
  unfold marks
  simp only [Members.find?_hollow, Option.isSome_map]

lemma classify_hollow : classify l m.hollow = classify l m := by
  unfold classify
  rw [marks_hollow]

lemma checkKeys_hollow {owner : String} {allowed : List String} :
    checkKeys l m.hollow owner allowed = checkKeys l m owner allowed := by
  unfold checkKeys
  rw [Members.keys_hollow]

lemma find?_hollow_of_ne (h : key ∉ ["fonts", "attrs", "children", "vars"]) :
    m.hollow.find? key = m.find? key := by
  rw [Members.find?_hollow]
  cases m.find? key with
  | none => rfl
  | some v => exact congrArg some (Json.hollowMember_of_ne v h)

lemma string?_hollow (h : key ∉ ["fonts", "attrs", "children", "vars"]) :
    string? l m.hollow key = string? l m key := by
  unfold string?
  rw [find?_hollow_of_ne h]

lemma bool?_hollow (h : key ∉ ["fonts", "attrs", "children", "vars"]) :
    bool? l m.hollow key = bool? l m key := by
  unfold bool?
  rw [find?_hollow_of_ne h]

lemma string_hollow (h : key ∉ ["fonts", "attrs", "children", "vars"]) :
    string l m.hollow key = string l m key := by
  unfold string
  rw [string?_hollow h]

lemma tagName_hollow : tagName l m.hollow = tagName l m := by
  unfold tagName
  rw [string_hollow (by decide)]

lemma exists_of_mapM_scalar {members : Members} {e : Invalid}
    (h : members.mapM (scalar l) = .error e) : e.location = l := by
  obtain ⟨a, -, ha⟩ := exists_of_mapM_eq_error h
  unfold scalar at ha
  split at ha
  · cases ha
  · cases ha
  · obtain rfl := Except.error.inj ha
    rfl

/-- Bindings fail at their owner if they are no object, and else at themselves. -/
lemma bindings_eq_error {step : Step} {e : Invalid} (h : bindings l m key step = .error e) :
    (∃ v, m.find? key = some v ∧ (∀ ms, v ≠ .object ms) ∧ e.location = l) ∨
      ∃ ms, m.find? key = some (.object ms) ∧ e.location = l.step step ∧
        ¬ ∃ b, List.Forall₂ IsBinding ms b := by
  unfold bindings at h
  split at h
  · cases h
  · next ms hf =>
    refine .inr ⟨ms, hf, exists_of_mapM_scalar h, ?_⟩
    rintro ⟨b, hb⟩
    have hok : ms.mapM (scalar (l.step step)) = .ok b :=
      mapM_eq_ok_iff.mpr (hb.imp fun _ _ => scalar_eq_ok_iff.mpr)
    cases h.symm.trans hok
  · next v hne hf =>
    obtain rfl := Except.error.inj h
    exact .inl ⟨v, hf, fun ms => hne ms, rfl⟩

lemma hollowMember_of_not_object {v : Json} (hk : key = "attrs" ∨ key = "vars")
    (hv : ∀ ms, v ≠ .object ms) : Json.hollowMember key v = v := by
  have hc : key ≠ "children" := by rintro rfl; simp at hk
  have hf : key ≠ "fonts" := by rintro rfl; simp at hk
  unfold Json.hollowMember
  rw [if_neg hc]
  split
  · rw [if_neg hf]
  · exact absurd rfl (hv _)
  · rfl

lemma failsAlong_bindings {step : Step} (hk : key = "attrs" ∨ key = "vars") :
    FailsAlong l (bindings l m key step) (bindings l m.hollow key step) := by
  intro fault h
  rcases bindings_eq_error h with ⟨v, hf, hv, -⟩ | ⟨ms, -, hl, -⟩
  · have hf' : m.hollow.find? key = some v := by
      rw [Members.find?_hollow, hf]
      exact congrArg some (hollowMember_of_not_object hk hv)
    unfold bindings
    rw [hf']
    cases v with
    | object ms => exact absurd rfl (hv ms)
    | _ => exact ⟨_, rfl⟩
  · exact absurd hl.symm (Location.step_ne _ _)

lemma failsAlong_attributes : FailsAlong l (attributes l m) (attributes l m.hollow) :=
  failsAlong_bindings (.inl rfl)

/-- Variables fail at their owner if they are no object, and else at themselves. -/
lemma definitions_eq_error {e : Invalid} (h : definitions l m = .error e) :
    (∃ f, bindings l m "vars" .vars = .error ⟨l, f⟩ ∧ e.location = l) ∨
      ∃ ms, m.find? "vars" = some (.object ms) ∧ e.location = l.step .vars ∧
        ¬ Part.variables.Accepts (.object ms) := by
  have hnot {ms : Members} (hf : m.find? "vars" = some (.object ms)) :
      ¬ Part.variables.Accepts (.object ms) := by
    rintro ⟨ms', b, hms, hb, hvars⟩
    obtain rfl := Json.object.inj hms
    have hok : definitions l m = .ok b := definitions_eq_ok_iff.mpr ⟨.present hf hb, hvars⟩
    cases h.symm.trans hok
  rcases bind_eq_error_iff.mp h with hb | ⟨b, hb, hv⟩
  · rcases bindings_eq_error hb with ⟨v, -, -, hl⟩ | ⟨ms, hf, hl, -⟩
    · exact .inl ⟨e.fault, by rw [hb, ← hl], hl⟩
    · exact .inr ⟨ms, hf, hl, hnot hf⟩
  · split at hv
    · cases hv
    · next name value hfind =>
      obtain rfl := Except.error.inj hv
      cases bindings_eq_ok_iff.mp hb with
      | missing hn => cases hfind
      | present hf _ => exact .inr ⟨_, hf, rfl, hnot hf⟩

lemma failsAlong_definitions : FailsAlong l (definitions l m) (definitions l m.hollow) := by
  intro fault h
  rcases definitions_eq_error h with ⟨f, hb, -⟩ | ⟨ms, -, hl, -⟩
  · obtain ⟨e, he⟩ := failsAlong_bindings (.inr rfl) f hb
    exact ⟨e, bind_eq_error_iff.mpr (.inl he)⟩
  · exact absurd hl.symm (Location.step_ne _ _)

/-- Font faces fail at their owner if they are no list. -/
lemma fontFaces_eq_error {e : Invalid} (h : fontFaces l m = .error e) :
    (∃ v, m.find? "fonts" = some v ∧ (∀ items, v ≠ .array items) ∧ e.location = l) ∨
      ∃ items, m.find? "fonts" = some (.array items) ∧
        fontFacesFrom (l.step .fonts) 0 items = .error e := by
  unfold fontFaces at h
  split at h
  · cases h
  · next items hf => exact .inr ⟨items, hf, h⟩
  · next v hne hf =>
    obtain rfl := Except.error.inj h
    exact .inl ⟨v, hf, fun items => hne items, rfl⟩

end

/-! ### Where reading fails -/

namespace Location

/-- Some steps further inside. -/
def down (l : Location) (steps : List Step) : Location := ⟨l.start, l.steps ++ steps⟩

lemma down_nil (l : Location) : l.down [] = l := by simp [down]

lemma down_step (l : Location) (s : Step) (steps : List Step) :
    (l.step s).down steps = l.down (s :: steps) := by simp [down, step]

lemma down_cons_ne (l : Location) (s : Step) (steps : List Step) : l.down (s :: steps) ≠ l := by
  intro h
  have := congrArg (·.steps.length) h
  simp [down] at this

end Location

/-- The place of the failure is that of a culprit in the value. -/
def Blames (p : Part) (v : Json) (l : Location) (e : Invalid) : Prop :=
  ∃ steps, e.location = l.down steps ∧ Culprit p v steps

namespace Blames

variable {p q : Part} {v : Json} {l : Location} {e : Invalid}

lemma of_faulty (hl : e.location = l) (h : p.Faulty v) : Blames p v l e :=
  ⟨[], hl.trans l.down_nil.symm, .of_faulty h⟩

lemma member {m : Members} {s : Step} {key : String} (hq : q.Fits m)
    (hs : s.member = some (key, p)) (hf : m.find? key = some v) (hb : SoundBefore m s)
    (h : Blames p v (l.step s) e) : Blames q (.object m) l e := by
  obtain ⟨steps, hl, hc⟩ := h
  exact ⟨s :: steps, hl.trans (l.down_step s steps), .member hq hs hf hc hb⟩

lemma item {items : List Json} {i : Nat} (hq : q.items = some p) (hi : items[i]? = some v)
    (hb : ∀ j u, j < i → items[j]? = some u → p.Accepts u) (h : Blames p v (l.step (.item i)) e) :
    Blames q (.array items) l e := by
  obtain ⟨steps, hl, hc⟩ := h
  exact ⟨.item i :: steps, hl.trans (l.down_step _ steps), .item hq hi hc hb⟩

lemma leaf (hv : ∀ items, v ≠ .array items) (h : Blames .tag v l e) : Blames .children v l e := by
  obtain ⟨steps, hl, hc⟩ := h
  exact ⟨steps, hl, .leaf hv hc⟩

lemma sole {m : Members} (hm : marks m ≠ []) (h : Blames .tag (.object m) l e) :
    Blames .manifest (.object m) l e := by
  obtain ⟨steps, hl, hc⟩ := h
  exact ⟨steps, hl, .sole hm hc⟩

end Blames

lemma soundBefore_fonts (m : Members) : SoundBefore m .fonts := by
  intro a key inner v ha hs hf
  cases a <;> cases ha

lemma soundBefore_attrs {m : Members}
    (hfonts : ∀ v, m.find? "fonts" = some v → Part.fontFaces.Accepts v) :
    SoundBefore m .attrs := by
  intro a key inner v ha hs hf
  cases a with
  | fonts =>
    cases hs
    exact hfonts v hf
  | _ => exact ha.elim

lemma SoundBefore.children {m : Members} {attrs : Bindings} (h : SoundBefore m .attrs)
    (ha : HasBindings m "attrs" attrs) : SoundBefore m .children := by
  intro a key inner v hlt hs hf
  cases a with
  | fonts => exact h (show Step.Before .fonts .attrs from trivial) hs hf
  | attrs =>
    cases hs
    exact ha.accepts hf
  | _ => exact hlt.elim

lemma SoundBefore.vars {m : Members} {kids : Option (List Tag)} (h : SoundBefore m .children)
    (hc : HasChildren m kids) : SoundBefore m .vars := by
  intro a key inner v hlt hs hf
  cases a with
  | fonts => exact h (show Step.Before .fonts .children from trivial) hs hf
  | attrs => exact h (show Step.Before .attrs .children from trivial) hs hf
  | children =>
    cases hs
    exact hc.accepts hf
  | _ => exact hlt.elim

/-- The reading fails at the place itself, if at all. -/
def FailsAt {α : Type} (l : Location) (x : Checked α) : Prop := ∀ e, x = .error e → e.location = l

section

variable {α β : Type} {l : Location} {m : Members} {key : String}

/-- Where a failure is inside, a reading that fails at the place itself has gone well. -/
lemma FailsAt.skip {x : Checked α} {f : α → Checked β} {e : Invalid} (hx : FailsAt l x)
    (he : e.location ≠ l) (h : (x >>= f) = .error e) : ∃ a, x = .ok a ∧ f a = .error e :=
  (bind_eq_error_iff.mp h).resolve_left fun h => he (hx e h)

lemma failsAt_reject (fault : Fault) : FailsAt l (reject l fault : Checked α) := by
  intro e h
  obtain rfl := Except.error.inj h
  rfl

lemma failsAt_ok (a : α) : FailsAt l (.ok a : Checked α) := fun _ h => nomatch h

lemma FailsAt.bind {x : Checked α} {f : α → Checked β} (hx : FailsAt l x)
    (hf : ∀ a, FailsAt l (f a)) : FailsAt l (x >>= f) := by
  intro e h
  rcases bind_eq_error_iff.mp h with h | ⟨a, -, h⟩
  · exact hx e h
  · exact hf a e h

lemma failsAt_classify : FailsAt l (classify l m) := by
  unfold classify
  split
  · exact failsAt_ok _
  · exact failsAt_reject _
  · exact failsAt_reject _

lemma failsAt_checkKeys {owner : String} {allowed : List String} :
    FailsAt l (checkKeys l m owner allowed) := by
  unfold checkKeys
  split
  · exact failsAt_ok _
  · exact failsAt_reject _

lemma failsAt_string? : FailsAt l (string? l m key) := by
  unfold string?
  split
  · exact failsAt_ok _
  · exact failsAt_ok _
  · exact failsAt_reject _

lemma failsAt_bool? : FailsAt l (bool? l m key) := by
  unfold bool?
  split
  · exact failsAt_ok _
  · exact failsAt_ok _
  · exact failsAt_reject _

lemma failsAt_string : FailsAt l (string l m key) := by
  refine failsAt_string?.bind fun s => ?_
  split
  · exact failsAt_ok _
  · exact failsAt_reject _

lemma failsAt_tagName : FailsAt l (tagName l m) := by
  refine failsAt_string.bind fun s => ?_
  split
  · exact failsAt_reject _
  · exact failsAt_ok _

lemma failsAt_fontSource {bundled : Option Bool} {path : Option String} :
    FailsAt l (fontSource l bundled path) := by
  unfold fontSource
  split
  · exact failsAt_reject _
  · exact failsAt_ok _
  · exact failsAt_reject _
  · exact failsAt_ok _
  · exact failsAt_reject _

end

/-! ### Parts of an object -/

section

variable {q : Part} {m : Members} {l : Location} {e : Invalid}

lemma find?_ne_of_onlyKeys {allowed : List String} {key : String} {v : Json}
    (h : OnlyKeys m allowed) (hk : key ∉ allowed) : m.find? key ≠ some v :=
  fun hf => hk (h _ (mem_keys_of_find? hf))

lemma OnlyKeys.soundBefore_attrs {allowed : List String} (h : OnlyKeys m allowed)
    (hk : "fonts" ∉ allowed) : SoundBefore m .attrs :=
  Manifest.soundBefore_attrs fun _ hf => absurd hf (find?_ne_of_onlyKeys h hk)

lemma blames_attributes (hq : q.Fits m) (hs : SoundBefore m .attrs) (he : e.location ≠ l)
    (h : attributes l m = .error e) : Blames q (.object m) l e := by
  rcases bindings_eq_error h with ⟨-, -, -, hl⟩ | ⟨ms, hf, hl, hb⟩
  · exact absurd hl he
  · refine .member hq (p := .attributes) rfl hf hs (.of_faulty hl ⟨?_, ?_, rfl⟩)
    all_goals
      rintro ⟨_, b, heq, hb'⟩
      obtain rfl := Json.object.inj heq
      exact hb ⟨b, hb'⟩

lemma blames_definitions (hq : q.Fits m) (hs : SoundBefore m .vars) (he : e.location ≠ l)
    (h : definitions l m = .error e) : Blames q (.object m) l e := by
  rcases definitions_eq_error h with ⟨-, -, hl⟩ | ⟨ms, hf, hl, hb⟩
  · exact absurd hl he
  · exact .member hq (p := .variables) rfl hf hs (.of_faulty hl ⟨hb, hb, rfl⟩)

lemma failsAlong_fontFace :
    FailsAlong l (fontFace l (.object m)) (fontFace l (.object m.hollow)) := by
  rw [fontFace, fontFace, checkKeys_hollow]
  refine .bind_same fun _ => ?_
  rw [string_hollow (by decide)]
  refine .bind_same fun _ => ?_
  rw [bool?_hollow (by decide)]
  refine .bind_same fun _ => ?_
  rw [string?_hollow (by decide)]
  refine .bind_same fun _ => .bind_same fun _ => ?_
  exact failsAlong_attributes.bind fun _ _ _ hok => nomatch hok

/-- A font face that is refused has a culprit: a source, a key or its attributes. -/
lemma blames_fontFace {v : Json} (h : fontFace l v = .error e) : Blames .fontFace v l e := by
  cases v with
  | object m =>
    by_cases hl : e.location = l
    · refine .of_faulty hl ⟨?_, ?_, rfl⟩
      · rintro ⟨face, hface⟩
        cases h.symm.trans (fontFace_eq_ok_iff.mpr hface)
      · rintro ⟨face, hface⟩
        obtain ⟨e', he'⟩ := failsAlong_fontFace e.fault (h.trans (by rw [← hl]))
        cases he'.symm.trans (fontFace_eq_ok_iff.mpr hface)
    · rw [fontFace] at h
      obtain ⟨u, hk, h⟩ := failsAt_checkKeys.skip hl h
      obtain ⟨name, -, h⟩ := failsAt_string.skip hl h
      obtain ⟨bundled, -, h⟩ := failsAt_bool?.skip hl h
      obtain ⟨path, -, h⟩ := failsAt_string?.skip hl h
      obtain ⟨source, -, h⟩ := failsAt_fontSource.skip hl h
      have hk : OnlyKeys m fontFaceKeys := checkKeys_eq_ok_iff.mp hk
      rcases bind_eq_error_iff.mp h with h | ⟨attrs, -, h⟩
      · exact blames_attributes hk (hk.soundBefore_attrs (by decide)) hl h
      · cases h
  | _ =>
    obtain rfl := Except.error.inj h
    refine .of_faulty rfl ⟨?_, ?_, rfl⟩ <;> rintro ⟨face, ⟨⟩⟩

/-- A list is read up to an index, with the rest still to come. -/
structure ReadUpTo (p : Part) (items : List Json) (index : Nat) (rest : List Json) : Prop where
  rest : items.drop index = rest
  accepts : ∀ i v, i < index → items[i]? = some v → p.Accepts v

lemma ReadUpTo.start (p : Part) (items : List Json) : ReadUpTo p items 0 items :=
  ⟨List.drop_zero, fun _ _ hi => absurd hi (Nat.not_lt_zero _)⟩

section

variable {p : Part} {items rest : List Json} {index : Nat} {item : Json}

lemma ReadUpTo.getElem? (h : ReadUpTo p items index (item :: rest)) :
    items[index]? = some item := by
  rw [← List.head?_drop, h.rest, List.head?_cons]

lemma ReadUpTo.next (h : ReadUpTo p items index (item :: rest)) (hi : p.Accepts item) :
    ReadUpTo p items (index + 1) rest := by
  refine ⟨by rw [← List.tail_drop, h.rest, List.tail_cons], fun i v hlt hv => ?_⟩
  rcases Nat.lt_succ_iff_lt_or_eq.mp hlt with hlt | rfl
  · exact h.accepts i v hlt hv
  · obtain rfl := Option.some.inj (h.getElem?.symm.trans hv)
    exact hi

end

lemma blames_fontFacesFrom {items : List Json} {index : Nat} {rest : List Json}
    (hr : ReadUpTo .fontFace items index rest) (h : fontFacesFrom l index rest = .error e) :
    Blames .fontFaces (.array items) l e := by
  induction rest generalizing index with
  | nil => cases h
  | cons item rest ih =>
    rw [fontFacesFrom] at h
    rcases bind_eq_error_iff.mp h with hf | ⟨face, hf, h⟩
    · exact .item rfl hr.getElem? hr.accepts (blames_fontFace hf)
    · rcases bind_eq_error_iff.mp h with h | ⟨faces, -, h⟩
      · exact ih (hr.next ⟨face, fontFace_eq_ok_iff.mp hf⟩) h
      · cases h

lemma blames_fontFaces (hq : q.Fits m) (he : e.location ≠ l) (h : fontFaces l m = .error e) :
    Blames q (.object m) l e := by
  rcases fontFaces_eq_error h with ⟨-, -, -, hl⟩ | ⟨items, hf, h⟩
  · exact absurd hl he
  · exact .member hq (p := .fontFaces) rfl hf (soundBefore_fonts m)
      (blames_fontFacesFrom (.start _ _) h)

lemma Blames.location_ne {p : Part} {v : Json} {s : Step} (h : Blames p v (l.step s) e) :
    e.location ≠ l := by
  obtain ⟨steps, hl, -⟩ := h
  rw [hl, Location.down_step]
  exact Location.down_cons_ne l s steps

lemma failsAlong_fontFaces : FailsAlong l (fontFaces l m) (fontFaces l m.hollow) := by
  intro fault h
  rcases fontFaces_eq_error h with ⟨v, hf, hv, -⟩ | ⟨items, -, h⟩
  · have hollow : Json.hollowMember "fonts" v = v := by
      cases v with
      | array items => exact absurd rfl (hv items)
      | _ => rfl
    have hf' : m.hollow.find? "fonts" = some v := by
      rw [Members.find?_hollow, hf, Option.map_some, hollow]
    unfold fontFaces
    rw [hf']
    cases v with
    | array items => exact absurd rfl (hv items)
    | _ => exact ⟨_, rfl⟩
  · have hb : Blames .fontFaces (.array items) (l.step .fonts) ⟨l, fault⟩ :=
      blames_fontFacesFrom (.start _ _) h
    exact absurd rfl hb.location_ne

/-- What is known of the reading of the children of an object when it fails. -/
def ChildrenBlamed (m : Members) (l : Location) (e : Invalid) : Prop :=
  ∃ v, m.find? "children" = some v ∧ Blames .children v (l.step .children) e

/-- Attributes, children and variables, read one after another. -/
lemma blames_body {α : Type} {f : Bindings → Option (List Tag) → Bindings → α} (hq : q.Fits m)
    (hs : SoundBefore m .attrs)
    (hkids : ∀ e, childrenIn l m = .error e → ChildrenBlamed m l e) (he : e.location ≠ l)
    (h : (do
      let attrs ← attributes l m
      let children ← childrenIn l m
      let vars ← definitions l m
      return f attrs children vars) = .error e) : Blames q (.object m) l e := by
  rcases bind_eq_error_iff.mp h with h | ⟨attrs, ha, h⟩
  · exact blames_attributes hq hs he h
  have hs := hs.children (attributes_eq_ok_iff.mp ha)
  rcases bind_eq_error_iff.mp h with h | ⟨kids, hc, h⟩
  · obtain ⟨v, hf, hb⟩ := hkids e h
    exact .member hq rfl hf hs hb
  have hs := hs.vars (childrenIn_eq_ok_iff.mp hc)
  rcases bind_eq_error_iff.mp h with h | ⟨vars, -, h⟩
  · exact blames_definitions hq hs he h
  · cases h

lemma failsAlong_body {α : Type} {f : Bindings → Option (List Tag) → Bindings → α}
    {children kids : Checked (Option (List Tag))} (hkids : FailsAlong l children kids) :
    FailsAlong l
      (do
        let attrs ← attributes l m
        let children ← children
        let vars ← definitions l m
        return f attrs children vars)
      (do
        let attrs ← attributes l m.hollow
        let children ← kids
        let vars ← definitions l m.hollow
        return f attrs children vars) := by
  refine failsAlong_attributes.bind fun _ _ => hkids.bind fun _ _ => ?_
  exact failsAlong_definitions.bind fun _ _ _ hok => nomatch hok

end

/-! ### Tags -/

section

variable {m : Members} {l : Location} {e : Invalid}

/-- An object that is no tag by itself is none when the parts in it are empty. -/
lemma failsAlong_tagOfObject {children kids : Checked (Option (List Tag))}
    (hkids : FailsAlong l children kids) :
    FailsAlong l (tagOfObject l m children) (tagOfObject l m.hollow kids) := by
  unfold tagOfObject
  rw [classify_hollow]
  refine .bind_same fun kind => ?_
  rw [checkKeys_hollow]
  refine .bind_same fun _ => ?_
  cases kind with
  | container =>
    dsimp only
    rw [string_hollow (by decide)]
    exact .refl _
  | image =>
    dsimp only
    rw [string_hollow (by decide)]
    refine .bind_same fun _ => ?_
    rw [string?_hollow (by decide)]
    exact .bind_same fun _ => failsAlong_body hkids
  | font =>
    refine failsAlong_fontFaces.bind fun _ _ => ?_
    exact failsAlong_attributes.bind fun _ _ _ hok => nomatch hok
  | nestedSvg =>
    dsimp only
    rw [string_hollow (by decide)]
    refine .bind_same fun _ => ?_
    exact failsAlong_attributes.bind fun _ _ _ hok => nomatch hok
  | text =>
    dsimp only
    rw [string_hollow (by decide)]
    refine .bind_same fun _ => ?_
    rw [bool?_hollow (by decide)]
    exact .refl _
  | generic =>
    dsimp only
    rw [tagName_hollow]
    exact .bind_same fun _ => failsAlong_body hkids

variable (hkids : ∀ e, childrenIn l m = .error e → ChildrenBlamed m l e)
include hkids

/-- An object that is refused as a tag has a culprit, if so for its children. -/
lemma blames_tagOfObject (h : tagOfObject l m (childrenIn l m) = .error e) :
    Blames .tag (.object m) l e := by
  by_cases hl : e.location = l
  · refine .of_faulty hl ⟨?_, ?_, rfl⟩
    · rintro ⟨t, ht⟩
      cases h.symm.trans (tagOf_object_eq_ok_iff.mpr ht)
    · rintro ⟨t, ht⟩
      have halong : FailsAlong l (childrenIn l m) (childrenIn l m.hollow) :=
        .of_inside (fun e he => by
          obtain ⟨v, -, hb⟩ := hkids e he
          exact hb.location_ne) _
      obtain ⟨e', he'⟩ := failsAlong_tagOfObject halong e.fault (by rw [h, ← hl])
      cases he'.symm.trans (tagOf_object_eq_ok_iff.mpr ht)
  · rw [tagOfObject] at h
    obtain ⟨kind, hc, h⟩ := failsAt_classify.skip hl h
    obtain ⟨u, hu, h⟩ := failsAt_checkKeys.skip hl h
    have hk : IsOfKind m kind := isOfKind_iff.mpr ⟨hc, hu⟩
    have hq : Part.tag.Fits m := ⟨kind, hk⟩
    cases kind with
    | container => exact absurd ((failsAt_string.bind fun _ => failsAt_ok _) e h) hl
    | image =>
      obtain ⟨path, -, h⟩ := failsAt_string.skip hl h
      obtain ⟨type, -, h⟩ := failsAt_string?.skip hl h
      exact blames_body hq (hk.keys.soundBefore_attrs (by decide)) hkids hl h
    | font =>
      rcases bind_eq_error_iff.mp h with h | ⟨faces, hf, h⟩
      · exact blames_fontFaces hq hl h
      rcases bind_eq_error_iff.mp h with h | ⟨attrs, -, h⟩
      · have hmem : "fonts" ∈ m.keys := (hk.mark .font).mpr rfl
        obtain ⟨items, hi, hfaces⟩ := (fontFaces_eq_ok_iff hmem).mp hf
        refine blames_attributes hq (soundBefore_attrs fun v hv => ?_) hl h
        obtain rfl := Option.some.inj (hi.symm.trans hv)
        exact ⟨items, faces, rfl, hfaces⟩
      · cases h
    | nestedSvg =>
      obtain ⟨path, -, h⟩ := failsAt_string.skip hl h
      rcases bind_eq_error_iff.mp h with h | ⟨attrs, -, h⟩
      · exact blames_attributes hq (hk.keys.soundBefore_attrs (by decide)) hl h
      · cases h
    | text =>
      exact absurd ((failsAt_string.bind fun _ => failsAt_bool?.bind fun _ => failsAt_ok _) e h) hl
    | generic =>
      obtain ⟨name, -, h⟩ := failsAt_tagName.skip hl h
      exact blames_body hq (hk.keys.soundBefore_attrs (by decide)) hkids hl h

end

/-- Where children are expected, a value that is refused has a culprit; so do the items of a list
that is read up to an index, and what an object has for children. -/
lemma blames_children :
    (∀ l v e, childrenOf l v = .error e → Blames .children v l e) ∧
      (∀ l m e, childrenIn l m = .error e → ChildrenBlamed m l e) ∧
      ∀ l index rest e, childrenFrom l index rest = .error e →
        ∀ items, ReadUpTo .children items index rest → Blames .children (.array items) l e := by
  refine childrenOf.mutual_induct _ _ _ ?array ?string ?object ?other ?nil ?cons ?none ?here ?later
  case array =>
    intro l items ih e h
    rw [childrenOf] at h
    exact ih e h items (.start _ _)
  case string =>
    intro l s e h
    rw [childrenOf] at h
    cases h
  case object =>
    intro l m ih e h
    rw [childrenOf] at h
    rcases bind_eq_error_iff.mp h with h | ⟨t, -, h⟩
    · exact .leaf (by simp) (blames_tagOfObject ih h)
    · cases h
  case other =>
    intro l v ha hs ho e h
    have hread : childrenOf l v = reject l (.notTag v.describe) := by
      rw [childrenOf] <;> assumption
    have hbare : v.hollow = v := by
      cases v with
      | object m => exact absurd rfl (ho m)
      | _ => rfl
    have hnot : ¬ Part.tag.Accepts v := by
      rintro ⟨t, ht⟩
      cases ht with
      | string s => exact hs s rfl
      | _ => exact ho _ rfl
    obtain rfl := Except.error.inj (hread.symm.trans h)
    refine .leaf (fun items hv => ha items hv) (.of_faulty rfl ⟨hnot, ?_, rfl⟩)
    rw [Part.bare, hbare]
    exact hnot
  case nil =>
    intro l index e h
    rw [childrenFrom] at h
    cases h
  case cons =>
    intro l index item rest ihitem ihrest e h items hr
    rw [childrenFrom] at h
    rcases bind_eq_error_iff.mp h with h | ⟨tags, ht, h⟩
    · exact .item rfl hr.getElem? hr.accepts (ihitem e h)
    · rcases bind_eq_error_iff.mp h with h | ⟨others, -, h⟩
      · exact ihrest e h items (hr.next ⟨tags, (children_eq_ok_iff.1 _ _ _).mp ht⟩)
      · cases h
  case none =>
    intro l e h
    rw [childrenIn] at h
    cases h
  case here =>
    intro l v rest ih e h
    rw [childrenIn, if_pos rfl] at h
    rcases bind_eq_error_iff.mp h with h | ⟨tags, -, h⟩
    · exact ⟨v, List.lookup_cons_self, ih e h⟩
    · cases h
  case later =>
    intro l key v rest hne ih e h
    rw [childrenIn, if_neg hne] at h
    obtain ⟨u, hu, hb⟩ := ih e h
    exact ⟨u, (lookup_cons_of_ne hne).trans hu, hb⟩

/-! ### The text of a place -/

lemma append_closing_inj {i j : Nat} {x y : List Char}
    (h : Nat.toDigits 10 i ++ ']' :: x = Nat.toDigits 10 j ++ ']' :: y) : i = j ∧ x = y := by
  have hd (n : Nat) : ']' ∉ Nat.toDigits 10 n := fun hm =>
    absurd (Nat.isDigit_of_mem_toDigits (by decide) (by decide) hm) (by decide)
  obtain ⟨d, hd', hx⟩ := Piece.exists_append_of_notMem h (hd i)
  cases d with
  | nil =>
    rw [List.append_nil] at hd'
    refine ⟨?_, (List.cons.inj hx).2⟩
    rw [← Nat.ofDigitChars_ten_toDigits (n := i), ← hd', Nat.ofDigitChars_ten_toDigits]
  | cons c d =>
    obtain ⟨rfl, -⟩ := List.cons.inj hx
    exact absurd (hd' ▸ by simp) (hd j)

/-- The text of a step is not the beginning of the text of another one. -/
lemma Step.text_append_inj {s t : Step} {x y : List Char}
    (h : s.text.toList ++ x = t.text.toList ++ y) : s = t ∧ x = y := by
  have hitem (i : Nat) (x : List Char) :
      (Step.item i).text.toList ++ x = '[' :: (Nat.toDigits 10 i ++ ']' :: x) := by
    simp [Step.text]
  cases s with
  | item i =>
    cases t with
    | item j =>
      rw [hitem, hitem] at h
      obtain ⟨rfl, hx⟩ := append_closing_inj (List.cons.inj h).2
      exact ⟨rfl, hx⟩
    | _ =>
      rw [hitem] at h
      cases (List.cons.inj h).1
  | _ =>
    cases t <;> simp [Step.text] at h ⊢
    exact h

lemma Step.text_toList_ne_nil (s : Step) : s.text.toList ≠ [] := by
  cases s <;> simp [Step.text]

lemma eq_of_flatMap_text {as bs : List Step}
    (h : as.flatMap (·.text.toList) = bs.flatMap (·.text.toList)) : as = bs := by
  induction as generalizing bs with
  | nil =>
    cases bs with
    | nil => rfl
    | cons b bs =>
      rw [List.flatMap_nil, List.flatMap_cons] at h
      exact absurd (List.append_eq_nil_iff.mp h.symm).1 b.text_toList_ne_nil
  | cons a as ih =>
    cases bs with
    | nil =>
      rw [List.flatMap_nil, List.flatMap_cons] at h
      exact absurd (List.append_eq_nil_iff.mp h).1 a.text_toList_ne_nil
    | cons b bs =>
      rw [List.flatMap_cons, List.flatMap_cons] at h
      obtain ⟨rfl, hrest⟩ := Step.text_append_inj h
      rw [ih hrest]

/-- A text is that of one place at most. -/
lemma Location.text_inj {start : String} {as bs : List Step} :
    (Location.mk start as).text = (Location.mk start bs).text ↔ as = bs := by
  refine ⟨fun h => eq_of_flatMap_text ?_, fun h => h ▸ rfl⟩
  have hlist := congrArg String.toList h
  simpa [Location.text, List.flatMap_map] using hlist

/-! ### Whole manifests -/

section

variable {m : Members} {e : Invalid}

lemma childrenBlamed {l : Location} (h : childrenIn l m = .error e) : ChildrenBlamed m l e :=
  blames_children.2.1 l m e h

lemma not_accepts_of_no_marks (hm : marks m = []) (h : ofJson (.object m) = .error e) :
    ¬ Part.manifest.Accepts (.object m) := by
  rintro ⟨r, ht | ⟨hk, ha, hc, hv⟩⟩
  · exact exists_mark_of_isTag ht hm
  · have hok := (ofJson_eq_ok_iff_of_no_marks hm (r := ⟨_, _, _⟩)).mpr ⟨hk, ha, hc, hv⟩
    cases h.symm.trans hok

/-- A bare root that is refused has a culprit. -/
lemma blames_of_no_marks (hm : marks m = []) (h : ofJson (.object m) = .error e) :
    Blames .manifest (.object m) .root e := by
  by_cases hl : e.location = .root
  · have hm' : marks m.hollow = [] := marks_hollow.trans hm
    have halong : FailsAlong .root (ofJson (.object m)) (ofJson (.object m.hollow)) := by
      rw [ofJson_of_no_marks hm, ofJson_of_no_marks hm', checkKeys_hollow]
      refine .bind_same fun _ => failsAlong_body (.of_inside (fun e he => ?_) _)
      obtain ⟨v, -, hb⟩ := childrenBlamed he
      exact hb.location_ne
    obtain ⟨e', he'⟩ := halong e.fault (h.trans (by rw [← hl]))
    exact .of_faulty hl ⟨not_accepts_of_no_marks hm h, not_accepts_of_no_marks hm' he', rfl⟩
  · rw [ofJson_of_no_marks hm] at h
    obtain ⟨u, hk, h⟩ := failsAt_checkKeys.skip hl h
    have hk : OnlyKeys m rootKeys := checkKeys_eq_ok_iff.mp hk
    exact blames_body hk (hk.soundBefore_attrs (by decide)) (fun _ => childrenBlamed) hl h

lemma blames_of_marks (hm : marks m ≠ []) (h : ofJson (.object m) = .error e) :
    Blames .manifest (.object m) .root e := by
  rw [ofJson_of_marks hm] at h
  rcases bind_eq_error_iff.mp h with h | ⟨t, -, h⟩
  · exact .sole hm (blames_tagOfObject (fun _ => childrenBlamed) h)
  · cases h

end

lemma blames_ofJson {v : Json} {e : Invalid} (h : ofJson v = .error e) :
    Blames .manifest v .root e := by
  cases v with
  | object m =>
    by_cases hm : marks m = []
    · exact blames_of_no_marks hm h
    · exact blames_of_marks hm h
  | _ =>
    obtain rfl := Except.error.inj h
    refine .of_faulty rfl ⟨?_, ?_, rfl⟩ <;> rintro ⟨r, ⟨⟩⟩

/-- **What is refused is refused at its culprit.** The text of the place is that of one path only,
and the path leads to a value in the manifest: where a manifest, a tag, a font face or an object of
attributes or variables is expected stands a value that is none, whatever the parts in it are, and
each part before it is as it should be. -/
theorem ofJson_culprit {v : Json} {e : Invalid} (h : ofJson v = .error e) :
    ∃ steps p w, (∀ places, (Location.mk "root" places).text = e.location.text ↔ places = steps) ∧
      v.follow? steps = some w ∧ Stands .manifest v steps p w ∧ p.Faulty w ∧
      ∀ places q u, Stands .manifest v places q u → Precedes places steps → q.Accepts u := by
  obtain ⟨steps, hl, ⟨p, w, hs, hf⟩, hb⟩ := blames_ofJson h
  refine ⟨steps, p, w, fun places => ?_, hs.follow?_eq, hs, hf, hb⟩
  rw [hl]
  exact Location.text_inj

/-- A font tag inside nested lists, the second face of which has no source. -/
def sourcelessFace : Json :=
  .object [("children", .array [.string "x", .array [.object [
    ("tag", .string "g"),
    ("attrs", .object [("width", .number (.whole 1))]),
    ("children", .object [("fonts", .array [
      .object [("name", .string "F"), ("bundled", .bool true)],
      .object [("name", .string "G")]])])]]])]

theorem culprit_of_sourcelessFace :
    ∃ e, ofJson sourcelessFace = .error e ∧
      e.location.text = "root.children[1][0].children.fonts[1]" ∧
      ∃ steps p w,
        (∀ places, (Location.mk "root" places).text = e.location.text ↔ places = steps) ∧
        sourcelessFace.follow? steps = some w ∧ Stands .manifest sourcelessFace steps p w ∧
        p.Faulty w ∧
        ∀ places q u, Stands .manifest sourcelessFace places q u → Precedes places steps →
          q.Accepts u :=
  ⟨_, rfl, rfl, ofJson_culprit rfl⟩

end Manifest
end SvgSkeleton
