import Mathlib.Data.List.Nodup
import SvgSkeleton.Manifest.Validation
import SvgSkeleton.Proofs.Fallible
import SvgSkeleton.Proofs.Lookup

/-!
The grammar of manifests: which JSON values are manifests, and what they stand for. A rule relates a
value to what it says, with every name and every value as it stands in the source and in the same
order. Reading a value succeeds exactly if a rule derives it, and gives what the rule says.
-/

namespace SvgSkeleton.Manifest

open Json (Members)

/-! ### Values without tags in them -/

/-- A string or a number. -/
inductive IsScalar : Json → Scalar → Prop
  | string (s : String) : IsScalar (.string s) (.text s)
  | number (n : Json.Number) : IsScalar (.number n) (.number n)

/-- A name with a string or a number. -/
def IsBinding (m : String × Json) (b : String × Scalar) : Prop := m.1 = b.1 ∧ IsScalar m.2 b.2

/-- The object of strings and numbers under a key, which may be missing. -/
inductive HasBindings (m : Members) (key : String) : Bindings → Prop
  | missing (h : m.find? key = none) : HasBindings m key []
  | present {members : Members} {b : Bindings} (h : m.find? key = some (.object members))
      (hb : List.Forall₂ IsBinding members b) : HasBindings m key b

/-- The variables of an object; their names are identifiers. -/
def HasVariables (m : Members) (vars : Bindings) : Prop :=
  HasBindings m "vars" vars ∧ ∀ v ∈ vars, Text.isIdentifier v.1 = true

/-- The string under a key, which may be missing. -/
inductive MayHaveString (m : Members) (key : String) : Option String → Prop
  | missing (h : m.find? key = none) : MayHaveString m key none
  | present {s : String} (h : m.find? key = some (.string s)) : MayHaveString m key (some s)

/-- The boolean under a key, which may be missing. -/
inductive MayHaveBool (m : Members) (key : String) : Option Bool → Prop
  | missing (h : m.find? key = none) : MayHaveBool m key none
  | present {b : Bool} (h : m.find? key = some (.bool b)) : MayHaveBool m key (some b)

/-- The source of a font face: one of two keys. -/
inductive HasSource (m : Members) : FontSource → Prop
  | bundled (hb : m.find? "bundled" = some (.bool true)) (hp : m.find? "path" = none) :
      HasSource m .bundled
  | file {path : String} (hb : m.find? "bundled" = none)
      (hp : m.find? "path" = some (.string path)) : HasSource m (.file path)

/-- Every key of the object is one of these. -/
def OnlyKeys (m : Members) (allowed : List String) : Prop := ∀ key ∈ m.keys, key ∈ allowed

inductive IsFontFace : Json → FontFace → Prop
  | face {m : Members} {name : String} {source : FontSource} {attrs : Bindings}
      (hk : OnlyKeys m fontFaceKeys) (hn : m.find? "name" = some (.string name))
      (hs : HasSource m source) (ha : HasBindings m "attrs" attrs) :
      IsFontFace (.object m) ⟨name, source, attrs⟩

/-- The object carries the mark of this kind and of no other, and only keys of the kind. -/
structure IsOfKind (m : Members) (kind : Kind) : Prop where
  mark : ∀ k : Kind, k.mark ∈ m.keys ↔ k = kind
  keys : OnlyKeys m kind.keys

/-! ### Tags -/

mutual

/-- A tag: a string or an object of one kind. -/
inductive IsTag : Json → Tag → Prop
  | string (s : String) : IsTag (.string s) (.text s false)
  | container {m : Members} {path : String} (hk : IsOfKind m .container)
      (hp : m.find? "clgn_path" = some (.string path)) : IsTag (.object m) (.container path)
  | image {m : Members} {path : String} {type : Option String} {attrs vars : Bindings}
      {kids : Option (List Tag)} (hk : IsOfKind m .image)
      (hp : m.find? "image_path" = some (.string path)) (ht : MayHaveString m "kind" type)
      (ha : HasBindings m "attrs" attrs) (hc : HasChildren m kids) (hv : HasVariables m vars) :
      IsTag (.object m) (.image path type attrs vars kids)
  | font {m : Members} {items : List Json} {faces : List FontFace} {attrs : Bindings}
      (hk : IsOfKind m .font) (hi : m.find? "fonts" = some (.array items))
      (hf : List.Forall₂ IsFontFace items faces) (ha : HasBindings m "attrs" attrs) :
      IsTag (.object m) (.font faces attrs)
  | nestedSvg {m : Members} {path : String} {attrs : Bindings} (hk : IsOfKind m .nestedSvg)
      (hp : m.find? "svg_path" = some (.string path)) (ha : HasBindings m "attrs" attrs) :
      IsTag (.object m) (.nestedSvg path attrs)
  | text {m : Members} {content : String} {raw : Option Bool} (hk : IsOfKind m .text)
      (ht : m.find? "text" = some (.string content)) (hr : MayHaveBool m "is_preescaped" raw) :
      IsTag (.object m) (.text content (raw.getD false))
  | generic {m : Members} {name : String} {attrs vars : Bindings} {kids : Option (List Tag)}
      (hk : IsOfKind m .generic) (hn : m.find? "tag" = some (.string name)) (hne : name ≠ "")
      (ha : HasBindings m "attrs" attrs) (hc : HasChildren m kids) (hv : HasVariables m vars) :
      IsTag (.object m) (.generic name attrs vars kids)

/-- A tag, or an array of tags and further arrays of them. -/
inductive IsForest : Json → List Tag → Prop
  | tag {v : Json} {t : Tag} (h : IsTag v t) : IsForest v [t]
  | array {items : List Json} {tags : List Tag} (h : AreForests items tags) :
      IsForest (.array items) tags

inductive AreForests : List Json → List Tag → Prop
  | nil : AreForests [] []
  | cons {v : Json} {rest : List Json} {tags others : List Tag} (h : IsForest v tags)
      (hr : AreForests rest others) : AreForests (v :: rest) (tags ++ others)

/-- The children of an object, if it has a list of them. -/
inductive HasChildren : Members → Option (List Tag) → Prop
  | missing {m : Members} (h : m.find? "children" = none) : HasChildren m none
  | present {m : Members} {v : Json} {tags : List Tag} (h : m.find? "children" = some v)
      (hf : IsForest v tags) : HasChildren m (some tags)

end

/-- A whole manifest. One that is itself a tag stands for a bare root around the tag. -/
inductive IsManifest : Json → Root → Prop
  | tag {m : Members} {t : Tag} (h : IsTag (.object m) t) :
      IsManifest (.object m) ⟨[], [], some [t]⟩
  | root {m : Members} {attrs vars : Bindings} {kids : Option (List Tag)}
      (hk : OnlyKeys m rootKeys) (ha : HasBindings m "attrs" attrs) (hc : HasChildren m kids)
      (hv : HasVariables m vars) : IsManifest (.object m) ⟨attrs, vars, kids⟩

/-! ### Reading values without tags in them -/

section

variable {l : Location} {m : Members} {key : String}

lemma isSome_find?_iff : (m.find? key).isSome = true ↔ key ∈ m.keys := isSome_lookup_iff

lemma checkKeys_eq_ok_iff {owner : String} {allowed : List String} :
    checkKeys l m owner allowed = .ok () ↔ OnlyKeys m allowed := by
  have h : m.keys.filter (!allowed.contains ·) = [] ↔ OnlyKeys m allowed := by
    simp [List.filter_eq_nil_iff, OnlyKeys]
  rw [← h, checkKeys]
  split
  · next hnil => exact iff_of_true rfl hnil
  · next hne => exact iff_of_false (fun h => nomatch h) hne

lemma mem_marks_iff {k : Kind} : k ∈ marks m ↔ k.mark ∈ m.keys := by
  have hall : k ∈ Kind.all := by cases k <;> decide
  rw [marks, List.mem_filter, isSome_find?_iff]
  exact and_iff_right hall

lemma marks_eq_singleton_iff {kind : Kind} :
    marks m = [kind] ↔ ∀ k : Kind, k.mark ∈ m.keys ↔ k = kind := by
  have hnodup : (marks m).Nodup := List.Nodup.filter _ (by decide)
  rw [← List.perm_singleton, List.perm_ext_iff_of_nodup hnodup (List.nodup_singleton kind)]
  simp only [mem_marks_iff, List.mem_singleton]

lemma classify_eq_ok_iff {kind : Kind} : classify l m = .ok kind ↔ marks m = [kind] := by
  unfold classify
  split
  · next k hk => simp [hk]
  · next hk => simp [hk, reject]
  · next hne _ => exact iff_of_false (fun h => nomatch h) (hne kind)

lemma isOfKind_iff {kind : Kind} {owner : String} :
    IsOfKind m kind ↔ classify l m = .ok kind ∧ checkKeys l m owner kind.keys = .ok () := by
  rw [classify_eq_ok_iff, marks_eq_singleton_iff, checkKeys_eq_ok_iff]
  exact ⟨fun h => ⟨h.mark, h.keys⟩, fun h => ⟨h.1, h.2⟩⟩

lemma string?_eq_ok_iff {o : Option String} :
    string? l m key = .ok o ↔ MayHaveString m key o := by
  constructor
  · intro h
    unfold string? at h
    split at h
    · next hf =>
      obtain rfl := Except.ok.inj h
      exact .missing hf
    · next hf =>
      obtain rfl := Except.ok.inj h
      exact .present hf
    · cases h
  · rintro (h | h) <;> rw [string?, h]

lemma bool?_eq_ok_iff {o : Option Bool} : bool? l m key = .ok o ↔ MayHaveBool m key o := by
  constructor
  · intro h
    unfold bool? at h
    split at h
    · next hf =>
      obtain rfl := Except.ok.inj h
      exact .missing hf
    · next hf =>
      obtain rfl := Except.ok.inj h
      exact .present hf
    · cases h
  · rintro (h | h) <;> rw [bool?, h]

lemma string_eq_ok_iff {s : String} :
    string l m key = .ok s ↔ m.find? key = some (.string s) := by
  rw [string, bind_eq_ok_iff]
  simp only [string?_eq_ok_iff]
  constructor
  · rintro ⟨o, ho, h⟩
    cases ho with
    | missing _ => cases h
    | present hf =>
      obtain rfl := Except.ok.inj h
      exact hf
  · intro h
    exact ⟨some s, .present h, rfl⟩

lemma scalar_eq_ok_iff {e : String × Json} {b : String × Scalar} :
    scalar l e = .ok b ↔ IsBinding e b := by
  obtain ⟨name, v⟩ := e
  obtain ⟨name', value⟩ := b
  constructor
  · intro h
    unfold scalar at h
    split at h
    · next s hs =>
      obtain ⟨rfl, rfl⟩ := Prod.mk.inj (Except.ok.inj h)
      exact ⟨rfl, hs ▸ .string s⟩
    · next n hn =>
      obtain ⟨rfl, rfl⟩ := Prod.mk.inj (Except.ok.inj h)
      exact ⟨rfl, hn ▸ .number n⟩
    · cases h
  · rintro ⟨hn, hv⟩
    obtain rfl : name = name' := hn
    cases hv <;> rfl

lemma bindings_eq_ok_iff {step : Step} {b : Bindings} :
    bindings l m key step = .ok b ↔ HasBindings m key b := by
  constructor
  · intro h
    unfold bindings at h
    split at h
    · next hf =>
      obtain rfl := Except.ok.inj h
      exact .missing hf
    · next hf => exact .present hf ((mapM_eq_ok_iff.mp h).imp fun _ _ => scalar_eq_ok_iff.mp)
    · cases h
  · rintro (h | ⟨h, hb⟩)
    · rw [bindings, h]
    · rw [bindings, h]
      exact mapM_eq_ok_iff.mpr (hb.imp fun _ _ => scalar_eq_ok_iff.mpr)

lemma attributes_eq_ok_iff {b : Bindings} :
    attributes l m = .ok b ↔ HasBindings m "attrs" b := bindings_eq_ok_iff

lemma definitions_eq_ok_iff {vars : Bindings} :
    definitions l m = .ok vars ↔ HasVariables m vars := by
  have hfind (b : Bindings) : b.find? (!Text.isIdentifier ·.1) = none ↔
      ∀ v ∈ b, Text.isIdentifier v.1 = true := by
    simp [List.find?_eq_none]
  rw [definitions, bind_eq_ok_iff, HasVariables, ← hfind]
  simp only [bindings_eq_ok_iff]
  constructor
  · rintro ⟨b, hb, h⟩
    split at h
    · next hn =>
      obtain rfl := Except.ok.inj h
      exact ⟨hb, hn⟩
    · cases h
  · rintro ⟨hb, hn⟩
    refine ⟨vars, hb, ?_⟩
    rw [hn]

lemma hasSource_iff {source : FontSource} :
    HasSource m source ↔ ∃ bundled path, MayHaveBool m "bundled" bundled ∧
      MayHaveString m "path" path ∧ fontSource l bundled path = .ok source := by
  constructor
  · rintro (⟨hb, hp⟩ | ⟨hb, hp⟩)
    · exact ⟨_, _, .present hb, .missing hp, rfl⟩
    · exact ⟨_, _, .missing hb, .present hp, rfl⟩
  · rintro ⟨bundled, path, hb, hp, h⟩
    cases hb with
    | missing hb =>
      cases hp with
      | missing hp => cases h
      | present hp =>
        obtain rfl := Except.ok.inj h
        exact .file hb hp
    | @present b hb =>
      cases hp with
      | missing hp =>
        cases b with
        | false => cases h
        | true =>
          obtain rfl := Except.ok.inj h
          exact .bundled hb hp
      | present hp => cases b <;> cases h

lemma fontFace_eq_ok_iff {v : Json} {face : FontFace} :
    fontFace l v = .ok face ↔ IsFontFace v face := by
  constructor
  · intro h
    cases v with
    | object m =>
      obtain ⟨u, hk, h⟩ := bind_eq_ok_iff.mp h
      obtain ⟨name, hn, h⟩ := bind_eq_ok_iff.mp h
      obtain ⟨bundled, hb, h⟩ := bind_eq_ok_iff.mp h
      obtain ⟨path, hp, h⟩ := bind_eq_ok_iff.mp h
      obtain ⟨source, hs, h⟩ := bind_eq_ok_iff.mp h
      obtain ⟨attrs, ha, h⟩ := bind_eq_ok_iff.mp h
      obtain rfl := Except.ok.inj h
      exact .face (checkKeys_eq_ok_iff.mp hk) (string_eq_ok_iff.mp hn)
        (hasSource_iff.mpr ⟨_, _, bool?_eq_ok_iff.mp hb, string?_eq_ok_iff.mp hp, hs⟩)
        (attributes_eq_ok_iff.mp ha)
    | _ => cases h
  · rintro ⟨hk, hn, hs, ha⟩
    obtain ⟨bundled, path, hb, hp, hs⟩ := hasSource_iff.mp hs
    refine bind_eq_ok_iff.mpr ⟨(), checkKeys_eq_ok_iff.mpr hk, ?_⟩
    refine bind_eq_ok_iff.mpr ⟨_, string_eq_ok_iff.mpr hn, ?_⟩
    refine bind_eq_ok_iff.mpr ⟨_, bool?_eq_ok_iff.mpr hb, ?_⟩
    refine bind_eq_ok_iff.mpr ⟨_, string?_eq_ok_iff.mpr hp, ?_⟩
    refine bind_eq_ok_iff.mpr ⟨_, hs, ?_⟩
    exact bind_eq_ok_iff.mpr ⟨_, attributes_eq_ok_iff.mpr ha, rfl⟩

lemma fontFacesFrom_eq_ok_iff {index : Nat} {items : List Json} {faces : List FontFace} :
    fontFacesFrom l index items = .ok faces ↔ List.Forall₂ IsFontFace items faces := by
  induction items generalizing index faces with
  | nil =>
    constructor
    · intro h
      obtain rfl := Except.ok.inj h
      exact .nil
    · rintro ⟨⟩
      rfl
  | cons item rest ih =>
    rw [fontFacesFrom, bind_eq_ok_iff]
    simp only [fontFace_eq_ok_iff]
    constructor
    · rintro ⟨face, hf, h⟩
      obtain ⟨others, ho, h⟩ := bind_eq_ok_iff.mp h
      obtain rfl := Except.ok.inj h
      exact .cons hf (ih.mp ho)
    · rintro (_ | ⟨hf, ho⟩)
      exact ⟨_, hf, bind_eq_ok_iff.mpr ⟨_, ih.mpr ho, rfl⟩⟩

lemma tagName_eq_ok_iff {name : String} :
    tagName l m = .ok name ↔ m.find? "tag" = some (.string name) ∧ name ≠ "" := by
  rw [tagName, bind_eq_ok_iff]
  simp only [string_eq_ok_iff]
  constructor
  · rintro ⟨s, hs, h⟩
    split at h
    · cases h
    · next hne =>
      obtain rfl := Except.ok.inj h
      exact ⟨hs, by simpa using hne⟩
  · rintro ⟨hs, hne⟩
    refine ⟨name, hs, ?_⟩
    rw [if_neg (by simpa using hne)]
    rfl

end

/-! ### Reading tags -/

section

variable {l : Location} {m : Members}

lemma fontFaces_eq_ok_iff {faces : List FontFace} (hm : "fonts" ∈ m.keys) :
    fontFaces l m = .ok faces ↔
      ∃ items, m.find? "fonts" = some (.array items) ∧ List.Forall₂ IsFontFace items faces := by
  constructor
  · intro h
    unfold fontFaces at h
    split at h
    · next hf =>
      have := isSome_find?_iff.mpr hm
      simp [hf] at this
    · next items hf => exact ⟨items, hf, fontFacesFrom_eq_ok_iff.mp h⟩
    · cases h
  · rintro ⟨items, hf, hi⟩
    rw [fontFaces, hf]
    exact fontFacesFrom_eq_ok_iff.mpr hi

section

variable {children : Checked (Option (List Tag))}
  (hkids : ∀ kids, children = .ok kids ↔ HasChildren m kids) {t : Tag}
include hkids

/-- What an object is read as is a tag that it stands for, if so for its children. -/
lemma isTag_of_tagOfObject (h : tagOfObject l m children = .ok t) : IsTag (.object m) t := by
  rw [tagOfObject] at h
  obtain ⟨kind, hc, h⟩ := bind_eq_ok_iff.mp h
  obtain ⟨u, hu, h⟩ := bind_eq_ok_iff.mp h
  have hk : IsOfKind m kind := isOfKind_iff.mpr ⟨hc, hu⟩
  cases kind with
  | container =>
    obtain ⟨path, hp, h⟩ := bind_eq_ok_iff.mp h
    obtain rfl := Except.ok.inj h
    exact .container hk (string_eq_ok_iff.mp hp)
  | image =>
    obtain ⟨path, hp, h⟩ := bind_eq_ok_iff.mp h
    obtain ⟨type, ht, h⟩ := bind_eq_ok_iff.mp h
    obtain ⟨attrs, ha, h⟩ := bind_eq_ok_iff.mp h
    obtain ⟨kids, hc, h⟩ := bind_eq_ok_iff.mp h
    obtain ⟨vars, hv, h⟩ := bind_eq_ok_iff.mp h
    obtain rfl := Except.ok.inj h
    exact .image hk (string_eq_ok_iff.mp hp) (string?_eq_ok_iff.mp ht)
      (attributes_eq_ok_iff.mp ha) ((hkids kids).mp hc) (definitions_eq_ok_iff.mp hv)
  | font =>
    obtain ⟨faces, hf, h⟩ := bind_eq_ok_iff.mp h
    obtain ⟨attrs, ha, h⟩ := bind_eq_ok_iff.mp h
    obtain rfl := Except.ok.inj h
    obtain ⟨items, hi, hf⟩ := (fontFaces_eq_ok_iff ((hk.mark .font).mpr rfl)).mp hf
    exact .font hk hi hf (attributes_eq_ok_iff.mp ha)
  | nestedSvg =>
    obtain ⟨path, hp, h⟩ := bind_eq_ok_iff.mp h
    obtain ⟨attrs, ha, h⟩ := bind_eq_ok_iff.mp h
    obtain rfl := Except.ok.inj h
    exact .nestedSvg hk (string_eq_ok_iff.mp hp) (attributes_eq_ok_iff.mp ha)
  | text =>
    obtain ⟨content, ht, h⟩ := bind_eq_ok_iff.mp h
    obtain ⟨raw, hr, h⟩ := bind_eq_ok_iff.mp h
    obtain rfl := Except.ok.inj h
    exact .text hk (string_eq_ok_iff.mp ht) (bool?_eq_ok_iff.mp hr)
  | generic =>
    obtain ⟨name, hn, h⟩ := bind_eq_ok_iff.mp h
    obtain ⟨attrs, ha, h⟩ := bind_eq_ok_iff.mp h
    obtain ⟨kids, hc, h⟩ := bind_eq_ok_iff.mp h
    obtain ⟨vars, hv, h⟩ := bind_eq_ok_iff.mp h
    obtain rfl := Except.ok.inj h
    obtain ⟨hn, hne⟩ := tagName_eq_ok_iff.mp hn
    exact .generic hk hn hne (attributes_eq_ok_iff.mp ha) ((hkids kids).mp hc)
      (definitions_eq_ok_iff.mp hv)

/-- An object is read as the tag that it stands for, if its children are. -/
lemma tagOfObject_of_isTag (h : IsTag (.object m) t) : tagOfObject l m children = .ok t := by
  rw [tagOfObject]
  have hread {kind : Kind} (hk : IsOfKind m kind) {f : Kind → Checked Tag} {t : Tag}
      (h : f kind = .ok t) : (do
        let kind ← classify l m
        checkKeys l m kind.name kind.keys
        f kind) = .ok t := by
    obtain ⟨hc, hu⟩ := isOfKind_iff.mp hk
    exact bind_eq_ok_iff.mpr ⟨kind, hc, bind_eq_ok_iff.mpr ⟨(), hu, h⟩⟩
  cases h with
  | container hk hp =>
    exact hread hk (bind_eq_ok_iff.mpr ⟨_, string_eq_ok_iff.mpr hp, rfl⟩)
  | image hk hp ht ha hc hv =>
    refine hread hk (bind_eq_ok_iff.mpr ⟨_, string_eq_ok_iff.mpr hp, ?_⟩)
    refine bind_eq_ok_iff.mpr ⟨_, string?_eq_ok_iff.mpr ht, ?_⟩
    refine bind_eq_ok_iff.mpr ⟨_, attributes_eq_ok_iff.mpr ha, ?_⟩
    refine bind_eq_ok_iff.mpr ⟨_, (hkids _).mpr hc, ?_⟩
    exact bind_eq_ok_iff.mpr ⟨_, definitions_eq_ok_iff.mpr hv, rfl⟩
  | font hk hi hf ha =>
    have hmem : "fonts" ∈ m.keys := (hk.mark .font).mpr rfl
    refine hread hk (bind_eq_ok_iff.mpr ⟨_, (fontFaces_eq_ok_iff hmem).mpr ⟨_, hi, hf⟩, ?_⟩)
    exact bind_eq_ok_iff.mpr ⟨_, attributes_eq_ok_iff.mpr ha, rfl⟩
  | nestedSvg hk hp ha =>
    refine hread hk (bind_eq_ok_iff.mpr ⟨_, string_eq_ok_iff.mpr hp, ?_⟩)
    exact bind_eq_ok_iff.mpr ⟨_, attributes_eq_ok_iff.mpr ha, rfl⟩
  | text hk ht hr =>
    refine hread hk (bind_eq_ok_iff.mpr ⟨_, string_eq_ok_iff.mpr ht, ?_⟩)
    exact bind_eq_ok_iff.mpr ⟨_, bool?_eq_ok_iff.mpr hr, rfl⟩
  | generic hk hn hne ha hc hv =>
    refine hread hk (bind_eq_ok_iff.mpr ⟨_, tagName_eq_ok_iff.mpr ⟨hn, hne⟩, ?_⟩)
    refine bind_eq_ok_iff.mpr ⟨_, attributes_eq_ok_iff.mpr ha, ?_⟩
    refine bind_eq_ok_iff.mpr ⟨_, (hkids _).mpr hc, ?_⟩
    exact bind_eq_ok_iff.mpr ⟨_, definitions_eq_ok_iff.mpr hv, rfl⟩

lemma tagOfObject_eq_ok_iff : tagOfObject l m children = .ok t ↔ IsTag (.object m) t :=
  ⟨isTag_of_tagOfObject hkids, tagOfObject_of_isTag hkids⟩

end

lemma hasChildren_cons_children {v : Json} {rest : Members} {kids : Option (List Tag)} :
    HasChildren (("children", v) :: rest) kids ↔ ∃ tags, kids = some tags ∧ IsForest v tags := by
  have hfind : Members.find? (("children", v) :: rest) "children" = some v :=
    List.lookup_cons_self
  constructor
  · rintro (h | ⟨h, ht⟩)
    · cases hfind.symm.trans h
    · obtain rfl := Option.some.inj (hfind.symm.trans h)
      exact ⟨_, rfl, ht⟩
  · rintro ⟨tags, rfl, ht⟩
    exact .present hfind ht

lemma hasChildren_cons_of_ne {e : String × Json} {rest : Members} {kids : Option (List Tag)}
    (hne : e.1 ≠ "children") : HasChildren (e :: rest) kids ↔ HasChildren rest kids := by
  have hfind : Members.find? (e :: rest) "children" = Members.find? rest "children" :=
    lookup_cons_of_ne hne
  constructor
  · rintro (h | ⟨h, ht⟩)
    · exact .missing (hfind.symm.trans h)
    · exact .present (hfind.symm.trans h) ht
  · rintro (h | ⟨h, ht⟩)
    · exact .missing (hfind.trans h)
    · exact .present (hfind.trans h) ht

/-- Where children are expected, a value stands for the tags that it is read as; so do the items of
a list, and what an object has for children. -/
lemma children_eq_ok_iff :
    (∀ l v tags, childrenOf l v = .ok tags ↔ IsForest v tags) ∧
      (∀ l m kids, childrenIn l m = .ok kids ↔ HasChildren m kids) ∧
      ∀ l index items tags, childrenFrom l index items = .ok tags ↔ AreForests items tags := by
  refine childrenOf.mutual_induct _ _ _ ?array ?string ?object ?other ?nil ?cons ?none ?here ?later
  case array =>
    intro l items ih tags
    rw [childrenOf, ih]
    constructor
    · exact .array
    · rintro (h | h)
      · cases h
      · exact h
  case string =>
    intro l s tags
    rw [childrenOf]
    constructor
    · intro h
      obtain rfl := Except.ok.inj h
      exact .tag (.string s)
    · rintro ⟨h⟩
      cases h
      rfl
  case object =>
    intro l m ih tags
    rw [childrenOf, bind_eq_ok_iff]
    simp only [tagOfObject_eq_ok_iff ih]
    constructor
    · rintro ⟨t, ht, h⟩
      obtain rfl := Except.ok.inj h
      exact .tag ht
    · rintro ⟨ht⟩
      exact ⟨_, ht, rfl⟩
  case other =>
    intro l v ha hs ho tags
    have hread : childrenOf l v = reject l (.notTag v.describe) := by
      rw [childrenOf] <;> assumption
    rw [hread]
    refine iff_of_false (fun h => nomatch h) ?_
    rintro (h | h)
    · cases h <;> simp_all
    · exact ha _ rfl
  case nil =>
    intro l index tags
    rw [childrenFrom]
    constructor
    · intro h
      obtain rfl := Except.ok.inj h
      exact .nil
    · rintro ⟨⟩
      rfl
  case cons =>
    intro l index item rest ihitem ihrest tags
    rw [childrenFrom, bind_eq_ok_iff]
    simp only [ihitem]
    constructor
    · rintro ⟨some, hs, h⟩
      obtain ⟨others, ho, h⟩ := bind_eq_ok_iff.mp h
      obtain rfl := Except.ok.inj h
      exact .cons hs ((ihrest others).mp ho)
    · rintro (_ | ⟨hs, ho⟩)
      exact ⟨_, hs, bind_eq_ok_iff.mpr ⟨_, (ihrest _).mpr ho, rfl⟩⟩
  case none =>
    intro l kids
    rw [childrenIn]
    constructor
    · intro h
      obtain rfl := Except.ok.inj h
      exact .missing rfl
    · rintro (h | ⟨h, -⟩)
      · rfl
      · cases h
  case here =>
    intro l v rest ih kids
    rw [childrenIn, if_pos rfl, bind_eq_ok_iff, hasChildren_cons_children]
    simp only [ih]
    constructor
    · rintro ⟨tags, ht, h⟩
      exact ⟨tags, (Except.ok.inj h).symm, ht⟩
    · rintro ⟨tags, rfl, ht⟩
      exact ⟨tags, ht, rfl⟩
  case later =>
    intro l key v rest hne ih kids
    rw [childrenIn, if_neg hne, ih, hasChildren_cons_of_ne hne]

lemma childrenIn_eq_ok_iff {kids : Option (List Tag)} :
    childrenIn l m = .ok kids ↔ HasChildren m kids := children_eq_ok_iff.2.1 l m kids

lemma tagOf_object_eq_ok_iff {t : Tag} : tagOf l (.object m) = .ok t ↔ IsTag (.object m) t :=
  tagOfObject_eq_ok_iff fun _ => childrenIn_eq_ok_iff

/-- An object with a mark is no bare root. -/
lemma marks_eq_nil_of_onlyKeys (h : OnlyKeys m rootKeys) : marks m = [] := by
  rw [List.eq_nil_iff_forall_not_mem]
  intro k hk
  have hroot := h _ (mem_marks_iff.mp hk)
  cases k <;> exact absurd hroot (by decide)

lemma exists_mark_of_isTag {t : Tag} (h : IsTag (.object m) t) : marks m ≠ [] := by
  have hk : ∃ kind, IsOfKind m kind := by
    cases h <;> exact ⟨_, by assumption⟩
  obtain ⟨kind, hk⟩ := hk
  rw [marks_eq_singleton_iff.mpr hk.mark]
  simp

lemma ofJson_of_no_marks (hm : marks m = []) :
    ofJson (.object m) = do
      checkKeys .root m "root" rootKeys
      let attrs ← attributes .root m
      let children ← childrenIn .root m
      let vars ← definitions .root m
      return ⟨attrs, vars, children⟩ := by
  rw [ofJson, hm]
  rfl

lemma ofJson_of_marks (hm : marks m ≠ []) :
    ofJson (.object m) = do
      let tag ← tagOf .root (.object m)
      return ⟨[], [], some [tag]⟩ := by
  rw [ofJson]
  simp [hm]

/-- An object without a mark is read as a bare root. -/
lemma ofJson_eq_ok_iff_of_no_marks (hm : marks m = []) {r : Root} :
    ofJson (.object m) = .ok r ↔
      OnlyKeys m rootKeys ∧ HasBindings m "attrs" r.attrs ∧ HasChildren m r.children ∧
        HasVariables m r.vars := by
  rw [ofJson_of_no_marks hm]
  constructor
  · intro h
    obtain ⟨u, hk, h⟩ := bind_eq_ok_iff.mp h
    obtain ⟨attrs, ha, h⟩ := bind_eq_ok_iff.mp h
    obtain ⟨kids, hc, h⟩ := bind_eq_ok_iff.mp h
    obtain ⟨vars, hv, h⟩ := bind_eq_ok_iff.mp h
    obtain rfl := Except.ok.inj h
    exact ⟨checkKeys_eq_ok_iff.mp hk, attributes_eq_ok_iff.mp ha, childrenIn_eq_ok_iff.mp hc,
      definitions_eq_ok_iff.mp hv⟩
  · rintro ⟨hk, ha, hc, hv⟩
    refine bind_eq_ok_iff.mpr ⟨(), checkKeys_eq_ok_iff.mpr hk, ?_⟩
    refine bind_eq_ok_iff.mpr ⟨_, attributes_eq_ok_iff.mpr ha, ?_⟩
    refine bind_eq_ok_iff.mpr ⟨_, childrenIn_eq_ok_iff.mpr hc, ?_⟩
    exact bind_eq_ok_iff.mpr ⟨_, definitions_eq_ok_iff.mpr hv, rfl⟩

/-- An object with a mark is read as a bare root around a tag. -/
lemma ofJson_eq_ok_iff_of_marks (hm : marks m ≠ []) {r : Root} :
    ofJson (.object m) = .ok r ↔ ∃ t, IsTag (.object m) t ∧ r = ⟨[], [], some [t]⟩ := by
  rw [ofJson_of_marks hm, bind_eq_ok_iff]
  simp only [tagOf_object_eq_ok_iff]
  refine exists_congr fun t => and_congr_right fun _ => ?_
  exact ⟨fun h => (Except.ok.inj h).symm, fun h => h ▸ rfl⟩

/-- **A value is read as a manifest exactly if it is one by the grammar**, and as the one that the
grammar says. -/
theorem ofJson_eq_ok_iff_isManifest {v : Json} {r : Root} :
    ofJson v = .ok r ↔ IsManifest v r := by
  cases v with
  | object m =>
    by_cases hm : marks m = []
    · have hread : ofJson (.object m) = do
          checkKeys .root m "root" rootKeys
          let attrs ← attributes .root m
          let children ← childrenIn .root m
          let vars ← definitions .root m
          return ⟨attrs, vars, children⟩ := by
        rw [ofJson, hm]
        rfl
      rw [hread]
      constructor
      · intro h
        obtain ⟨u, hk, h⟩ := bind_eq_ok_iff.mp h
        obtain ⟨attrs, ha, h⟩ := bind_eq_ok_iff.mp h
        obtain ⟨kids, hc, h⟩ := bind_eq_ok_iff.mp h
        obtain ⟨vars, hv, h⟩ := bind_eq_ok_iff.mp h
        obtain rfl := Except.ok.inj h
        exact .root (checkKeys_eq_ok_iff.mp hk) (attributes_eq_ok_iff.mp ha)
          (childrenIn_eq_ok_iff.mp hc) (definitions_eq_ok_iff.mp hv)
      · rintro (ht | ⟨hk, ha, hc, hv⟩)
        · exact absurd hm (exists_mark_of_isTag ht)
        · refine bind_eq_ok_iff.mpr ⟨(), checkKeys_eq_ok_iff.mpr hk, ?_⟩
          refine bind_eq_ok_iff.mpr ⟨_, attributes_eq_ok_iff.mpr ha, ?_⟩
          refine bind_eq_ok_iff.mpr ⟨_, childrenIn_eq_ok_iff.mpr hc, ?_⟩
          exact bind_eq_ok_iff.mpr ⟨_, definitions_eq_ok_iff.mpr hv, rfl⟩
    · have hread : ofJson (.object m) = do
          let tag ← tagOf .root (.object m)
          return ⟨[], [], some [tag]⟩ := by
        rw [ofJson]
        simp [hm]
      rw [hread, bind_eq_ok_iff]
      simp only [tagOf_object_eq_ok_iff]
      constructor
      · rintro ⟨t, ht, h⟩
        obtain rfl := Except.ok.inj h
        exact .tag ht
      · rintro (ht | ⟨hk, -, -, -⟩)
        · exact ⟨_, ht, rfl⟩
        · exact absurd (marks_eq_nil_of_onlyKeys hk) hm
  | _ => exact iff_of_false (fun h => nomatch h) (fun h => nomatch h)

end

end SvgSkeleton.Manifest
