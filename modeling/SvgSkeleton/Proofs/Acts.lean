import SvgSkeleton.Proofs.Counting
import SvgSkeleton.Proofs.Environment

/-!
What a manifest asks for, as a list in document order: texts to fill in, assets to read, folders
to include. Resolving performs the list. It succeeds if every act does, and fails with the failure
of the first act that does not.

Each text comes with the variables that are defined where it stands, as one list of pairs.
-/

namespace SvgSkeleton

namespace Manifest

mutual

/-- A tag and all tags inside it, in document order. -/
def Tag.all : Tag → List Tag
  | .image path kind attrs vars kids => .image path kind attrs vars kids :: allOfChildren kids
  | .generic name attrs vars kids => .generic name attrs vars kids :: allOfChildren kids
  | t => [t]

def allOfChildren : Option (List Tag) → List Tag
  | none => []
  | some tags => allOfTags tags

def allOfTags : List Tag → List Tag
  | [] => []
  | t :: rest => t.all ++ allOfTags rest

end

@[simp] lemma Tag.all_container (path : String) : (container path).all = [container path] := rfl

@[simp] lemma Tag.all_font (faces : List FontFace) (attrs : Bindings) :
    (font faces attrs).all = [font faces attrs] := rfl

@[simp] lemma Tag.all_nestedSvg (path : String) (attrs : Bindings) :
    (nestedSvg path attrs).all = [nestedSvg path attrs] := rfl

@[simp] lemma Tag.all_text (content : String) (raw : Bool) :
    (text content raw).all = [text content raw] := rfl

/-- All tags of a manifest, at any depth. -/
def Root.tags (r : Root) : List Tag := allOfChildren r.children

/-- The paths of the containers among tags. -/
def paths (tags : List Tag) : List String :=
  tags.filterMap fun
    | .container path => some path
    | _ => none

lemma container_mem_iff {tags : List Tag} {path : String} :
    Tag.container path ∈ tags ↔ path ∈ paths tags := by
  rw [paths, List.mem_filterMap]
  constructor
  · intro h
    exact ⟨_, h, rfl⟩
  · rintro ⟨t, ht, hp⟩
    cases t with
    | container _ =>
      obtain rfl := Option.some.inj hp
      exact ht
    | _ => cases hp

end Manifest

namespace Resolve

open Manifest (Tag FontFace Root)

/-- A single thing that a manifest asks for. -/
inductive Act where
  | fill (vars : Bindings) (element text : String)
  | image (path : String) (kind : Option String)
  | face (face : FontFace)
  | markup (path : String)
  | folder (path : String)

/-- The texts among the values of attributes. -/
def attrActs (vars : Bindings) (element : String) (attrs : Bindings) : List Act :=
  attrs.filterMap fun a =>
    match a.2 with
    | .text value => some (.fill vars element value)
    | .number _ => none

def faceActs (vars : Bindings) (face : FontFace) : List Act :=
  .face face :: attrActs vars "style" face.attrs

mutual

/-- What a tag asks for where `vars` are defined. -/
def tagActs (vars : Bindings) : Tag → List Act
  | .container path => [.folder path]
  | .image path kind attrs own kids =>
    .image path kind :: (attrActs (vars ++ own) "image" attrs ++ childrenActs (vars ++ own) kids)
  | .font faces attrs => faces.flatMap (faceActs vars) ++ attrActs vars "defs" attrs
  | .nestedSvg path attrs => .markup path :: attrActs vars "g" attrs
  | .text content raw => if raw then [] else [.fill vars "text" content]
  | .generic name attrs own kids =>
    attrActs (vars ++ own) name attrs ++ childrenActs (vars ++ own) kids

def childrenActs (vars : Bindings) : Option (List Tag) → List Act
  | none => []
  | some tags => tagListActs vars tags

def tagListActs (vars : Bindings) : List Tag → List Act
  | [] => []
  | t :: rest => tagActs vars t ++ tagListActs vars rest

end

/-- What a manifest asks for in whose scope `vars` are the outer variables. -/
def rootActs (vars : Bindings) (r : Root) : List Act :=
  attrActs (vars ++ r.vars) "svg" r.attrs ++ childrenActs (vars ++ r.vars) r.children

lemma folder_notMem_attrActs {vars attrs : Bindings} {element path : String} :
    .folder path ∉ attrActs vars element attrs := by
  intro h
  obtain ⟨a, -, ha⟩ := List.mem_filterMap.mp h
  obtain ⟨name, value⟩ := a
  cases value <;> cases ha

/-- The folders that tags ask for are those of the containers among them. -/
lemma folder_mem_acts_iff (path : String) :
    (∀ vars t, .folder path ∈ tagActs vars t ↔ Tag.container path ∈ t.all) ∧
      (∀ vars kids, .folder path ∈ childrenActs vars kids ↔
        Tag.container path ∈ Manifest.allOfChildren kids) ∧
      ∀ vars ts, .folder path ∈ tagListActs vars ts ↔
        Tag.container path ∈ Manifest.allOfTags ts := by
  apply tagActs.mutual_induct
  all_goals intros
  all_goals
    simp_all [tagActs, childrenActs, tagListActs, Tag.all, Manifest.allOfChildren,
      Manifest.allOfTags, faceActs, folder_notMem_attrActs]

lemma folder_mem_rootActs_iff {vars : Bindings} {r : Root} {path : String} :
    .folder path ∈ rootActs vars r ↔ Tag.container path ∈ r.tags := by
  rw [rootActs, List.mem_append, (folder_mem_acts_iff path).2.1]
  exact or_iff_right folder_notMem_attrActs

/-- An outcome without its value. -/
def done {α : Type} (o : Outcome α) : Outcome Unit := o.map fun _ => ()

/-- Is the act one that succeeds? -/
def perform (s : Surroundings) : Act → Outcome Unit
  | .fill vars element text =>
    match vars.fillIn text with
    | .ok _ => .ok ()
    | .error name => .error (.unresolvedVariable name element)
  | .image path kind => done (image s path kind)
  | .face face => done (fontBytes s face)
  | .markup path => done (nestedMarkup s path)
  | .folder path => done (s.included path).result

def performAll (s : Surroundings) (acts : List Act) : Outcome Unit := acts.forM (perform s)

/-- Performing a list in order comes to an act if all acts before it succeed. -/
def ComesTo (s : Surroundings) (acts : List Act) (a : Act) : Prop :=
  ∃ before after, acts = before ++ a :: after ∧ ∀ b ∈ before, perform s b = .ok ()

section

variable {α β : Type} {s : Surroundings}

lemma ComesTo.mem {acts : List Act} {a : Act} (h : ComesTo s acts a) : a ∈ acts := by
  obtain ⟨before, after, rfl, -⟩ := h
  exact List.mem_append_right _ List.mem_cons_self

@[simp] lemma performAll_nil : performAll s [] = .ok () := rfl

@[simp] lemma performAll_cons (a : Act) (acts : List Act) :
    performAll s (a :: acts) = perform s a >>= fun _ => performAll s acts := rfl

@[simp] lemma performAll_singleton (a : Act) : performAll s [a] = perform s a := by
  rw [performAll_cons]
  cases perform s a <;> rfl

@[simp] lemma performAll_append (a b : List Act) :
    performAll s (a ++ b) = performAll s a >>= fun _ => performAll s b := by
  induction a with
  | nil => rfl
  | cons x a ih =>
    rw [List.cons_append, performAll_cons, performAll_cons, ih]
    cases perform s x <;> rfl

lemma performAll_eq_ok_iff {acts : List Act} :
    performAll s acts = .ok () ↔ ∀ a ∈ acts, perform s a = .ok () := by
  induction acts with
  | nil => simp
  | cons a acts ih =>
    rw [performAll_cons, List.forall_mem_cons, ← ih]
    cases perform s a with
    | ok u => simp [bind, Except.bind]
    | error e => simp [bind, Except.bind]

lemma performAll_eq_error_iff {acts : List Act} {e : Error} :
    performAll s acts = .error e ↔ ∃ a, ComesTo s acts a ∧ perform s a = .error e := by
  constructor
  · intro h
    induction acts with
    | nil => cases h
    | cons a acts ih =>
      rw [performAll_cons] at h
      cases ha : perform s a with
      | error e' =>
        rw [ha] at h
        exact ⟨a, ⟨[], acts, rfl, by simp⟩, by rw [ha]; exact h⟩
      | ok u =>
        rw [ha] at h
        obtain ⟨b, ⟨before, after, rfl, hb⟩, hf⟩ := ih h
        exact ⟨b, ⟨a :: before, after, rfl, List.forall_mem_cons.mpr ⟨ha, hb⟩⟩, hf⟩
  · rintro ⟨a, ⟨before, after, rfl, hb⟩, hf⟩
    rw [performAll_append, performAll_eq_ok_iff.mpr hb, performAll_cons, hf]
    rfl

@[simp] lemma done_ok (a : α) : done (.ok a) = .ok () := rfl

@[simp] lemma done_error (e : Error) : done (.error e : Outcome α) = .error e := rfl

lemma done_eq_ok_iff {o : Outcome α} : done o = .ok () ↔ ∃ a, o = .ok a := by
  cases o <;> simp

lemma done_eq_error_iff {o : Outcome α} {e : Error} : done o = .error e ↔ o = .error e := by
  cases o <;> simp

@[simp] lemma done_map (f : α → β) (o : Outcome α) : done (f <$> o) = done o := by
  cases o <;> rfl

/-- Two runs after one another perform the acts of the one and then those of the other. -/
lemma done_bind {r : Run α} {f : α → Run β} [r.Adds] [∀ a, (f a).Adds] {a b : List Act}
    (hr : done r.result = performAll s a) (hf : ∀ x, done (f x).result = performAll s b) :
    done (r >>= f).result = performAll s (a ++ b) := by
  rw [performAll_append, ← hr, Run.result_bind]
  cases r.result with
  | ok x => exact hf x
  | error e => rfl

/-- What cannot fail performs no acts. -/
lemma done_bind_last {r : Run α} {f : α → Run β} [r.Adds] [∀ a, (f a).Adds]
    (hf : ∀ x, done (f x).result = .ok ()) : done (r >>= f).result = done r.result := by
  rw [Run.result_bind]
  cases r.result with
  | ok x => exact hf x
  | error e => rfl

lemma done_bind_count {new : Stats} {f : Unit → Run β} [∀ a, (f a).Adds] :
    done (Run.count new >>= f).result = done (f ()).result := by
  rw [Run.result_bind]
  rfl

end

/-! ### Resolving performs the acts -/

section

variable {s : Surroundings} {scope : Scope}

lemma result_fillText (element text : String) :
    (fillText scope element text).result =
      (scope.flat.fillIn text).mapError (.unresolvedVariable · element) := by
  have h := Scope.interpolate_eq scope text
  rw [← h, fillText]
  cases scope.interpolate text <;> rfl

lemma done_fillText (element text : String) :
    done (fillText scope element text).result =
      performAll s [.fill scope.flat element text] := by
  rw [performAll_singleton, perform, result_fillText]
  cases scope.flat.fillIn text <;> rfl

lemma done_mapM {α β : Type} {f : α → Run β} [∀ a, (f a).Adds] {acts : α → List Act}
    (hf : ∀ a, done (f a).result = performAll s (acts a)) (l : List α) :
    done (l.mapM f).result = performAll s (l.flatMap acts) := by
  induction l with
  | nil => rfl
  | cons a l ih =>
    rw [List.mapM_cons, List.flatMap_cons]
    refine done_bind (hf a) fun b => ?_
    rw [bind_pure_comp, Run.result_map, done_map]
    exact ih

lemma done_fillAttr (element : String) (a : String × Scalar) :
    done (fillAttr scope element a).result = performAll s (attrActs scope.flat element [a]) := by
  obtain ⟨name, value⟩ := a
  cases value with
  | text value =>
    have h : attrActs scope.flat element [(name, .text value)] =
        [.fill scope.flat element value] := rfl
    rw [h, ← done_fillText, fillAttr]
    exact done_bind_last fun _ => rfl
  | number value => rfl

lemma attrActs_eq_flatMap (vars : Bindings) (element : String) (attrs : Bindings) :
    attrActs vars element attrs = attrs.flatMap fun a => attrActs vars element [a] := by
  induction attrs with
  | nil => rfl
  | cons a attrs ih =>
    rw [List.flatMap_cons, ← ih]
    obtain ⟨name, value⟩ := a
    cases value <;> rfl

lemma done_fillAttrs (element : String) (attrs : Bindings) :
    done (fillAttrs scope element attrs).result =
      performAll s (attrActs scope.flat element attrs) := by
  rw [fillAttrs, bind_pure_comp, Run.result_map, done_map, attrActs_eq_flatMap]
  exact done_mapM (done_fillAttr element) attrs

lemma done_fontFace (face : FontFace) :
    done (fontFace s scope face).result = performAll s (faceActs scope.flat face) := by
  show _ = performAll s ([.face face] ++ attrActs _ _ _)
  refine done_bind ?_ fun loaded => ?_
  · rw [Run.result_ofOutcome, performAll_singleton, perform]
  · rw [← done_fillAttrs]
    exact done_bind_last fun _ => done_bind_count

lemma done_font (faces : List FontFace) (attrs : Bindings) :
    done (font s scope faces attrs).result =
      performAll s (tagActs scope.flat (.font faces attrs)) := by
  refine done_bind (done_mapM done_fontFace faces) fun rules => ?_
  rw [← done_fillAttrs]
  exact done_bind_last fun _ => done_bind_count

lemma done_nestedSvg (path : String) (attrs : Bindings) :
    done (nestedSvg s scope path attrs).result =
      performAll s (tagActs scope.flat (.nestedSvg path attrs)) := by
  show _ = performAll s ([.markup path] ++ attrActs _ _ _)
  refine done_bind ?_ fun markup => ?_
  · rw [Run.result_ofOutcome, performAll_singleton, perform]
  · rw [← done_fillAttrs]
    exact done_bind_last fun _ => done_bind_count

lemma done_text (content : String) (raw : Bool) :
    done (text scope content raw).result =
      performAll s (tagActs scope.flat (.text content raw)) := by
  rw [text, done_bind_count]
  cases raw with
  | true => rfl
  | false =>
    rw [tagActs, if_neg Bool.false_ne_true, if_neg Bool.false_ne_true, ← done_fillText]
    exact done_bind_last fun _ => rfl

variable [∀ path, (s.included path).Adds]

/-- Tags, lists of children and lists of tags perform their acts. -/
lemma done_tags :
    (∀ scope t, done (tag s scope t).result = performAll s (tagActs scope.flat t)) ∧
      (∀ scope kids, done (children s scope kids).result =
        performAll s (childrenActs scope.flat kids)) ∧
      ∀ scope ts, done (tagList s scope ts).result = performAll s (tagListActs scope.flat ts) := by
  refine tag.mutual_induct _ _ _ ?container ?image ?font ?nestedSvg ?text ?generic ?none ?some
    ?nil ?cons
  case container =>
    intro scope path
    rw [tag, tagActs, performAll_singleton, perform]
    exact done_bind_last fun _ => rfl
  case image =>
    intro scope path kind attrs own kids ih
    rw [tag, tagActs, ← Scope.flat_cons]
    show _ = performAll s ([.image path kind] ++ (_ ++ _))
    refine done_bind ?_ fun loaded => ?_
    · rw [Run.result_ofOutcome, performAll_singleton, perform]
    · refine done_bind (done_fillAttrs ..) fun attrs => ?_
      rw [← ih]
      exact done_bind_last fun _ => done_bind_count
  case font =>
    intro scope faces attrs
    rw [← done_font, tag]
    exact done_bind_last fun _ => rfl
  case nestedSvg =>
    intro scope path attrs
    rw [← done_nestedSvg, tag]
    exact done_bind_last fun _ => rfl
  case text =>
    intro scope content raw
    rw [← done_text, tag]
  case generic =>
    intro scope name attrs own kids inner ih
    rw [tag, tagActs, ← Scope.flat_cons]
    refine done_bind (done_fillAttrs ..) fun attrs => ?_
    rw [← ih]
    exact done_bind_last fun _ => done_bind_count
  case none =>
    intro scope
    rfl
  case some =>
    intro scope ts ih
    rw [childrenActs, ← ih, children]
    exact done_bind_last fun _ => rfl
  case nil =>
    intro scope
    rfl
  case cons =>
    intro scope t rest iht ihrest
    rw [tagListActs, tagList]
    refine done_bind iht fun node => ?_
    rw [← ihrest]
    exact done_bind_last fun _ => rfl

/-- **A manifest is resolved by performing its acts in order.** -/
theorem done_root (scope : Scope) (r : Root) :
    done (root s scope r).result = performAll s (rootActs scope.flat r) := by
  rw [root, rootActs, ← Scope.flat_cons]
  refine done_bind (done_fillAttrs ..) fun attrs => ?_
  rw [← (done_tags (s := s)).2.1]
  exact done_bind_last fun _ => done_bind_count

end

end Resolve
end SvgSkeleton
