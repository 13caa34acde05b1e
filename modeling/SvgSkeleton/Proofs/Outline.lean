import Mathlib.Data.List.Forall2
import SvgSkeleton.Proofs.Counting
import SvgSkeleton.Proofs.Names
import SvgSkeleton.Store

/-!
Values are only values. The outline of a picture is what is left of it without the values of its
attributes and the content of its texts. It depends on which variables have values, and not on the
values: those never become names, paths or markup. Two runs are compared side by side: they are
alike if they count the same and both fail in the same way, or both succeed with values that belong
together, and runs that are alike step by step are alike.
-/

namespace SvgSkeleton

/-! ### Two runs side by side -/

section

variable {α β γ δ : Type} {R : α → β → Prop} {S : γ → δ → Prop}

/-- Both outcomes are the same failure, or values that belong together. -/
inductive Outcome.Alike (R : α → β → Prop) : Outcome α → Outcome β → Prop
  | ok {a : α} {b : β} (h : R a b) : Alike R (.ok a) (.ok b)
  | error (e : Error) : Alike R (.error e) (.error e)

lemma Outcome.Alike.map_eq {f : α → γ} {g : β → γ} {o : Outcome α} {o' : Outcome β}
    (h : Outcome.Alike (fun a b => f a = g b) o o') : o.map f = o'.map g := by
  cases h with
  | ok h => exact congrArg Except.ok h
  | error e => rfl

namespace Run

/-- Whatever the counts they start from, the runs come to the same counts and are alike. -/
def Alike (R : α → β → Prop) (r : Run α) (r' : Run β) : Prop :=
  ∀ s, (r.start s).2 = (r'.start s).2 ∧ Outcome.Alike R (r.start s).1 (r'.start s).1

namespace Alike

lemma pure {a : α} {b : β} (h : R a b) : Alike R (Pure.pure a : Run α) (Pure.pure b) :=
  fun _ => ⟨rfl, .ok h⟩

lemma throw (e : Error) : Alike R (MonadExcept.throw e : Run α) (MonadExcept.throw e) :=
  fun _ => ⟨rfl, .error e⟩

lemma refl (r : Run α) : Alike Eq r r := by
  intro s
  refine ⟨rfl, ?_⟩
  cases (r.start s).1 with
  | ok a => exact .ok rfl
  | error e => exact .error e

lemma bind {r : Run α} {r' : Run β} {f : α → Run γ} {g : β → Run δ} (h : Alike R r r')
    (hf : ∀ a b, R a b → Alike S (f a) (g b)) : Alike S (r >>= f) (r' >>= g) := by
  intro s
  obtain ⟨hcount, ho⟩ := h s
  rw [start_bind, start_bind]
  rcases hr : r.start s with ⟨o, t⟩
  rcases hr' : r'.start s with ⟨o', t'⟩
  rw [hr, hr'] at hcount ho
  obtain rfl : t = t' := hcount
  cases ho with
  | ok hab => exact hf _ _ hab t
  | error e => exact ⟨rfl, .error e⟩

/-- The same run, followed by runs that are alike. -/
lemma bind_same {r : Run α} {f : α → Run γ} {g : α → Run δ} (hf : ∀ a, Alike S (f a) (g a)) :
    Alike S (r >>= f) (r >>= g) := by
  refine (refl r).bind fun a b hab => ?_
  obtain rfl : a = b := hab
  exact hf a

lemma mapM {ι : Type} {f : ι → Run α} {g : ι → Run β} (h : ∀ i, Alike R (f i) (g i))
    (l : List ι) : Alike (List.Forall₂ R) (l.mapM f) (l.mapM g) := by
  induction l with
  | nil => exact pure .nil
  | cons i l ih =>
    rw [List.mapM_cons, List.mapM_cons]
    exact (h i).bind fun a b hab => ih.bind fun as bs habs => pure (.cons hab habs)

end Alike

end Run

end

/-! ### Outlines -/

namespace Attributes

/-- The names with nothing for values. -/
def outline (a : Attributes) : Attributes := ⟨a.toList.map fun e => (e.1, "")⟩

lemma outline_eq_iff {a b : Attributes} : a.outline = b.outline ↔ a.names = b.names := by
  have h (a : Attributes) : a.outline = ⟨a.names.map fun n => (n, "")⟩ := by
    simp [outline, names, Function.comp_def]
  have hinj : Function.Injective fun n : String => (n, "") := fun m n h => (Prod.mk.inj h).1
  rw [h, h, Attributes.mk.injEq]
  exact (List.map_injective_iff.mpr hinj).eq_iff

lemma names_set_congr {a b : Attributes} {name v w : String} (h : a.names = b.names) :
    (a.set name v).names = (b.set name w).names := by
  rw [names_set, names_set, h]

lemma names_setAll_congr {a b : Attributes} {v w : List (String × String)}
    (h : a.names = b.names) (hn : v.map (·.1) = w.map (·.1)) :
    (a.setAll v).names = (b.setAll w).names := by
  induction v generalizing a b w with
  | nil =>
    obtain rfl : w = [] := List.map_eq_nil_iff.mp hn.symm
    exact h
  | cons e v ih =>
    cases w with
    | nil => cases hn
    | cons f w =>
      obtain ⟨he, hn⟩ := List.cons.inj hn
      show ((a.set e.1 e.2).setAll v).names = ((b.set f.1 f.2).setAll w).names
      refine ih ?_ hn
      rw [show e.1 = f.1 from he]
      exact names_set_congr h

lemma names_setDefaultFirst_congr {a b : Attributes} (h : a.names = b.names)
    (name value : String) :
    (a.setDefaultFirst name value).names = (b.setDefaultFirst name value).names := by
  rw [names_setDefaultFirst, names_setDefaultFirst, h]

end Attributes

mutual

/-- The node without the values of attributes and the content of texts. Markup stays. -/
def Node.outline : Node → Node
  | .element name attrs children paired =>
    .element name attrs.outline (Node.outlineAll children) paired
  | .text content raw => .text (if raw then content else "") raw

def Node.outlineAll : List Node → List Node
  | [] => []
  | node :: rest => node.outline :: Node.outlineAll rest

end

namespace Element

def outline (e : Element) : Element :=
  { e with attrs := e.attrs.outline, children := Node.outlineAll e.children }

lemma outline_toNode (e : Element) : e.toNode.outline = e.outline.toNode := by
  rw [toNode, Node.outline]
  rfl

lemma outline_ofChildren (name : String) {a b : Attributes} {kids kids' : Option (List Node)}
    (ha : a.names = b.names) (hk : kids.map Node.outlineAll = kids'.map Node.outlineAll) :
    (ofChildren name a kids).outline = (ofChildren name b kids').outline := by
  have ha := Attributes.outline_eq_iff.mpr ha
  cases kids with
  | none =>
    obtain rfl : kids' = none := Option.map_eq_none_iff.mp hk.symm
    simp [ofChildren, single, outline, ha]
  | some nodes =>
    cases kids' with
    | none => cases hk
    | some nodes' =>
      have hk : Node.outlineAll nodes = Node.outlineAll nodes' := Option.some.inj hk
      simp [ofChildren, pair, outline, ha, hk]

end Element

/-! ### Filling in -/

/-- Do the frames define the same names in the same order? -/
def Bindings.SameNames (a b : Bindings) : Prop := a.map (·.1) = b.map (·.1)

def Scope.SameNames (a b : Scope) : Prop := List.Forall₂ Bindings.SameNames a b

lemma Bindings.SameNames.isSome_last? {a b : Bindings} (h : a.SameNames b) (name : String) :
    (a.last? name).isSome = (b.last? name).isSome := by
  have hmem (a : Bindings) : (a.last? name).isSome = true ↔ name ∈ a.map (·.1) := by
    rw [last?, isSome_lookup_iff, List.map_reverse, List.mem_reverse]
  rw [Bool.eq_iff_iff, hmem, hmem, show a.map (·.1) = b.map (·.1) from h]

namespace Scope

variable {a b : Scope}

lemma SameNames.isSome_find? (h : SameNames a b) (name : String) :
    (a.find? name).isSome = (b.find? name).isSome := by
  induction h with
  | nil => rfl
  | @cons frame frame' a b hf _ ih =>
    have hlast := hf.isSome_last? name
    rw [find?, find?]
    cases hl : frame.last? name <;> cases hl' : frame'.last? name <;> simp_all

/-- Filling in one more piece fails for the same name, or fills as many placeholders. -/
lemma SameNames.fill_eq (h : SameNames a b) {done done' : String × Nat} (hd : done.2 = done'.2)
    (p : Piece) : (a.fill done p).map (·.2) = (b.fill done' p).map (·.2) := by
  cases p with
  | copy c => exact congrArg Except.ok hd
  | hole name =>
    have hfind := h.isSome_find? name
    rw [fill, fill]
    cases ha : a.find? name <;> cases hb : b.find? name <;> simp_all [Except.map]

lemma SameNames.foldlM_fill_eq (h : SameNames a b) (pieces : List Piece)
    {done done' : String × Nat} (hd : done.2 = done'.2) :
    (pieces.foldlM (fill a) done).map (·.2) = (pieces.foldlM (fill b) done').map (·.2) := by
  induction pieces generalizing done done' with
  | nil => exact congrArg Except.ok hd
  | cons p rest ih =>
    have hp := h.fill_eq hd p
    rw [List.foldlM_cons, List.foldlM_cons]
    cases ha : a.fill done p with
    | error name =>
      cases hb : b.fill done' p with
      | error name' =>
        rw [ha, hb] at hp
        exact hp
      | ok next' => simp [ha, hb, Except.map] at hp
    | ok next =>
      cases hb : b.fill done' p with
      | error name' => simp [ha, hb, Except.map] at hp
      | ok next' => exact ih (by simpa [ha, hb, Except.map] using hp)

end Scope

namespace Resolve

open Manifest (Tag FontFace Root Loaded)

section

variable {s : Surroundings} {a b : Scope}

lemma alike_fillText (h : a.SameNames b) (element text : String) :
    Run.Alike (fun _ _ => True) (fillText a element text) (fillText b element text) := by
  have hi : (a.interpolate text).map (·.2) = (b.interpolate text).map (·.2) :=
    h.foldlM_fill_eq _ rfl
  unfold fillText
  cases ha : a.interpolate text with
  | error name =>
    cases hb : b.interpolate text with
    | error name' =>
      obtain rfl : name = name' := by simpa [ha, hb, Except.map] using hi
      exact .throw _
    | ok filled => simp [ha, hb, Except.map] at hi
  | ok filled =>
    cases hb : b.interpolate text with
    | error name' => simp [ha, hb, Except.map] at hi
    | ok filled' =>
      have hn : filled.2 = filled'.2 := by simpa [ha, hb, Except.map] using hi
      show Run.Alike _ (do Run.count (.ofInterpolations filled.2); pure filled.1)
        (do Run.count (.ofInterpolations filled'.2); pure filled'.1)
      rw [hn]
      exact .bind_same fun _ => .pure trivial

lemma alike_fillAttr (h : a.SameNames b) (element : String) (attr : String × Scalar) :
    Run.Alike (fun x y => x.1 = y.1) (fillAttr a element attr) (fillAttr b element attr) := by
  obtain ⟨name, value⟩ := attr
  cases value with
  | text value => exact (alike_fillText h element value).bind fun _ _ _ => .pure rfl
  | number n => exact .pure rfl

lemma alike_fillAttrs (h : a.SameNames b) (element : String) (attrs : Bindings) :
    Run.Alike (fun x y => x.names = y.names) (fillAttrs a element attrs)
      (fillAttrs b element attrs) := by
  refine (Run.Alike.mapM (alike_fillAttr h element) attrs).bind fun x y hxy => .pure ?_
  exact Attributes.names_setAll_congr rfl (List.forall₂_eq_eq_eq ▸ List.forall₂_map_left_iff.mpr
    (List.forall₂_map_right_iff.mpr hxy))

lemma alike_fontFace (h : a.SameNames b) (face : FontFace) :
    Run.Alike (fun _ _ => True) (fontFace s a face) (fontFace s b face) :=
  .bind_same fun _ => (alike_fillAttrs h _ _).bind fun _ _ _ => .bind_same fun _ => .pure trivial

lemma alike_font (h : a.SameNames b) (faces : List FontFace) (attrs : Bindings) :
    Run.Alike (fun x y => x.outline = y.outline) (font s a faces attrs) (font s b faces attrs) := by
  refine (Run.Alike.mapM (alike_fontFace h) faces).bind fun _ _ _ => ?_
  refine (alike_fillAttrs h _ _).bind fun x y hxy => .bind_same fun _ => .pure ?_
  simp [Element.outline, Element.pair, Element.toNode, Node.outline, Node.outlineAll,
    Attributes.outline_eq_iff.mpr hxy]

lemma alike_nestedSvg (h : a.SameNames b) (path : String) (attrs : Bindings) :
    Run.Alike (fun x y => x.outline = y.outline) (nestedSvg s a path attrs)
      (nestedSvg s b path attrs) := by
  refine .bind_same fun _ => (alike_fillAttrs h _ _).bind fun x y hxy => .bind_same fun _ =>
    .pure ?_
  simp [Element.outline, Element.pair, Attributes.outline_eq_iff.mpr hxy]

lemma alike_text (h : a.SameNames b) (content : String) (raw : Bool) :
    Run.Alike (fun x y => x.outline = y.outline) (text a content raw) (text b content raw) := by
  refine .bind_same fun _ => ?_
  cases raw with
  | true => exact .pure rfl
  | false => exact (alike_fillText h _ _).bind fun _ _ _ => .pure (by simp [Node.outline])

/-- Tags, lists of children and lists of tags come to nodes of the same outline. -/
lemma alike_tags :
    (∀ a t, ∀ b, Scope.SameNames a b → Run.Alike (fun x y => x.outline = y.outline)
      (tag s a t) (tag s b t)) ∧
    (∀ a kids, ∀ b, Scope.SameNames a b →
      Run.Alike (fun x y => x.map Node.outlineAll = y.map Node.outlineAll)
        (children s a kids) (children s b kids)) ∧
    ∀ a ts, ∀ b, Scope.SameNames a b →
      Run.Alike (fun x y => Node.outlineAll x = Node.outlineAll y)
        (tagList s a ts) (tagList s b ts) := by
  refine tag.mutual_induct _ _ _ ?container ?image ?font ?nestedSvg ?text ?generic ?none ?some
    ?nil ?cons
  case container =>
    intro a path b h
    rw [tag, tag]
    exact .bind_same fun _ => .pure rfl
  case image =>
    intro a path kind attrs own kids ih b h
    rw [tag, tag]
    have hin : Scope.SameNames (own :: a) (own :: b) := .cons rfl h
    refine .bind_same fun loaded => (alike_fillAttrs hin _ _).bind fun x y hxy => ?_
    refine (ih _ hin).bind fun nodes nodes' hn => .bind_same fun _ => .pure ?_
    rw [Element.outline_toNode, Element.outline_toNode]
    exact congrArg _ (Element.outline_ofChildren _ (Attributes.names_setAll_congr rfl hxy) hn)
  case font =>
    intro a faces attrs b h
    rw [tag, tag]
    refine (alike_font h faces attrs).bind fun x y hxy => .pure ?_
    rw [Element.outline_toNode, Element.outline_toNode, hxy]
  case nestedSvg =>
    intro a path attrs b h
    rw [tag, tag]
    refine (alike_nestedSvg h path attrs).bind fun x y hxy => .pure ?_
    rw [Element.outline_toNode, Element.outline_toNode, hxy]
  case text =>
    intro a content raw b h
    rw [tag, tag]
    exact alike_text h content raw
  case generic =>
    intro a name attrs own kids inner ih b h
    rw [tag, tag]
    have hin : Scope.SameNames (own :: a) (own :: b) := .cons rfl h
    refine (alike_fillAttrs hin _ _).bind fun x y hxy => ?_
    refine (ih _ hin).bind fun nodes nodes' hn => .bind_same fun _ => .pure ?_
    rw [Element.outline_toNode, Element.outline_toNode]
    exact congrArg _ (Element.outline_ofChildren _ hxy hn)
  case none =>
    intro a b h
    exact .pure rfl
  case some =>
    intro a ts ih b h
    rw [children, children]
    exact (ih b h).bind fun x y hxy => .pure (congrArg some hxy)
  case nil =>
    intro a b h
    exact .pure rfl
  case cons =>
    intro a t rest iht ihrest b h
    rw [tagList, tagList]
    refine (iht b h).bind fun x y hxy => (ihrest b h).bind fun xs ys hxys => .pure ?_
    rw [Node.outlineAll, Node.outlineAll, hxy, hxys]

lemma alike_root (h : a.SameNames b) (r : Root) :
    Run.Alike (fun x y => x.outline = y.outline) (root s a r) (root s b r) := by
  have hin : Scope.SameNames (r.vars :: a) (r.vars :: b) := .cons rfl h
  refine (alike_fillAttrs hin _ _).bind fun x y hxy => ?_
  refine (alike_tags.2.1 _ _ _ hin).bind fun nodes nodes' hn => .bind_same fun _ => .pure ?_
  exact Element.outline_ofChildren _ hxy hn

end

/-- **The values of variables change nothing but values.** With other values for the variables
around it, a manifest fails in the same way or becomes a picture of the same outline, and the same
things are counted. -/
theorem outline_document_eq (env : Setting) (m : Loaded) {globals others : Bindings}
    (h : globals.map (·.1) = others.map (·.1)) (stats : Stats) :
    ((document env m globals).start stats).1.map Element.outline =
        ((document env m others).start stats).1.map Element.outline ∧
      ((document env m globals).start stats).2 = ((document env m others).start stats).2 := by
  have hscope : Scope.SameNames [globals] [others] := .cons h .nil
  have halike : Run.Alike (fun x y => x.outline = y.outline) (document env m globals)
      (document env m others) := by
    refine .bind_same fun folder => (alike_root hscope m.root).bind fun x y hxy => .pure ?_
    obtain ⟨name, attrs, nodes, paired⟩ := x
    obtain ⟨name', attrs', nodes', paired'⟩ := y
    obtain ⟨rfl, ha, hn, rfl⟩ := Element.mk.inj hxy
    have ha := Attributes.names_setDefaultFirst_congr (Attributes.outline_eq_iff.mp ha) "xmlns"
      svgNamespace
    rw [Element.outline, Element.outline, Attributes.outline_eq_iff.mpr ha]
    simp [hn]
  exact ⟨(halike stats).2.map_eq, (halike stats).1⟩

/-- A manifest that shows a variable in an attribute and as text. -/
def showing : Loaded :=
  ⟨⟨[("id", .text "\x7bx\x7d")], [], some [.text "\x7bx\x7d" false]⟩, "", "collagen.json",
    .plain, 0⟩

/-- No files. -/
def noFiles : Setting := ⟨MemoryFiles.toStore .empty, .empty, none, 64⟩

theorem outline_of_markup_as_value :
    [("x", Scalar.text "1")].map (·.1) = [("x", Scalar.text "\"></svg>")].map (·.1) ∧
      ((document noFiles showing [("x", .text "\"></svg>")]).start .zero).1.map Element.outline =
        .ok ⟨"svg", ⟨[("xmlns", ""), ("id", "")]⟩, [.text "" false], true⟩ ∧
      ((document noFiles showing [("x", .text "\"></svg>")]).start .zero).2.interpolations = 2 := by
  have hnames : [("x", Scalar.text "1")].map (·.1) = [("x", Scalar.text "\"></svg>")].map (·.1) :=
    rfl
  have hone : ((document noFiles showing [("x", .text "1")]).start .zero).1.map Element.outline =
      .ok ⟨"svg", ⟨[("xmlns", ""), ("id", "")]⟩, [.text "" false], true⟩ := by
    rfl
  have hcount :
      ((document noFiles showing [("x", .text "1")]).start .zero).2.interpolations = 2 := by
    rfl
  obtain ⟨hsvg, hstats⟩ := outline_document_eq noFiles showing hnames .zero
  exact ⟨hnames, hsvg ▸ hone, hstats ▸ hcount⟩

end Resolve
end SvgSkeleton
