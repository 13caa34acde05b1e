import SvgSkeleton.CommandLine
import SvgSkeleton.Proofs.Composition
import SvgSkeleton.Proofs.Generation
import SvgSkeleton.Proofs.Lookup
import SvgSkeleton.Proofs.Occurrences

/-!
Where the value of a placeholder comes from. The arguments define names, and so does the
configuration; what an argument defines is not taken from the configuration, and of several
arguments for one name the last counts. These values stand around the manifest at the root: the
variables of its tags are asked first, and an included manifest sees only its own.
-/

namespace SvgSkeleton

/-! ### Last values -/

/-- The last value of a name among texts. -/
lemma Bindings.last?_map_text (vars : List (String × String)) (name : String) :
    last? (vars.map fun v => (v.1, .text v.2)) name = (vars.reverse.lookup name).map .text := by
  unfold last?
  rw [← List.map_reverse]
  induction vars.reverse with
  | nil => rfl
  | cons v rest ih =>
    rw [List.map_cons, Catalog.lookup_cons, Catalog.lookup_cons, ih]
    split <;> rfl

namespace CommandLine

open Resolve (Frame Act)

/-- The values of names that are defined, and then those of the names that are not. -/
lemma lookup_reverse_append_filter (defined : List (String × String)) (c : Catalog String)
    (name : String) :
    (defined ++ c.entries.filter fun v => !defined.any (·.1 == v.1)).reverse.lookup name =
      (defined.reverse.lookup name).or (c.find? name) := by
  have hn : ((c.entries.filter fun v => !defined.any (·.1 == v.1)).map (·.1)).Nodup :=
    c.nodup_keys.sublist (List.filter_sublist.map _)
  rw [List.reverse_append, List.lookup_append, lookup_reverse hn]
  cases hd : defined.reverse.lookup name with
  | some value =>
    have hmem : name ∈ defined.reverse.map (·.1) := isSome_lookup_iff.mp (by rw [hd]; rfl)
    have hnone : (c.entries.filter fun v => !defined.any (·.1 == v.1)).lookup name = none := by
      refine List.lookup_eq_none_iff.mpr fun v hv => bne_iff_ne.mpr ?_
      rintro rfl
      obtain ⟨d, hd, he⟩ := List.mem_map.mp hmem
      have hv := (List.mem_filter.mp hv).2
      simp only [Bool.not_eq_true', List.any_eq_false, beq_iff_eq] at hv
      exact hv d (List.mem_reverse.mp hd) he
    rw [hnone]
    rfl
  | none =>
    have hnot : ∀ d ∈ defined, d.1 ≠ name := by
      intro d hd'
      have := List.lookup_eq_none_iff.mp hd d (List.mem_reverse.mpr hd')
      exact (bne_iff_ne.mp this).symm
    rw [Option.or_none, Option.none_or]
    refine Option.ext fun value => ?_
    rw [lookup_eq_some_iff_mem hn, Catalog.find?, lookup_eq_some_iff_mem c.nodup_keys,
      List.mem_filter]
    refine and_iff_left_of_imp fun _ => ?_
    simpa using hnot

/-! ### Options -/

/-- A definition gives a name the value that stands behind its first equals sign. -/
def Defines (text : String) (d : String × String) : Prop :=
  text.toList = d.1.toList ++ '=' :: d.2.toList ∧ '=' ∉ d.1.toList

/-- The names that are given values, by arguments or by the configuration. -/
def givenNames (settings : Config.Settings) (defined : List (String × String)) : List String :=
  defined.map (·.1) ++ (settings.vars.getD .empty).keys

/-- The value that is given to a name: that of its last definition, else that of the
configuration. -/
def givenValue (settings : Config.Settings) (defined : List (String × String)) (name : String) :
    Option String :=
  (defined.reverse.lookup name).or ((settings.vars.getD .empty).find? name)

section

variable {tree : FileTree} {cwd : Place} {settings : Config.Settings} {given : Given}

lemma definition_eq_ok_iff {text : String} {d : String × String} :
    definition text = .ok d ↔ Defines text d := by
  constructor
  · intro h
    unfold definition at h
    split at h
    · next name value hs =>
      obtain rfl := Except.ok.inj h
      have hs := Text.splitFirst_singleton_eq_some_iff.mp hs
      simpa [Defines] using hs
    · cases h
  · intro hd
    rw [definition, Text.splitFirst_singleton_eq_some_iff.mpr hd]
    simp

lemma exists_config_of_definition {text : String} {e : Error} (h : definition text = .error e) :
    ∃ reason, e = .config reason := by
  unfold definition at h
  split at h
  · cases h
  · obtain rfl := Except.error.inj h
    exact ⟨_, rfl⟩

lemma exists_config_of_fonts {e : Error} (h : fonts tree cwd settings given = .error e) :
    ∃ reason, e = .config reason := by
  unfold fonts at h
  split at h
  · cases h
  · unfold FontTable.extendFromFolder at h
    split at h
    · cases h
    · obtain rfl := Except.error.inj h
      exact ⟨_, rfl⟩

/-- Options are refused for a definition that has no equals sign. -/
lemma exists_config_of_definitions {text : String} (ht : text ∈ given.definitions)
    (hn : '=' ∉ text.toList) :
    ∃ reason, options tree cwd settings given = .error (.config reason) := by
  cases hf : fonts tree cwd settings given with
  | error e =>
    obtain ⟨reason, rfl⟩ := exists_config_of_fonts hf
    exact ⟨reason, bind_eq_error_iff.mpr (.inl hf)⟩
  | ok table =>
    cases hd : given.definitions.mapM definition with
    | ok defined =>
      obtain ⟨d, -, hd⟩ := exists_of_mapM_eq_ok hd ht
      obtain ⟨he, -⟩ := definition_eq_ok_iff.mp hd
      exact absurd (by simp [he]) hn
    | error e =>
      obtain ⟨other, -, ho⟩ := exists_of_mapM_eq_error hd
      obtain ⟨reason, rfl⟩ := exists_config_of_definition ho
      refine ⟨reason, bind_eq_error_iff.mpr (.inr ⟨table, hf, bind_eq_error_iff.mpr (.inl ?_)⟩)⟩
      exact bind_eq_error_iff.mpr (.inl hd)

/-- The variables of options that are not refused. -/
lemma exists_defined_of_options {o : Options} (h : options tree cwd settings given = .ok o) :
    ∃ defined, List.Forall₂ Defines given.definitions defined ∧
      o.vars = defined ++ (settings.vars.getD .empty).entries.filter fun v =>
        !defined.any (·.1 == v.1) := by
  obtain ⟨table, -, h⟩ := bind_eq_ok_iff.mp h
  obtain ⟨vars, hv, h⟩ := bind_eq_ok_iff.mp h
  obtain rfl := Except.ok.inj h
  obtain ⟨defined, hd, hv⟩ := bind_eq_ok_iff.mp hv
  obtain rfl := Except.ok.inj hv
  exact ⟨defined, (mapM_eq_ok_iff.mp hd).imp fun _ _ => definition_eq_ok_iff.mp, rfl⟩

lemma mem_givenNames {defined : List (String × String)} {name : String} :
    name ∈ givenNames settings defined ↔
      name ∈ (defined ++ (settings.vars.getD .empty).entries.filter fun v =>
        !defined.any (·.1 == v.1)).map (·.1) := by
  rw [givenNames, List.map_append, List.mem_append, List.mem_append, Catalog.keys]
  constructor
  · rintro (hd | hc)
    · exact .inl hd
    · by_cases hd : name ∈ defined.map (·.1)
      · exact .inl hd
      · obtain ⟨v, hv, rfl⟩ := List.mem_map.mp hc
        refine .inr (List.mem_map_of_mem (List.mem_filter.mpr ⟨hv, ?_⟩))
        simp only [Bool.not_eq_true', List.any_eq_false, beq_iff_eq]
        exact fun d hm he => hd (List.mem_map.mpr ⟨d, hm, he⟩)
  · rintro (hd | hc)
    · exact .inl hd
    · exact .inr ((List.filter_sublist.map _).subset hc)

end

end CommandLine

/-! ### The outermost variables -/

section

variable {vars : List (String × String)}

lemma frameOf_eq_ok (h : ∀ v ∈ vars, Text.isIdentifier v.1 = true) :
    frameOf vars = .ok (vars.map fun v => (v.1, .text v.2)) := by
  have hf : vars.find? (!Text.isIdentifier ·.1) = none := List.find?_eq_none.mpr (by simpa using h)
  rw [frameOf, hf]

lemma exists_frameOf_eq_error {v : String × String} (hv : v ∈ vars)
    (h : Text.isIdentifier v.1 = false) : ∃ reason, frameOf vars = .error (.config reason) := by
  have hf : (vars.find? (!Text.isIdentifier ·.1)).isSome = true :=
    List.find?_isSome.mpr ⟨v, hv, by simp [h]⟩
  obtain ⟨bad, hb⟩ := Option.isSome_iff_exists.mp hf
  exact ⟨.badVariableName bad.1, by rw [frameOf, hb]⟩

end

namespace Resolve

/-- An act with further variables defined around it. -/
def Act.under (outer : Bindings) : Act → Act
  | .fill vars element text => .fill (outer ++ vars) element text
  | a => a

lemma attrActs_append (outer vars : Bindings) (element : String) (attrs : Bindings) :
    attrActs (outer ++ vars) element attrs = (attrActs vars element attrs).map (.under outer) := by
  induction attrs with
  | nil => rfl
  | cons a attrs ih =>
    obtain ⟨name, value⟩ := a
    cases value with
    | text value =>
      show Act.fill (outer ++ vars) element value :: attrActs (outer ++ vars) element attrs = _
      rw [ih]
      rfl
    | number value => exact ih

lemma faceActs_append (outer vars : Bindings) (face : Manifest.FontFace) :
    faceActs (outer ++ vars) face = (faceActs vars face).map (.under outer) := by
  rw [faceActs, attrActs_append]
  rfl

/-- Variables around tags are put around all that the tags ask for. -/
lemma acts_append (outer : Bindings) :
    (∀ vars t, tagActs (outer ++ vars) t = (tagActs vars t).map (.under outer)) ∧
      (∀ vars kids, childrenActs (outer ++ vars) kids =
        (childrenActs vars kids).map (.under outer)) ∧
      ∀ vars ts, tagListActs (outer ++ vars) ts = (tagListActs vars ts).map (.under outer) := by
  refine tagActs.mutual_induct _ _ _ ?container ?image ?font ?nestedSvg ?raw ?text ?generic ?none
    ?some ?nil ?cons
  case container =>
    intro vars path
    rfl
  case image =>
    intro vars path kind attrs own kids ih
    rw [tagActs, tagActs, List.append_assoc, attrActs_append, ih, ← List.map_append]
    rfl
  case font =>
    intro vars faces attrs
    rw [tagActs, tagActs, attrActs_append, List.map_append, List.map_flatMap,
      funext (faceActs_append outer vars)]
  case nestedSvg =>
    intro vars path attrs
    rw [tagActs, tagActs, attrActs_append]
    rfl
  case raw =>
    intro vars content
    rfl
  case text =>
    rintro vars content raw hraw
    rw [tagActs, tagActs, if_neg hraw, if_neg hraw]
    rfl
  case generic =>
    intro vars name attrs own kids ih
    rw [tagActs, tagActs, List.append_assoc, attrActs_append, ih, ← List.map_append]
  case none =>
    intro vars
    rfl
  case some =>
    intro vars ts ih
    rw [childrenActs, childrenActs, ih]
  case nil =>
    intro vars
    rfl
  case cons =>
    intro vars t rest iht ihrest
    rw [tagListActs, tagListActs, iht, ihrest, List.map_append]

/-- What a manifest asks for, with the variables of its own tags and the outer ones around them. -/
lemma rootActs_eq (outer : Bindings) (r : Manifest.Root) :
    rootActs outer r = (rootActs [] r).map (.under outer) := by
  rw [rootActs, rootActs, List.nil_append, attrActs_append, (acts_append outer).2.1,
    List.map_append]

/-- A text in which every name has a value can be filled in, and no other can. -/
lemma isSome_of_fillIn {vars : Bindings} {text out name : String} (h : vars.fillIn text = .ok out)
    (hn : .hole name ∈ Piece.ofText text.toList) : (vars.last? name).isSome = true := by
  obtain ⟨values, hv, -⟩ := bind_eq_ok_iff.mp h
  obtain ⟨value, -, hp⟩ := exists_of_mapM_eq_ok hv hn
  rw [Piece.valueIn] at hp
  cases hl : vars.last? name with
  | none =>
    rw [hl] at hp
    cases hp
  | some v => rfl

/-- All frames of a run that succeeds do. -/
lemma outcome_eq_ok_of_stack {env : Setting} {top f : Frame} {fs : List Frame}
    (hs : Frame.Stack env top (f :: fs)) (h : top.outcome env = .ok ()) :
    f.outcome env = .ok () := by
  cases ho : f.outcome env with
  | ok => rfl
  | error e =>
    rw [Frame.outcome_of_stack hs ho] at h
    cases h

end Resolve
open Resolve

namespace CommandLine

/-- A name has a value inside tags that define `own`: one that they give it or, in the manifest that
no other one includes, one that is given around all of it. -/
def HasValue (value : String → Option String) (below : List Frame) (own : Bindings)
    (name : String) : Prop :=
  (own.last? name).isSome = true ∨ below = [] ∧ (value name).isSome = true

/-- The variables `globals` of a picture give names the values of `value`, and do so in the manifest
at its root only. -/
structure Outermost (store : Store) (o : Options) (value : String → Option String)
    (globals : Bindings) : Prop where
  /-- What the tags around a text define wins. -/
  last?_eq (own : Bindings) (name : String) :
    (globals ++ own).last? name = (own.last? name).or ((value name).map .text)
  /-- The manifest at the root is filled in from `globals` and the tags around each text. -/
  becomes {doc : Document} (h : generate store o = .ok doc) :
    ∃ m made, Manifest.load store o.compiler "" = .ok m ∧
      RootBecomes (o.setting store) m globals made ∧
      doc.svg = Markup.printElement
        { made with attrs := made.attrs.setDefaultFirst "xmlns" svgNamespace }
  /-- Included manifests begin without variables. -/
  inside {m : Manifest.Loaded} {d : String} {f g : Frame} {fs : List Frame}
    (hs : Frame.Stack (o.setting store) ⟨.root d, m, globals⟩ (g :: f :: fs)) : g.vars = []
  /-- In a picture, every placeholder of every manifest has a value. -/
  hasValue {m : Manifest.Loaded} {d : String} {f : Frame} {fs : List Frame} {doc : Document}
    {own : Bindings} {element text name : String}
    (hm : Manifest.load store o.compiler "" = .ok m) (hd : store.canonicalFolder "" = .ok d)
    (hs : Frame.Stack (o.setting store) ⟨.root d, m, globals⟩ (f :: fs))
    (h : generate store o = .ok doc) (ha : .fill own element text ∈ rootActs [] f.manifest.root)
    (hn : .hole name ∈ Piece.ofText text.toList) : HasValue value fs own name
  /-- A run that comes to a placeholder without a value fails for it. -/
  unresolved {m : Manifest.Loaded} {d : String} {f : Frame} {fs : List Frame} {own : Bindings}
    {element text name : String} {before after : List Piece}
    (hm : Manifest.load store o.compiler "" = .ok m) (hd : store.canonicalFolder "" = .ok d)
    (hs : Frame.Stack (o.setting store) ⟨.root d, m, globals⟩ (f :: fs))
    (hc : f.ComesTo (o.setting store) (.fill (f.vars ++ own) element text))
    (ht : Piece.ofText text.toList = before ++ .hole name :: after)
    (hbefore : ∀ n, .hole n ∈ before → HasValue value fs own n)
    (hname : ¬ HasValue value fs own name) :
    generate store o = .error (.unresolvedVariable name element)

section

variable {store : Store} {o : Options} {value : String → Option String} {globals : Bindings}
  {m : Manifest.Loaded} {d : String} {f : Frame} {fs : List Frame} {own : Bindings}

/-- Nothing is defined around a manifest that is included. -/
lemma vars_eq_nil {g : Frame}
    (hs : Frame.Stack (o.setting store) ⟨.root d, m, globals⟩ (g :: f :: fs)) : g.vars = [] := by
  cases hs with
  | push _ ho => exact ho.1

lemma isSome_last?_iff
    (hv : ∀ own name, (globals ++ own).last? name = (own.last? name).or ((value name).map .text))
    (hs : Frame.Stack (o.setting store) ⟨.root d, m, globals⟩ (f :: fs)) (name : String) :
    ((f.vars ++ own).last? name).isSome = true ↔ HasValue value fs own name := by
  cases hs with
  | top =>
    show ((globals ++ own).last? name).isSome = true ↔ _
    rw [hv, HasValue]
    cases own.last? name <;> simp
  | push hs ho =>
    rw [ho.1, List.nil_append, HasValue]
    simp

lemma fill_mem_acts {element text : String}
    (ha : .fill own element text ∈ rootActs [] f.manifest.root) :
    .fill (f.vars ++ own) element text ∈ f.acts := by
  rw [Frame.acts, rootActs_eq]
  exact List.mem_map_of_mem ha

/-- Variables whose values come after those of tags are the outermost ones of the picture. -/
lemma outermost (hg : frameOf o.vars = .ok globals)
    (hv : ∀ own name, (globals ++ own).last? name = (own.last? name).or ((value name).map .text)) :
    Outermost store o value globals where
  last?_eq := hv
  becomes h := by
    obtain ⟨m, globals', svg, hm, hg', hd, hsvg, -⟩ := exists_of_generate h
    obtain rfl := Except.ok.inj (hg.symm.trans hg')
    obtain ⟨made, hmade, rfl⟩ := becomes_of_document (congrArg Prod.fst hd)
    exact ⟨m, made, hm, hmade, hsvg⟩
  inside := vars_eq_nil
  hasValue := by
    intro m d f fs doc own element text name hm hd hs h ha hn
    obtain ⟨m', globals', svg, hm', hg', hdoc, -⟩ := exists_of_generate h
    obtain rfl := Except.ok.inj (hm.symm.trans hm')
    obtain rfl := Except.ok.inj (hg.symm.trans hg')
    rw [← folder_of_load hm] at hd
    have htop := Frame.done_document (o.setting store) m globals
    rw [show (o.setting store).store.canonicalFolder m.folder = .ok d from hd,
      done_eq_ok_iff.mpr ⟨svg, (Run.start_fst _ _).symm.trans (congrArg Prod.fst hdoc)⟩] at htop
    have hf := outcome_eq_ok_of_stack hs htop.symm
    have hp := performAll_eq_ok_iff.mp hf _ (fill_mem_acts ha)
    rw [perform] at hp
    split at hp
    · next hfill => exact (isSome_last?_iff hv hs name).mp (isSome_of_fillIn hfill hn)
    · cases hp
  unresolved := by
    intro m d f fs own element text name before after hm hd hs hc ht hbefore hname
    have hsome (n : String) : ((f.vars ++ own).last? n).isSome = true ↔ HasValue value fs own n :=
      isSome_last?_iff hv hs n
    have hdefined : ∀ n, .hole n ∈ before → ∃ p ∈ f.vars ++ own, p.1 = n := by
      intro n hn
      by_contra hnot
      have hnone := Bindings.last?_eq_none_iff.mpr fun p hp he => hnot ⟨p, hp, he⟩
      have := (hsome n).mpr (hbefore n hn)
      rw [hnone] at this
      cases this
    have hundefined : ∀ p ∈ f.vars ++ own, p.1 ≠ name := by
      rw [← Bindings.last?_eq_none_iff, ← Option.not_isSome_iff_eq_none]
      exact fun h => hname ((hsome name).mp h)
    have ha := attempt_fill (o.setting store) f element ht hdefined hundefined
    rw [← folder_of_load hm] at hd
    exact generate_of_document hm hg
      (Frame.document_eq_error hd (Frame.outcome_of_stack hs (Frame.outcome_of_attempt hc ha)))

end

/-- **What arguments define wins over the configuration, the last definition over those before it,
and what tags define over both; included manifests see neither.** Definitions without an equals
sign are refused, and so are names that are no identifiers once there is a manifest. -/
theorem variable_precedence (tree : FileTree) (cwd : Place) (settings : Config.Settings)
    (given : Given) :
    ((∃ text ∈ given.definitions, '=' ∉ text.toList) →
      ∃ reason, options tree cwd settings given = .error (.config reason)) ∧
    ∀ o store, options tree cwd settings given = .ok o →
      ∃ defined, List.Forall₂ Defines given.definitions defined ∧
        ((∃ name ∈ givenNames settings defined, Text.isIdentifier name = false) →
          ∀ m, Manifest.load store o.compiler "" = .ok m →
            ∃ reason, generate store o = .error (.config reason)) ∧
        ((∀ name ∈ givenNames settings defined, Text.isIdentifier name = true) →
          ∃ globals, frameOf o.vars = .ok globals ∧
            Outermost store o (givenValue settings defined) globals) := by
  refine ⟨fun ⟨text, ht, hn⟩ => exists_config_of_definitions ht hn, fun o store h => ?_⟩
  obtain ⟨defined, hd, hv⟩ := exists_defined_of_options h
  refine ⟨defined, hd, ?_, ?_⟩
  · rintro ⟨name, hn, hi⟩ m hm
    rw [mem_givenNames, ← hv] at hn
    obtain ⟨v, hm', rfl⟩ := List.mem_map.mp hn
    obtain ⟨reason, hf⟩ := exists_frameOf_eq_error hm' hi
    exact ⟨reason, generate_of_frameOf hm hf⟩
  · intro hall
    have hg : frameOf o.vars = .ok (o.vars.map fun v => (v.1, .text v.2)) := by
      refine frameOf_eq_ok fun v hm => hall _ ?_
      rw [mem_givenNames, ← hv]
      exact List.mem_map_of_mem hm
    refine ⟨_, hg, outermost hg fun own name => ?_⟩
    rw [Bindings.last?_append, Bindings.last?_map_text, hv, lookup_reverse_append_filter]
    rfl

/-- Arguments that define a name twice. -/
def definedTwice : Given := { Given.nothing with definitions := ["a=1", "a=2=3"] }

/-- A configuration with values for that name and for another one. -/
def configured : Config.Settings :=
  { Config.Settings.empty with vars := some (.ofList [("a", "0"), ("b", "4")]) }

/-- Files with both names, of which one tag defines the other one. -/
def shadowing : MemoryFiles :=
  .ofList [("collagen.json", ("\x7b\"children\":[\"\x7ba\x7d,\x7bb\x7d\"," ++
    "\x7b\"tag\":\"g\",\"vars\":\x7b\"b\":5\x7d,\"children\":[\"\x7bb\x7d\"]\x7d]\x7d").toUTF8)]

theorem last_definition_in_shadowing :
    ∃ o defined globals doc, options (.folder []) [] configured definedTwice = .ok o ∧
      List.Forall₂ Defines definedTwice.definitions defined ∧
      Outermost shadowing.toStore o (givenValue configured defined) globals ∧
      generate shadowing.toStore o = .ok doc ∧
      doc.svg = "<svg xmlns=\"http://www.w3.org/2000/svg\">2=3,4<g>5</g></svg>" := by
  have hrun : (options (.folder []) [] configured definedTwice >>= fun o =>
      (generate shadowing.toStore o).map fun doc => (o.vars, doc.svg)) =
      .ok ([("a", "1"), ("a", "2=3"), ("b", "4")],
        "<svg xmlns=\"http://www.w3.org/2000/svg\">2=3,4<g>5</g></svg>") := by
    decide +kernel
  obtain ⟨o, ho, hrun⟩ := bind_eq_ok_iff.mp hrun
  obtain ⟨doc, hdoc, hsvg⟩ := map_eq_ok_iff.mp hrun
  obtain ⟨hvars, hsvg⟩ := Prod.mk.inj hsvg
  obtain ⟨defined, hd, -, hgood⟩ :=
    (variable_precedence (.folder []) [] configured definedTwice).2 o shadowing.toStore ho
  have hmap : definedTwice.definitions.mapM definition = .ok defined :=
    mapM_eq_ok_iff.mpr (hd.imp fun _ _ => definition_eq_ok_iff.mpr)
  have hok : definedTwice.definitions.mapM definition = .ok [("a", "1"), ("a", "2=3")] := by
    decide +kernel
  obtain rfl := Except.ok.inj (hok.symm.trans hmap)
  obtain ⟨globals, -, hout⟩ := hgood (by decide +kernel)
  exact ⟨o, _, globals, doc, ho, hd, hout, hdoc, hsvg⟩

end CommandLine
end SvgSkeleton
