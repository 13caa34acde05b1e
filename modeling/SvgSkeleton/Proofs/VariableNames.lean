import SvgSkeleton.Proofs.Placeholders
import SvgSkeleton.Proofs.Grammar
import SvgSkeleton.Proofs.Precedence

/-!
The names of variables. What may be declared, in a manifest or by an argument, is what a placeholder
may mention: names between braces are read as one placeholder exactly if they are identifiers, and
identifiers are what the declarations are checked for.
-/

namespace SvgSkeleton

/-- A name between braces. -/
def braced (name : String) : String := "\x7b" ++ name ++ "\x7d"

lemma toList_braced (name : String) : (braced name).toList = '{' :: name.toList ++ '}' :: [] := by
  simp [braced]

namespace Piece

/-- Some text has a placeholder for the name. -/
def Mentioned (name : String) : Prop := ∃ text : String, .hole name ∈ ofText text.toList

lemma ofText_braced_iff {name : String} :
    ofText (braced name).toList = [.hole name] ↔ Text.isIdentifier name = true := by
  rw [toList_braced, Text.isIdentifier, Text.isName_iff_identifier]
  constructor
  · intro h
    exact identifier_of_mem_ofText (by rw [h]; exact List.mem_singleton_self _)
  · intro h
    rw [ofText_placeholder h, ofText_nil, String.ofList_toList]

lemma mentioned_iff {name : String} : Mentioned name ↔ Text.isIdentifier name = true := by
  constructor
  · rintro ⟨text, h⟩
    exact Text.isName_iff_identifier.mpr (identifier_of_mem_ofText h)
  · intro h
    exact ⟨braced name, by rw [ofText_braced_iff.mpr h]; exact List.mem_singleton_self _⟩

end Piece

namespace Scope

variable {scope : Scope} {name : String}

lemma interpolate_braced (h : Text.isIdentifier name = true) :
    scope.interpolate (braced name) =
      match scope.find? name with
      | some value => .ok (value.render, 1)
      | none => .error name := by
  rw [interpolate, Piece.ofText_braced_iff.mpr h, List.foldlM_cons, fill]
  cases scope.find? name with
  | none => rfl
  | some value =>
    show Except.ok ("" ++ value.render, 1) = _
    rw [String.empty_append]

lemma isIdentifier_of_interpolate_braced (h : interpolate [] (braced name) = .error name) :
    Text.isIdentifier name = true := by
  obtain ⟨before, after, ho, -⟩ := interpolate_eq_error_iff.mp h
  exact Text.isName_iff_identifier.mpr ho.identifier

/-- A name that a frame of the scope declares has a value. -/
lemma exists_find?_eq_some {frame : Bindings} (hf : frame ∈ scope) (hn : ∃ v ∈ frame, v.1 = name) :
    ∃ value, scope.find? name = some value := by
  obtain ⟨v, hv, rfl⟩ := hn
  rw [find?_eq_last?]
  refine Option.ne_none_iff_exists'.mp fun h => ?_
  have hmem : v ∈ scope.flat :=
    List.mem_flatten.mpr ⟨frame, List.mem_reverse.mpr hf, hv⟩
  exact Bindings.last?_eq_none_iff.mp h v hmem rfl

end Scope

/-! ### Declarations -/

lemma definition_of_isIdentifier {v : String × String} (h : Text.isIdentifier v.1 = true) :
    CommandLine.definition (v.1 ++ "=" ++ v.2) = .ok v := by
  have hid := Text.isName_iff_identifier.mp h
  exact CommandLine.definition_eq_ok_iff.mpr ⟨by simp, hid.notMem (by decide)⟩

namespace Manifest

lemma definitions_of_mentioned {l : Location} {m members : Json.Members} {vars : Bindings}
    (hm : m.find? "vars" = some (.object members)) (hb : List.Forall₂ IsBinding members vars)
    (hn : ∀ v ∈ vars, Piece.Mentioned v.1) : definitions l m = .ok vars :=
  definitions_eq_ok_iff.mpr ⟨.present hm hb, fun v hv => Piece.mentioned_iff.mp (hn v hv)⟩

/-- A manifest that declares variables and does nothing else. -/
lemma ofJson_vars {members : Json.Members} {vars : Bindings}
    (hb : List.Forall₂ IsBinding members vars) (hn : ∀ v ∈ vars, Piece.Mentioned v.1) :
    ofJson (.object [("vars", .object members)]) = .ok ⟨[], vars, none⟩ := by
  have hread : ofJson (.object [("vars", .object members)]) = do
      let vars ← definitions .root [("vars", .object members)]
      return ⟨[], vars, none⟩ := rfl
  rw [hread, definitions_of_mentioned rfl hb hn]
  rfl

end Manifest

lemma isIdentifier_of_frameOf {vars : List (String × String)} {globals : Bindings}
    (h : frameOf vars = .ok globals) :
    globals = vars.map (fun v => (v.1, .text v.2)) ∧
      ∀ v ∈ vars, Text.isIdentifier v.1 = true := by
  unfold frameOf at h
  split at h
  · cases h
  · next hf =>
    exact ⟨(Except.ok.inj h).symm, by simpa [List.find?_eq_none] using hf⟩

namespace Scope

/-- A frame of the scope has a value for the name, and so has the scope, for the name between
braces too. -/
lemma exists_interpolate_braced {scope : Scope} {frame : Bindings} {name : String}
    (hf : frame ∈ scope) (hn : ∃ v ∈ frame, v.1 = name) (hid : Text.isIdentifier name = true) :
    ∃ value, scope.find? name = some value ∧
      scope.interpolate (braced name) = .ok (value.render, 1) := by
  obtain ⟨value, hv⟩ := exists_find?_eq_some hf hn
  exact ⟨value, hv, by rw [interpolate_braced hid, hv]⟩

/-- **The names that can be declared are those that can be referred to.** A name is an identifier
exactly if it is read, between braces, as one placeholder. A variable that a manifest declares, or
that is given to a run, has a value in every scope with its frame; and where all names are such as
some text has a placeholder for, the manifest and the arguments that declare them are accepted. -/
theorem declared_iff_mentioned :
    (∀ name : String,
      (Text.isIdentifier name = true ↔ Piece.ofText (braced name).toList = [.hole name]) ∧
      (Text.isIdentifier name = true ↔ ∀ scope : Scope, scope.interpolate (braced name) =
        match scope.find? name with
        | some value => .ok (value.render, 1)
        | none => .error name)) ∧
    (∀ l m vars, Manifest.definitions l m = .ok vars → ∀ v ∈ vars, ∀ scope : Scope, vars ∈ scope →
      ∃ value, scope.find? v.1 = some value ∧
        scope.interpolate (braced v.1) = .ok (value.render, 1)) ∧
    (∀ vars globals, frameOf vars = .ok globals → ∀ v ∈ vars, ∀ scope : Scope, globals ∈ scope →
      ∃ value, scope.find? v.1 = some value ∧
        scope.interpolate (braced v.1) = .ok (value.render, 1)) ∧
    (∀ members vars, List.Forall₂ Manifest.IsBinding members vars →
      (∀ v ∈ vars, Piece.Mentioned v.1) →
      (∀ l m, m.find? "vars" = some (.object members) → Manifest.definitions l m = .ok vars) ∧
      Manifest.ofJson (.object [("vars", .object members)]) = .ok ⟨[], vars, none⟩) ∧
    ∀ vars : List (String × String), (∀ v ∈ vars, Piece.Mentioned v.1) →
      (vars.map fun v => v.1 ++ "=" ++ v.2).mapM CommandLine.definition = .ok vars ∧
      frameOf vars = .ok (vars.map fun v => (v.1, .text v.2)) := by
  refine ⟨fun name => ⟨Piece.ofText_braced_iff.symm, ?_⟩, ?_, ?_, ?_, ?_⟩
  · constructor
    · exact fun h scope => interpolate_braced h
    · exact fun h => isIdentifier_of_interpolate_braced (h [])
  · intro l m vars h v hv scope hs
    obtain ⟨-, hid⟩ := Manifest.definitions_eq_ok_iff.mp h
    exact exists_interpolate_braced hs ⟨v, hv, rfl⟩ (hid v hv)
  · intro vars globals h v hv scope hs
    obtain ⟨rfl, hid⟩ := isIdentifier_of_frameOf h
    exact exists_interpolate_braced hs ⟨_, List.mem_map_of_mem hv, rfl⟩ (hid v hv)
  · intro members vars hb hn
    exact ⟨fun l m hm => Manifest.definitions_of_mentioned hm hb hn, Manifest.ofJson_vars hb hn⟩
  · intro vars hn
    have hid : ∀ v ∈ vars, Text.isIdentifier v.1 = true :=
      fun v hv => Piece.mentioned_iff.mp (hn v hv)
    refine ⟨mapM_eq_ok_iff.mpr ?_, frameOf_eq_ok hid⟩
    refine List.forall₂_map_left_iff.mpr (List.forall₂_same.mpr fun v hv => ?_)
    exact definition_of_isIdentifier (hid v hv)

/-- A name with a hyphen and a digit, from a manifest and from an argument. -/
theorem declared_hyphen :
    Scope.interpolate [[("a-1", .text "x")]] "\x7ba-1\x7d" = .ok ("x", 1) ∧
      Manifest.ofJson (.object [("vars", .object [("a-1", .string "x")])]) =
        .ok ⟨[], [("a-1", .text "x")], none⟩ ∧
      ["a-1=x"].mapM CommandLine.definition = .ok [("a-1", "x")] := by
  obtain ⟨hname, hmanifest, hrun, hdecl, hargs⟩ := declared_iff_mentioned
  have hmention : Piece.Mentioned "a-1" := ⟨"\x7ba-1\x7d", by decide⟩
  refine ⟨?_, ?_, ?_⟩
  · obtain ⟨value, hv, h⟩ := hrun [("a-1", "x")] [("a-1", .text "x")] rfl ("a-1", "x") (by simp) _
      List.mem_cons_self
    cases hv
    exact h
  · exact (hdecl [("a-1", .string "x")] [("a-1", .text "x")] (.cons ⟨rfl, .string "x"⟩ .nil)
      (by simpa using hmention)).2
  · exact (hargs [("a-1", "x")] (by simpa using hmention)).1

end Scope
end SvgSkeleton
