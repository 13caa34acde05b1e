import SvgSkeleton.Generate
import SvgSkeleton.Proofs.Picture

/-!
What the document of a skeleton comes of: its manifest is loaded, the variables are checked, and
the manifest is resolved.
-/

namespace SvgSkeleton

lemma Run.start_of_outcome {α : Type} {r : Run α} {a : α} {stats : Stats}
    (h : r.outcome = .ok (a, stats)) : r.start .zero = (.ok a, stats) := by
  unfold outcome at h
  split at h
  · next hs =>
    obtain ⟨rfl, rfl⟩ := Prod.mk.inj (Except.ok.inj h)
    exact hs
  · cases h

lemma Run.outcome_of_start {α : Type} {r : Run α} {a : α} {stats : Stats}
    (h : r.start .zero = (.ok a, stats)) : r.outcome = .ok (a, stats) := by
  rw [outcome, h]

lemma Run.outcome_eq_error_iff {α : Type} {r : Run α} {e : Error} :
    r.outcome = .error e ↔ r.result = .error e := by
  unfold outcome result
  cases r.start .zero with
  | mk o stats => cases o <;> simp

section

variable {store : Store} {options : Options} {m : Manifest.Loaded} {globals : Bindings}

/-- Variables that are no identifiers are what a run fails for whose manifest is there. -/
lemma generate_of_frameOf {e : Error} (hm : Manifest.load store options.compiler "" = .ok m)
    (hg : frameOf options.vars = .error e) : generate store options = .error e := by
  rw [generate, hm, hg]
  rfl

/-- A document is the picture that the manifest becomes. -/
lemma exists_of_generate {doc : Document} (h : generate store options = .ok doc) :
    ∃ m globals svg, Manifest.load store options.compiler "" = .ok m ∧
      frameOf options.vars = .ok globals ∧
      (Resolve.document (options.setting store) m globals).start .zero = (.ok svg, doc.stats) ∧
      doc.svg = Markup.printElement svg ∧ doc.sourceSize = m.sourceSize := by
  obtain ⟨m, hm, h⟩ := bind_eq_ok_iff.mp h
  obtain ⟨globals, hg, h⟩ := bind_eq_ok_iff.mp h
  obtain ⟨⟨svg, stats⟩, hd, h⟩ := bind_eq_ok_iff.mp h
  obtain rfl := Except.ok.inj h
  exact ⟨m, globals, svg, hm, hg, Run.start_of_outcome hd, rfl, rfl⟩

lemma generate_eq_ok {svg : Element} {stats : Stats}
    (hm : Manifest.load store options.compiler "" = .ok m) (hg : frameOf options.vars = .ok globals)
    (hd : (Resolve.document (options.setting store) m globals).start .zero = (.ok svg, stats)) :
    generate store options = .ok ⟨Markup.printElement svg, m.sourceSize, stats⟩ := by
  refine bind_eq_ok_iff.mpr ⟨m, hm, bind_eq_ok_iff.mpr ⟨globals, hg, ?_⟩⟩
  exact bind_eq_ok_iff.mpr ⟨(svg, stats), Run.outcome_of_start hd, rfl⟩

/-- A skeleton fails as the first of its steps does that fails. -/
lemma done_generate (store : Store) (options : Options) :
    Resolve.done (generate store options) =
      Manifest.load store options.compiler "" >>= fun m => frameOf options.vars >>= fun globals =>
        Resolve.done (Resolve.document (options.setting store) m globals).result := by
  unfold generate
  cases Manifest.load store options.compiler "" with
  | error e => rfl
  | ok m =>
    cases frameOf options.vars with
    | error e => rfl
    | ok globals =>
      show Resolve.done ((Resolve.document (options.setting store) m globals).outcome >>= _) =
        Resolve.done (Resolve.document (options.setting store) m globals).result
      unfold Run.outcome Run.result
      rcases (Resolve.document (options.setting store) m globals).start .zero with ⟨o, stats⟩
      cases o <;> rfl

/-- There is no document where the manifest does not resolve. -/
lemma generate_of_document {e : Error} (hm : Manifest.load store options.compiler "" = .ok m)
    (hg : frameOf options.vars = .ok globals)
    (hd : (Resolve.document (options.setting store) m globals).result = .error e) :
    generate store options = .error e := by
  rw [generate, bind_eq_error_iff]
  refine .inr ⟨m, hm, bind_eq_error_iff.mpr (.inr ⟨globals, hg, ?_⟩)⟩
  exact bind_eq_error_iff.mpr (.inl (Run.outcome_eq_error_iff.mpr hd))

end

end SvgSkeleton
