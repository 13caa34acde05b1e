import SvgSkeleton.Proofs.Counting
import SvgSkeleton.Store

/-!
Sessions: pictures that are resolved one after the other, each going on from the counts that the
ones before it have left. A run only adds to the counts and does not look at them, so a session has
no other memory: what comes of a request does not depend on those before it, and what the session
has counted in the end is the sum of what its requests count by themselves, also those that fail.
-/

namespace SvgSkeleton

/-- What is counted. -/
def Stats.counters : List (Stats → Nat) :=
  [elements, texts, images, fontFaces, includes, nestedSvgs, interpolations, embeddedBytes]

namespace Resolve

open Manifest (Loaded)

/-- A picture to be resolved. -/
structure Request where
  manifest : Loaded
  globals : Bindings

namespace Request

def run (env : Setting) (r : Request) : Run Element := document env r.manifest r.globals

/-- What comes of a request on fresh counts, and what these are then. -/
def alone (env : Setting) (r : Request) : Outcome Element × Stats := (r.run env).start .zero

instance (env : Setting) (r : Request) : (r.run env).Adds := adds_document env r.manifest r.globals

/-- On other counts the same comes of the request, and it adds what it counts by itself. -/
lemma start_eq (env : Setting) (r : Request) (stats : Stats) :
    (r.run env).start stats = ((r.alone env).1, stats + (r.alone env).2) :=
  Run.Adds.start_eq stats

end Request

/-- What comes of the requests of a session, and the counts that it leaves. -/
def session (env : Setting) : List Request → Stats → List (Outcome Element) × Stats
  | [], stats => ([], stats)
  | r :: rest, stats =>
    let (outcome, stats) := (r.run env).start stats
    let (outcomes, stats) := session env rest stats
    (outcome :: outcomes, stats)

variable {env : Setting}

lemma session_cons (r : Request) (rest : List Request) (stats : Stats) :
    session env (r :: rest) stats =
      ((r.alone env).1 :: (session env rest (stats + (r.alone env).2)).1,
        (session env rest (stats + (r.alone env).2)).2) := by
  rw [session, r.start_eq env stats]

/-- By induction on the requests, for any counts to start from. -/
lemma session_eq (requests : List Request) (stats : Stats) :
    session env requests stats = (requests.map fun r => (r.alone env).1,
      stats + (requests.map fun r => (r.alone env).2).sum) := by
  induction requests generalizing stats with
  | nil => exact congrArg _ (add_zero stats).symm
  | cons r rest ih => rw [session_cons, ih, List.map_cons, List.map_cons, List.sum_cons, add_assoc]

/-- Counters are added up one by one. -/
lemma counter_add {counter : Stats → Nat} (h : counter ∈ Stats.counters) (a b : Stats) :
    counter (a + b) = counter a + counter b := by
  simp only [Stats.counters, List.mem_cons, List.not_mem_nil, or_false] at h
  rcases h with rfl | rfl | rfl | rfl | rfl | rfl | rfl | rfl <;> rfl

lemma counter_sum {counter : Stats → Nat} (h : counter ∈ Stats.counters) (counts : List Stats) :
    counter counts.sum = (counts.map counter).sum := by
  induction counts with
  | nil =>
    have hzero : counter 0 + counter 0 = counter 0 := (counter_add h 0 0).symm
    show counter 0 = 0
    omega
  | cons c counts ih => rw [List.sum_cons, counter_add h, ih, List.map_cons, List.sum_cons]

/-- **A session has no memory but its counts.** Each request has the outcome that it has by itself,
each counter has been raised by what each request counts by itself, and in another order the
requests have the same outcomes and leave the same counts. -/
theorem session_memoryless (env : Setting) (requests : List Request) (stats : Stats) :
    (session env requests stats).1 = (requests.map fun r => (r.alone env).1) ∧
      (∀ counter ∈ Stats.counters, counter (session env requests stats).2 =
        counter stats + (requests.map fun r => counter (r.alone env).2).sum) ∧
      ∀ other : List Request, other.Perm requests →
        (session env other stats).2 = (session env requests stats).2 ∧
        (other.zip (session env other stats).1).Perm
          (requests.zip (session env requests stats).1) := by
  refine ⟨by rw [session_eq], fun counter hc => ?_, fun other ho => ⟨?_, ?_⟩⟩
  · rw [session_eq, counter_add hc, counter_sum hc, List.map_map]
    rfl
  · rw [session_eq, session_eq, (ho.map _).sum_eq]
  · rw [session_eq, session_eq, ← List.map_prod_left_eq_zip, ← List.map_prod_left_eq_zip]
    exact ho.map _

/-- A picture with a text, and one that fails behind a text. -/
def withText : Request :=
  ⟨⟨⟨[], [], some [.text "a" false]⟩, "", "collagen.json", .plain, 0⟩, []⟩

def failingBehindText : Request :=
  ⟨⟨⟨[], [], some [.text "a" false, .text "\x7bx\x7d" false]⟩, "", "collagen.json", .plain, 0⟩, []⟩

def emptySetting : Setting := ⟨MemoryFiles.toStore (.ofList []), .empty, none, 64⟩

theorem session_of_texts :
    ∃ svg e, (session emptySetting [failingBehindText, withText] .zero).1 = [.error e, .ok svg] ∧
      (failingBehindText.alone emptySetting).2 = ⟨0, 2, 0, 0, 0, 0, 0, 0⟩ ∧
      (session emptySetting [failingBehindText, withText] .zero).2.texts = 3 ∧
      (session emptySetting [withText, failingBehindText] .zero).2 =
        (session emptySetting [failingBehindText, withText] .zero).2 ∧
      ([withText, failingBehindText].zip
          (session emptySetting [withText, failingBehindText] .zero).1).Perm
        ([failingBehindText, withText].zip
          (session emptySetting [failingBehindText, withText] .zero).1) := by
  obtain ⟨e, he⟩ := exists_error_of_isNone (x := (failingBehindText.alone emptySetting).1)
    (by decide +kernel)
  obtain ⟨svg, hsvg, -⟩ := exists_of_any (p := fun _ => true)
    (x := (withText.alone emptySetting).1) (by decide +kernel)
  have hfailing : (failingBehindText.alone emptySetting).2 = ⟨0, 2, 0, 0, 0, 0, 0, 0⟩ := by
    decide +kernel
  have hother : (withText.alone emptySetting).2 = ⟨1, 1, 0, 0, 0, 0, 0, 0⟩ := by decide +kernel
  obtain ⟨houtcomes, hcounts, horder⟩ :=
    session_memoryless emptySetting [failingBehindText, withText] .zero
  obtain ⟨hsame, hperm⟩ := horder [withText, failingBehindText] (.swap ..)
  refine ⟨svg, e, ?_, hfailing, ?_, hsame, hperm⟩
  · rw [houtcomes, List.map_cons, List.map_cons, he, hsvg, List.map_nil]
  · rw [hcounts Stats.texts (by simp [Stats.counters]), List.map_cons, List.map_cons, hfailing,
      hother]
    rfl

end Resolve
end SvgSkeleton
