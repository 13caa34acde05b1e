import Mathlib.Data.Set.Card
import SvgSkeleton.Proofs.Counting

/-!
The placeholders of a text. A placeholder is an identifier between braces, wherever it stands. An
identifier has no braces in it, so two placeholders of a text have nothing in common, and one pass
over the text comes upon each of them. The pass is described by what it makes of a text that does
not begin with a brace, that begins with a placeholder, and that begins with a brace but with no
placeholder; all else is by induction along these three.
-/

namespace SvgSkeleton

namespace Text

/-- An ASCII letter or `_`, and behind it ASCII letters, digits, `_` and `-`. -/
def Identifier (name : List Char) : Prop :=
  ∃ c rest, name = c :: rest ∧ (c.isAlpha = true ∨ c = '_') ∧
    ∀ d ∈ rest, d.isAlphanum = true ∨ d = '_' ∨ d = '-'

lemma isNameStart_iff {c : Char} : isNameStart c = true ↔ c.isAlpha = true ∨ c = '_' := by
  simp [isNameStart]

lemma isNameChar_iff {c : Char} :
    isNameChar c = true ↔ c.isAlphanum = true ∨ c = '_' ∨ c = '-' := by
  simp [isNameChar, or_assoc]

lemma isName_iff_identifier {name : List Char} : isName name = true ↔ Identifier name := by
  cases name with
  | nil => simp [isName, Identifier]
  | cons c rest =>
    simp only [isName, Bool.and_eq_true, List.all_eq_true, isNameStart_iff, isNameChar_iff]
    constructor
    · rintro ⟨hc, hr⟩
      exact ⟨c, rest, rfl, hc, hr⟩
    · rintro ⟨d, other, h, hc, hr⟩
      obtain ⟨rfl, rfl⟩ := List.cons.inj h
      exact ⟨hc, hr⟩

namespace Identifier

variable {name more : List Char}

lemma ne_nil (h : Identifier name) : name ≠ [] := by
  obtain ⟨c, rest, rfl, -⟩ := h
  simp

/-- What an identifier begins with is an identifier. -/
lemma of_append (h : Identifier (name ++ more)) (hn : name ≠ []) : Identifier name := by
  obtain ⟨c, rest, he, hc, hr⟩ := h
  cases name with
  | nil => exact absurd rfl hn
  | cons d name =>
    obtain ⟨rfl, rfl⟩ := List.cons.inj he
    exact ⟨d, name, rfl, hc, fun e he => hr e (List.mem_append_left _ he)⟩

lemma alphanum_of_mem (h : Identifier name) {c : Char} (hm : c ∈ name) :
    c.isAlphanum = true ∨ c = '_' ∨ c = '-' := by
  obtain ⟨d, rest, rfl, hd, hr⟩ := h
  rcases List.mem_cons.mp hm with rfl | hm
  · rcases hd with hd | hd
    · exact .inl (by simp [Char.isAlphanum, hd])
    · exact .inr (.inl hd)
  · exact hr c hm

lemma notMem (h : Identifier name) {c : Char}
    (hc : ¬ (c.isAlphanum = true ∨ c = '_' ∨ c = '-')) : c ∉ name :=
  fun hm => hc (h.alphanum_of_mem hm)

lemma open_notMem (h : Identifier name) : '{' ∉ name := h.notMem (by decide)

lemma close_notMem (h : Identifier name) : '}' ∉ name := h.notMem (by decide)

end Identifier
end Text

namespace Piece

open Text (Identifier)

/-! ### The pass -/

/-- The scan with further pieces that were read before all others. -/
def Scan.behind (s : Scan) (pieces : List Piece) : Scan := ⟨s.read ++ pieces, s.held⟩

lemma Scan.release_behind (s : Scan) (pieces : List Piece) :
    (s.behind pieces).release = s.release ++ pieces := by
  obtain ⟨read, held⟩ := s
  cases held <;> simp [behind, release]

lemma Scan.step_behind (s : Scan) (pieces : List Piece) (c : Char) :
    (s.behind pieces).step c = (s.step c).behind pieces := by
  have hrel := s.release_behind pieces
  obtain ⟨read, held⟩ := s
  cases held with
  | none =>
    simp only [behind, step]
    split <;> rfl
  | some name =>
    simp only [behind] at hrel
    simp only [behind, step, hrel]
    split
    · rfl
    · split
      · rfl
      · split <;> rfl

lemma Scan.foldl_behind (s : Scan) (pieces : List Piece) (text : List Char) :
    text.foldl step (s.behind pieces) = (text.foldl step s).behind pieces := by
  induction text generalizing s with
  | nil => rfl
  | cons c r ih => rw [List.foldl_cons, List.foldl_cons, step_behind, ih]

/-- A pass that has read some pieces and holds nothing back goes on as one from the beginning. -/
lemma release_foldl (read : List Piece) (text : List Char) :
    (text.foldl Scan.step ⟨read, none⟩).release.reverse = read.reverse ++ ofText text := by
  have h := Scan.foldl_behind ⟨[], none⟩ read text
  rw [show Scan.behind ⟨[], none⟩ read = ⟨read, none⟩ from rfl] at h
  rw [h, Scan.release_behind, List.reverse_append]
  rfl

/-- Behind what is held back, the characters that go on with it are those that make it a longer
identifier. -/
lemma continues_iff {held : List Char} (h : held = [] ∨ Identifier held.reverse) {c : Char} :
    continues held c = true ↔ Identifier (held.reverse ++ [c]) := by
  rcases h with rfl | ⟨d, rest, hd, hs, hr⟩
  · simp [continues, Identifier, Text.isNameStart_iff]
  · have hne : held ≠ [] := by
      rintro rfl
      simp at hd
    have hc : continues held c = Text.isNameChar c := by simp [continues, hne]
    rw [hc, Text.isNameChar_iff, hd]
    constructor
    · intro h
      refine ⟨d, rest ++ [c], rfl, hs, fun e he => ?_⟩
      rcases List.mem_append.mp he with he | he
      · exact hr e he
      · exact List.mem_singleton.mp he ▸ h
    · rintro ⟨d', rest', he, -, hr'⟩
      obtain ⟨rfl, rfl⟩ := List.cons.inj he
      exact hr' c (by simp)

/-- An identifier behind an opening brace is held back. -/
lemma foldl_name {read : List Piece} {held name : List Char}
    (h : Identifier (held.reverse ++ name) ∨ name = []) :
    name.foldl Scan.step ⟨read, some held⟩ = ⟨read, some (name.reverse ++ held)⟩ := by
  induction name generalizing held with
  | nil => rfl
  | cons c name ih =>
    have h := h.resolve_right (by simp)
    have hsplit : held.reverse ++ c :: name = (held.reverse ++ [c]) ++ name := by simp
    rw [hsplit] at h
    have hc := h.of_append (by simp)
    have hheld : held = [] ∨ Identifier held.reverse := by
      by_cases hn : held = []
      · exact .inl hn
      · exact .inr (hc.of_append (by simpa using hn))
    have hstep : Scan.step ⟨read, some held⟩ c = ⟨read, some (c :: held)⟩ := by
      simp [Scan.step, (continues_iff hheld).mpr hc]
    rw [List.foldl_cons, hstep, ih (.inl (by simpa using h))]
    simp

/-- Behind an opening brace, the text makes it the beginning of a placeholder. -/
def Closes (text : List Char) : Prop := ∃ name rest, text = name ++ '}' :: rest ∧ Identifier name

@[simp] lemma ofText_nil : ofText [] = [] := rfl

lemma ofText_cons {c : Char} (hc : c ≠ '{') (r : List Char) :
    ofText (c :: r) = copy c :: ofText r := by
  have hstep : Scan.step ⟨[], none⟩ c = ⟨[copy c], none⟩ := by simp [Scan.step, hc]
  rw [ofText, List.foldl_cons, hstep, release_foldl]
  rfl

lemma ofText_placeholder {name : List Char} (hn : Identifier name) (r : List Char) :
    ofText ('{' :: name ++ '}' :: r) = hole (String.ofList name) :: ofText r := by
  have hopen : Scan.step ⟨[], none⟩ '{' = ⟨[], some []⟩ := rfl
  have hclose : Scan.step ⟨[], some name.reverse⟩ '}' = ⟨[hole (String.ofList name)], none⟩ := by
    have hc : continues name.reverse '}' = false := by
      rw [← Bool.not_eq_true, continues_iff (.inr (by simpa using hn))]
      exact fun h => h.close_notMem (by simp)
    simp [Scan.step, hc, hn.ne_nil]
  rw [ofText, List.cons_append, List.foldl_cons, hopen, List.foldl_append,
    foldl_name (.inl (by simpa using hn)), List.append_nil, List.foldl_cons, hclose, release_foldl]
  rfl

/-- What is held back is let go as text if it does not become a placeholder. -/
lemma release_held {held r : List Char} (h : held = [] ∨ Identifier held.reverse)
    (hr : ¬ Closes (held.reverse ++ r)) :
    (r.foldl Scan.step ⟨[], some held⟩).release.reverse =
      copy '{' :: held.reverse.map copy ++ ofText r := by
  have hrel : (Scan.release ⟨[], some held⟩).reverse = copy '{' :: held.reverse.map copy := by
    simp [Scan.release]
  induction r generalizing held with
  | nil => rw [List.foldl_nil, hrel, ofText_nil, List.append_nil]
  | cons c r ih =>
    by_cases hc : continues held c = true
    · have hid := (continues_iff h).mp hc
      have hstep : Scan.step ⟨[], some held⟩ c = ⟨[], some (c :: held)⟩ := by
        simp [Scan.step, hc]
      have hne : c ≠ '{' := fun e => hid.open_notMem (by simp [e])
      rw [List.foldl_cons, hstep, ih (.inr (by simpa using hid)) (by simpa using hr)
        (by simp [Scan.release]), ofText_cons hne]
      simp
    · -- the character ends what is held back, and is read as it would be behind it
      have hend : ¬ (c = '}' ∧ held ≠ []) := by
        rintro ⟨rfl, hn⟩
        exact hr ⟨held.reverse, r, rfl, h.resolve_left hn⟩
      have hstep : Scan.step ⟨[], some held⟩ c =
          Scan.step ⟨Scan.release ⟨[], some held⟩, none⟩ c := by
        simp [Scan.step, hc, hend]
      rw [List.foldl_cons, hstep, ← List.foldl_cons, release_foldl, hrel]

lemma ofText_brace {r : List Char} (hr : ¬ Closes r) :
    ofText ('{' :: r) = copy '{' :: ofText r :=
  release_held (.inl rfl) hr

/-- Induction along the pass. -/
@[elab_as_elim]
theorem text_induction {motive : List Char → Prop} (nil : motive [])
    (char : ∀ c r, c ≠ '{' → motive r → motive (c :: r))
    (brace : ∀ r, ¬ Closes r → motive r → motive ('{' :: r))
    (placeholder : ∀ name r, Identifier name → motive r → motive ('{' :: name ++ '}' :: r)) :
    ∀ text, motive text
  | [] => nil
  | c :: r => by
    by_cases hc : c = '{'
    · subst hc
      by_cases hr : Closes r
      · obtain ⟨name, rest, he, hn⟩ := hr
        have hlt : rest.length < r.length := by
          rw [he]
          simp
          omega
        rw [he]
        exact placeholder name rest hn (text_induction nil char brace placeholder rest)
      · exact brace r hr (text_induction nil char brace placeholder r)
    · exact char c r hc (text_induction nil char brace placeholder r)
termination_by text => text.length
decreasing_by
  · simp only [List.length_cons]
    omega
  · simp
  · simp

/-! ### The pieces of a text -/

/-- The characters that a piece stands for in its text. -/
def spelling : Piece → List Char
  | .copy c => [c]
  | .hole name => '{' :: name.toList ++ ['}']

def spell (pieces : List Piece) : List Char := pieces.flatMap spelling

@[simp] lemma spell_nil : spell [] = [] := rfl

@[simp] lemma spell_cons (p : Piece) (pieces : List Piece) :
    spell (p :: pieces) = spelling p ++ spell pieces := rfl

@[simp] lemma spell_append (a b : List Piece) : spell (a ++ b) = spell a ++ spell b :=
  List.flatMap_append

lemma spelling_ne_nil (p : Piece) : spelling p ≠ [] := by
  cases p <;> simp [spelling]

lemma spell_eq_nil_iff {pieces : List Piece} : spell pieces = [] ↔ pieces = [] := by
  cases pieces with
  | nil => simp
  | cons p rest => simp [spelling_ne_nil]

/-- A placeholder stands in the text between these two parts of it. -/
structure Occurs (text before : List Char) (name : String) (after : List Char) : Prop where
  eq : text = before ++ '{' :: name.toList ++ '}' :: after
  identifier : Identifier name.toList

/-- The text consists of the pieces, and the holes among them are its placeholders. -/
structure Reads (text : List Char) (pieces : List Piece) : Prop where
  spell_eq : spell pieces = text
  occurs_iff (before : List Char) (name : String) (after : List Char) :
    Occurs text before name after ↔ ∃ front back, pieces = front ++ .hole name :: back ∧
      spell front = before ∧ spell back = after

lemma spell_ofText (text : List Char) : spell (ofText text) = text := by
  induction text using text_induction with
  | nil => rfl
  | char c r hc ih => simp [ofText_cons hc, spelling, ih]
  | brace r hr ih => simp [ofText_brace hr, spelling, ih]
  | placeholder name r hn ih =>
    rw [ofText_placeholder hn, spell_cons, ih]
    simp [spelling]

lemma identifier_of_mem_ofText {text : List Char} {name : String} (h : .hole name ∈ ofText text) :
    Identifier name.toList := by
  induction text using text_induction with
  | nil => cases h
  | char c r hc ih =>
    rw [ofText_cons hc] at h
    exact ih ((List.mem_cons.mp h).resolve_left (by simp))
  | brace r hr ih =>
    rw [ofText_brace hr] at h
    exact ih ((List.mem_cons.mp h).resolve_left (by simp))
  | placeholder n r hn ih =>
    rw [ofText_placeholder hn] at h
    rcases List.mem_cons.mp h with h | h
    · obtain rfl := Piece.hole.inj h
      simpa using hn
    · exact ih h

/-- Of two texts that are equal, one reaches beyond what it has in front of a character that is not
there. -/
lemma exists_append_of_notMem {a b r s : List Char} {c : Char} (h : a ++ r = b ++ c :: s)
    (hc : c ∉ a) : ∃ e, b = a ++ e ∧ r = e ++ c :: s := by
  rcases List.append_eq_append_iff.mp h with ⟨e, rfl, rfl⟩ | ⟨e, rfl, he⟩
  · exact ⟨e, rfl, rfl⟩
  · cases e with
    | nil => exact ⟨[], by simp, by simpa using he.symm⟩
    | cons d e =>
      obtain ⟨rfl, -⟩ := List.cons.inj he
      exact absurd (by simp) hc

/-- The pass finds every placeholder. -/
lemma exists_hole_of_occurs {text before after : List Char} {name : String}
    (h : Occurs text before name after) : ∃ front back,
      ofText text = front ++ .hole name :: back ∧ spell front = before ∧ spell back = after := by
  obtain ⟨he, hn⟩ := h
  induction text using text_induction generalizing before with
  | nil => simp at he
  | char c r hc ih =>
    cases before with
    | nil => exact absurd (List.cons.inj he).1 hc
    | cons d before =>
      obtain ⟨rfl, rfl⟩ := List.cons.inj he
      obtain ⟨front, back, hp, hf, hb⟩ := ih rfl
      exact ⟨.copy c :: front, back, by rw [ofText_cons hc, hp]; rfl, by simp [spelling, hf], hb⟩
  | brace r hr ih =>
    cases before with
    | nil => exact absurd ⟨_, _, (List.cons.inj he).2, hn⟩ hr
    | cons d before =>
      obtain ⟨rfl, rfl⟩ := List.cons.inj he
      obtain ⟨front, back, hp, hf, hb⟩ := ih rfl
      exact ⟨.copy '{' :: front, back, by rw [ofText_brace hr, hp]; rfl, by simp [spelling, hf], hb⟩
  | placeholder n r hid ih =>
    have hshape : '{' :: n ++ '}' :: r = '{' :: (n ++ ['}'] ++ r) := by simp
    cases before with
    | nil =>
      -- it is the placeholder in front, for neither of the two names holds a closing brace
      obtain ⟨e, hname, hrest⟩ := exists_append_of_notMem (List.cons.inj he).2 hid.close_notMem
      cases e with
      | nil =>
        obtain rfl : r = after := by simpa using hrest
        refine ⟨[], ofText r, ?_, rfl, spell_ofText r⟩
        rw [ofText_placeholder hid, ← String.ofList_toList (s := name), hname]
        simp
      | cons d e =>
        obtain ⟨rfl, -⟩ := List.cons.inj hrest
        exact absurd (by simp [hname]) hn.close_notMem
    | cons d before =>
      -- it is behind the placeholder in front, in which there is no second opening brace
      rw [hshape] at he
      have hopen : '{' ∉ n ++ ['}'] := by simp [hid.open_notMem]
      obtain ⟨hd, he⟩ := List.cons.inj he
      obtain ⟨e, hbefore, hr⟩ := exists_append_of_notMem (by simpa using he) hopen
      obtain ⟨front, back, hp, hf, hb⟩ := @ih e (by simpa using hr)
      refine ⟨.hole (String.ofList n) :: front, back, ?_, ?_, hb⟩
      · rw [ofText_placeholder hid, hp]
        rfl
      · simp [spelling, hf, ← hd, hbefore]

/-- **The pass over a text reads it.** -/
theorem reads_ofText (text : List Char) : Reads text (ofText text) where
  spell_eq := spell_ofText text
  occurs_iff before name after := by
    constructor
    · exact exists_hole_of_occurs
    · rintro ⟨front, back, hp, rfl, rfl⟩
      refine ⟨?_, @identifier_of_mem_ofText text name (by simp [hp])⟩
      have hs := spell_ofText text
      rw [hp] at hs
      simpa [spelling] using hs.symm

lemma Reads.tail {p : Piece} {pieces : List Piece} {text r : List Char}
    (h : Reads text (p :: pieces)) (ht : text = spelling p ++ r) : Reads r pieces where
  spell_eq := List.append_cancel_left (h.spell_eq.trans ht)
  occurs_iff before name after := by
    subst ht
    constructor
    · rintro ⟨rfl, hn⟩
      obtain ⟨front, back, hp, hf, hb⟩ :=
        (h.occurs_iff (spelling p ++ before) name after).mp ⟨by simp, hn⟩
      cases front with
      | nil => exact absurd hf.symm (by simp [spelling_ne_nil])
      | cons q front =>
        obtain ⟨rfl, rfl⟩ := List.cons.inj hp
        exact ⟨front, back, rfl, List.append_cancel_left hf, hb⟩
    · rintro ⟨front, back, rfl, rfl, rfl⟩
      obtain ⟨he, hn⟩ := (h.occurs_iff _ name (spell back)).mpr ⟨p :: front, back, rfl, rfl, rfl⟩
      exact ⟨by simpa using he, hn⟩

/-- The first character of a text is a piece of it unless a placeholder begins there. -/
lemma Reads.exists_copy {c : Char} {r : List Char} {pieces : List Piece}
    (h : Reads (c :: r) pieces) (hn : ¬ (c = '{' ∧ Closes r)) :
    ∃ rest, pieces = .copy c :: rest ∧ Reads r rest := by
  cases pieces with
  | nil => cases h.spell_eq
  | cons p rest =>
    cases p with
    | hole name =>
      obtain ⟨he, hid⟩ := (h.occurs_iff [] name (spell rest)).mpr ⟨[], rest, rfl, rfl, rfl⟩
      obtain ⟨hc, hr⟩ := List.cons.inj he
      exact absurd ⟨hc, _, _, hr, hid⟩ hn
    | copy d =>
      obtain ⟨rfl, -⟩ := List.cons.inj h.spell_eq
      exact ⟨rest, rfl, h.tail rfl⟩

/-- A placeholder that a text begins with is a piece of it. -/
lemma Reads.exists_hole {name r : List Char} {pieces : List Piece}
    (h : Reads ('{' :: name ++ '}' :: r) pieces) (hn : Identifier name) :
    ∃ rest, pieces = .hole (String.ofList name) :: rest ∧ Reads r rest := by
  obtain ⟨front, rest, rfl, hf, -⟩ :=
    (h.occurs_iff [] (String.ofList name) r).mp ⟨by simp, by simpa using hn⟩
  obtain rfl := spell_eq_nil_iff.mp hf
  exact ⟨rest, rfl, h.tail (by simp [spelling])⟩

/-- No other pieces read a text. -/
theorem Reads.eq_ofText {text : List Char} {pieces : List Piece} (h : Reads text pieces) :
    pieces = ofText text := by
  induction text using text_induction generalizing pieces with
  | nil => exact spell_eq_nil_iff.mp h.spell_eq
  | char c r hc ih =>
    obtain ⟨rest, rfl, hrest⟩ := h.exists_copy fun hb => hc hb.1
    rw [ofText_cons hc, ih hrest]
  | brace r hr ih =>
    obtain ⟨rest, rfl, hrest⟩ := h.exists_copy fun hb => hr hb.2
    rw [ofText_brace hr, ih hrest]
  | placeholder name r hn ih =>
    obtain ⟨rest, rfl, hrest⟩ := h.exists_hole hn
    rw [ofText_placeholder hn, ih hrest]

lemma hole_mem_ofText_iff {text : List Char} {name : String} :
    .hole name ∈ ofText text ↔ ∃ before after, Occurs text before name after := by
  constructor
  · intro h
    obtain ⟨front, back, hp⟩ := List.append_of_mem h
    exact ⟨_, _, ((reads_ofText text).occurs_iff _ name _).mpr ⟨front, back, hp, rfl, rfl⟩⟩
  · rintro ⟨before, after, h⟩
    obtain ⟨front, back, hp, -, -⟩ := exists_hole_of_occurs h
    simp [hp]

/-! ### Texts put together -/

/-- No placeholder of the text that is put together of the two reaches from one into the other. -/
def Apart (a b : List Char) : Prop :=
  ∀ before name after, Occurs (a ++ b) before name after →
    before.length + name.length + 2 ≤ a.length ∨ a.length ≤ before.length

lemma Apart.of_append {front a b : List Char} (h : Apart (front ++ a) b) : Apart a b := by
  rintro before name after ⟨he, hn⟩
  have h := h (front ++ before) name after ⟨by simp [he], hn⟩
  simp only [List.length_append] at h
  omega

lemma ofText_append {a b : List Char} (h : Apart a b) :
    ofText (a ++ b) = ofText a ++ ofText b := by
  induction a using text_induction with
  | nil => rfl
  | char c r hc ih =>
    have hr : Apart r b := @Apart.of_append [c] r b h
    rw [List.cons_append, ofText_cons hc, ofText_cons hc, ih hr]
    rfl
  | brace r hr ih =>
    have hrb : ¬ Closes (r ++ b) := by
      rintro ⟨name, rest, he, hn⟩
      have h := h [] (String.ofList name) rest ⟨by simp [he], by simpa using hn⟩
      simp only [List.length_nil, String.length_ofList, List.length_cons] at h
      -- the name and its brace are no longer than the first text, so they stand in it
      have hname : name ++ ['}'] <+: r ++ b := ⟨rest, by simp [he]⟩
      obtain ⟨e, hr'⟩ : name ++ ['}'] <+: r :=
        List.prefix_of_prefix_length_le hname ⟨b, rfl⟩ (by simp; omega)
      exact hr ⟨name, e, by simp [← hr'], hn⟩
    have hb : Apart r b := @Apart.of_append ['{'] r b h
    rw [List.cons_append, ofText_brace hrb, ofText_brace hr, ih hb]
    rfl
  | placeholder name r hn ih =>
    have hs : '{' :: name ++ '}' :: r = ('{' :: name ++ ['}']) ++ r := by simp
    have hr : Apart r b := by
      rw [hs] at h
      exact h.of_append
    have hrb : '{' :: name ++ '}' :: r ++ b = '{' :: name ++ '}' :: (r ++ b) := by simp
    rw [hrb, ofText_placeholder hn, ofText_placeholder hn, ih hr]
    rfl

/-! ### The number of placeholders -/

def isHole : Piece → Bool
  | .copy _ => false
  | .hole _ => true

/-- Where the holes are among pieces. -/
def holes (pieces : List Piece) : Set (List Char × String × List Char) :=
  {o | ∃ front back, pieces = front ++ .hole o.2.1 :: back ∧
    spell front = o.1 ∧ spell back = o.2.2}

lemma holes_cons (p : Piece) (rest : List Piece) :
    holes (p :: rest) =
      {o | p = .hole o.2.1 ∧ o.1 = [] ∧ o.2.2 = spell rest} ∪
        (fun o => (spelling p ++ o.1, o.2)) '' holes rest := by
  ext ⟨before, name, after⟩
  constructor
  · rintro ⟨front, back, hp, hf, hb⟩
    cases front with
    | nil =>
      obtain ⟨rfl, rfl⟩ := List.cons.inj hp
      exact .inl ⟨rfl, hf.symm, hb.symm⟩
    | cons q front =>
      obtain ⟨rfl, hrest⟩ := List.cons.inj hp
      exact .inr ⟨(spell front, name, after), ⟨front, back, hrest, rfl, hb⟩, Prod.ext hf rfl⟩
  · rintro (⟨hp, hf, hb⟩ | ⟨⟨b, n, a⟩, ⟨front, back, hrest, hf, hb⟩, ho⟩)
    · exact ⟨[], rest, by rw [hp]; rfl, hf.symm, hb.symm⟩
    · cases ho
      exact ⟨p :: front, back, by rw [hrest]; rfl, by rw [spell_cons, hf], hb⟩

/-- Pieces have as many holes as there are places of them. -/
lemma encard_holes (pieces : List Piece) : (holes pieces).encard = pieces.countP isHole := by
  induction pieces with
  | nil =>
    have h : holes [] = ∅ := Set.eq_empty_of_forall_notMem fun o ⟨front, back, he, _⟩ => by
      simp at he
    simp [h]
  | cons p rest ih =>
    have hinj : Function.Injective fun o : List Char × String × List Char =>
        (spelling p ++ o.1, o.2) := by
      rintro ⟨b, o⟩ ⟨b', o'⟩ h
      obtain ⟨hb, rfl⟩ := Prod.mk.inj h
      exact Prod.ext (List.append_cancel_left hb) rfl
    have hdisj : Disjoint {o | p = .hole o.2.1 ∧ o.1 = [] ∧ o.2.2 = spell rest}
        ((fun o => (spelling p ++ o.1, o.2)) '' holes rest) := by
      refine Set.disjoint_left.mpr ?_
      rintro _ ⟨-, hb, -⟩ ⟨o, -, rfl⟩
      exact spelling_ne_nil p (List.append_eq_nil_iff.mp hb).1
    rw [holes_cons, Set.encard_union_eq hdisj, hinj.encard_image, ih]
    cases p with
    | copy c => simp [isHole]
    | hole name =>
      have hone : {o : List Char × String × List Char | hole name = .hole o.2.1 ∧ o.1 = [] ∧
          o.2.2 = spell rest} = {([], name, spell rest)} := by
        ext ⟨b, n, a⟩
        simp [eq_comm, and_left_comm]
      rw [hone, Set.encard_singleton, List.countP_cons_of_pos rfl, add_comm]
      rfl

lemma Reads.encard_occurs {text : List Char} {pieces : List Piece} (h : Reads text pieces) :
    {o : List Char × String × List Char | Occurs text o.1 o.2.1 o.2.2}.encard =
      pieces.countP isHole := by
  rw [← encard_holes]
  exact congrArg _ (Set.ext fun o => h.occurs_iff o.1 o.2.1 o.2.2)

end Piece

/-! ### Filling in -/

namespace Scope

open Piece (Occurs Reads Apart isHole)

variable {scope : Scope}

/-- What is written for a piece. -/
def written (scope : Scope) : Piece → String
  | .copy c => String.singleton c
  | .hole name => ((scope.find? name).map Scalar.render).getD ""

/-- Every placeholder of the text is one of a name that has a value. -/
def AllDefined (scope : Scope) (text : List Char) : Prop :=
  ∀ before name after, Occurs text before name after → scope.find? name ≠ none

/-- The leftmost placeholder whose name has no value is one of this name. -/
def FirstUndefined (scope : Scope) (text : List Char) (name : String) : Prop :=
  ∃ before after, Occurs text before name after ∧ scope.find? name = none ∧
    ∀ b n a, Occurs text b n a → b.length < before.length → scope.find? n ≠ none

lemma foldlM_fill_of_defined {pieces : List Piece}
    (h : ∀ name, .hole name ∈ pieces → scope.find? name ≠ none) (done : String × Nat) :
    pieces.foldlM scope.fill done =
      .ok (done.1 ++ String.join (pieces.map scope.written), done.2 + pieces.countP isHole) := by
  induction pieces generalizing done with
  | nil => simp [pure, Except.pure]
  | cons p rest ih =>
    have ih := ih fun name hm => h name (List.mem_cons_of_mem _ hm)
    cases p with
    | copy c =>
      show rest.foldlM scope.fill (done.1.push c, done.2) = _
      rw [ih, List.countP_cons_of_neg (by simp [isHole]), List.map_cons, String.join_cons, written,
        ← String.append_assoc, String.append_singleton]
    | hole name =>
      obtain ⟨value, hv⟩ := Option.ne_none_iff_exists'.mp (h name List.mem_cons_self)
      have hfill : scope.fill done (.hole name) = .ok (done.1 ++ value.render, done.2 + 1) := by
        rw [fill, hv]
      have hw : scope.written (.hole name) = value.render := by rw [written, hv]; rfl
      rw [List.foldlM_cons, hfill]
      show rest.foldlM scope.fill (done.1 ++ value.render, done.2 + 1) = _
      rw [ih, List.countP_cons_of_pos rfl, List.map_cons, String.join_cons, hw]
      simp [String.append_assoc, Nat.add_assoc, Nat.add_comm 1]

lemma foldlM_fill_of_undefined {front back : List Piece} {name : String}
    (h : ∀ n, .hole n ∈ front → scope.find? n ≠ none) (hn : scope.find? name = none)
    (done : String × Nat) :
    (front ++ .hole name :: back).foldlM scope.fill done = .error name := by
  have hfill (done : String × Nat) : scope.fill done (.hole name) = .error name := by
    rw [fill, hn]
  rw [List.foldlM_append, foldlM_fill_of_defined h]
  show (Piece.hole name :: back).foldlM scope.fill _ = _
  rw [List.foldlM_cons, hfill]
  rfl

/-- Either all holes have values, or one is the first that has none. -/
lemma defined_or_exists_undefined (scope : Scope) (pieces : List Piece) :
    (∀ name, .hole name ∈ pieces → scope.find? name ≠ none) ∨
      ∃ front name back, pieces = front ++ .hole name :: back ∧ scope.find? name = none ∧
        ∀ n, .hole n ∈ front → scope.find? n ≠ none := by
  induction pieces with
  | nil => exact .inl fun name h => by cases h
  | cons p rest ih =>
    by_cases hp : ∃ name, p = .hole name ∧ scope.find? name = none
    · obtain ⟨name, rfl, hn⟩ := hp
      exact .inr ⟨[], name, rest, rfl, hn, fun n h => by cases h⟩
    · have hp : ∀ n, .hole n = p → scope.find? n ≠ none := fun n h hn => hp ⟨n, h.symm, hn⟩
      rcases ih with ih | ⟨front, name, back, rfl, hn, hf⟩
      · exact .inl fun n h => (List.mem_cons.mp h).elim (hp n) (ih n)
      · exact .inr ⟨p :: front, name, back, rfl, hn,
          fun n h => (List.mem_cons.mp h).elim (hp n) (hf n)⟩

lemma firstUndefined_iff {text : List Char} {name : String} :
    scope.FirstUndefined text name ↔ ∃ front back, Piece.ofText text = front ++ .hole name :: back ∧
      scope.find? name = none ∧ ∀ n, .hole n ∈ front → scope.find? n ≠ none := by
  have hread := Piece.reads_ofText text
  constructor
  · rintro ⟨before, after, ho, hn, hfirst⟩
    obtain ⟨front, back, hp, rfl, rfl⟩ := (hread.occurs_iff _ _ _).mp ho
    refine ⟨front, back, hp, hn, fun n hm => ?_⟩
    obtain ⟨f, g, rfl⟩ := List.append_of_mem hm
    have hsplit : Piece.ofText text = f ++ .hole n :: (g ++ .hole name :: back) := by simp [hp]
    refine hfirst _ n _ ((hread.occurs_iff _ _ _).mpr ⟨f, _, hsplit, rfl, rfl⟩) ?_
    simp [Piece.spelling]
  · rintro ⟨front, back, hp, hn, hf⟩
    refine ⟨_, _, (hread.occurs_iff _ _ _).mpr ⟨front, back, hp, rfl, rfl⟩, hn, ?_⟩
    intro b n a ho hlt
    obtain ⟨f, g, hp', rfl, rfl⟩ := (hread.occurs_iff _ _ _).mp ho
    rcases List.append_eq_append_iff.mp (hp.symm.trans hp') with ⟨e, rfl, -⟩ | ⟨e, rfl, he⟩
    · simp at hlt
    · cases e with
      | nil => simp at hlt
      | cons p e =>
        obtain ⟨rfl, -⟩ := List.cons.inj he
        exact hf n (by simp)

lemma interpolate_eq_ok_iff {text : String} {r : String × Nat} :
    scope.interpolate text = .ok r ↔ scope.AllDefined text.toList ∧
      r = (String.join ((Piece.ofText text.toList).map scope.written),
        (Piece.ofText text.toList).countP isHole) := by
  have hall : scope.AllDefined text.toList ↔
      ∀ name, .hole name ∈ Piece.ofText text.toList → scope.find? name ≠ none := by
    simp only [AllDefined, Piece.hole_mem_ofText_iff]
    grind
  rw [hall, interpolate]
  rcases scope.defined_or_exists_undefined (Piece.ofText text.toList) with
    h | ⟨front, name, back, hp, hn, hf⟩
  · rw [foldlM_fill_of_defined h, and_iff_right h, String.empty_append, Nat.zero_add]
    exact ⟨fun he => (Except.ok.inj he).symm, fun he => he ▸ rfl⟩
  · rw [hp, foldlM_fill_of_undefined hf hn]
    exact ⟨fun he => (by cases he), fun he => absurd hn (he.1 name (by simp))⟩

lemma interpolate_eq_error_iff {text name : String} :
    scope.interpolate text = .error name ↔ scope.FirstUndefined text.toList name := by
  rw [firstUndefined_iff, interpolate]
  constructor
  · intro h
    rcases scope.defined_or_exists_undefined (Piece.ofText text.toList) with
      hd | ⟨front, n, back, hp, hn, hf⟩
    · rw [foldlM_fill_of_defined hd] at h
      cases h
    · rw [hp, foldlM_fill_of_undefined hf hn] at h
      obtain rfl := Except.error.inj h
      exact ⟨front, back, hp, hn, hf⟩
  · rintro ⟨front, back, hp, hn, hf⟩
    rw [hp, foldlM_fill_of_undefined hf hn]

/-- What is there already stays in front of what is filled in behind it. -/
lemma foldlM_fill_behind (pieces : List Piece) (done : String × Nat) :
    pieces.foldlM scope.fill done = do
      let new ← pieces.foldlM scope.fill ("", 0)
      return (done.1 ++ new.1, done.2 + new.2) := by
  rcases scope.defined_or_exists_undefined pieces with h | ⟨front, name, back, rfl, hn, hf⟩
  · rw [foldlM_fill_of_defined h, foldlM_fill_of_defined h]
    simp [bind, Except.bind, pure, Except.pure]
  · rw [foldlM_fill_of_undefined hf hn, foldlM_fill_of_undefined hf hn]
    rfl

lemma interpolate_append {a b : String} (h : Apart a.toList b.toList) :
    scope.interpolate (a ++ b) = do
      let x ← scope.interpolate a
      let y ← scope.interpolate b
      return (x.1 ++ y.1, x.2 + y.2) := by
  rw [interpolate, String.toList_append, Piece.ofText_append h, List.foldlM_append]
  refine bind_congr fun x => ?_
  rw [foldlM_fill_behind]
  rfl

lemma ofText_of_notMem {text : List Char} (h : '{' ∉ text) :
    Piece.ofText text = text.map .copy := by
  induction text with
  | nil => rfl
  | cons c r ih =>
    have hc : c ≠ '{' := fun he => h (by simp [he])
    rw [Piece.ofText_cons hc, ih fun hm => h (List.mem_cons_of_mem c hm), List.map_cons]

lemma join_written_copy (text : List Char) :
    String.join ((text.map Piece.copy).map scope.written) = String.ofList text := by
  induction text with
  | nil => rfl
  | cons c r ih =>
    rw [List.map_cons, List.map_cons, String.join_cons, ih, String.ofList_cons]
    rfl

lemma interpolate_of_notMem {text : String} (h : '{' ∉ text.toList) :
    scope.interpolate text = .ok (text, 0) := by
  have hnone : (text.toList.map Piece.copy).countP isHole = 0 :=
    List.countP_eq_zero.mpr fun p hp => by
      obtain ⟨c, -, rfl⟩ := List.mem_map.mp hp
      exact Bool.false_ne_true
  refine interpolate_eq_ok_iff.mpr ⟨fun before name after ho => ?_, ?_⟩
  · exact absurd (by simp [ho.eq]) h
  · rw [ofText_of_notMem h, hnone, join_written_copy, String.ofList_toList]

/-- **Filling in a text replaces its placeholders and nothing else.** A text has one reading as
characters and holes in which the holes are its placeholders. If all names in it have values, the
values are written for the holes, the characters are copied, and the count is that of the
placeholders; what a value holds is not read. Else the leftmost name without a value is reported.
Two texts can be filled in apart if no placeholder reaches from one into the other, and a text
without an opening brace is left as it is. -/
theorem interpolate_placeholders (scope : Scope) :
    (∀ text : String, ∃ pieces, Reads text.toList pieces ∧
      (∀ other, Reads text.toList other → other = pieces) ∧
      {o : List Char × String × List Char | Occurs text.toList o.1 o.2.1 o.2.2}.encard =
        pieces.countP isHole ∧
      (scope.AllDefined text.toList →
        scope.interpolate text =
          .ok (String.join (pieces.map scope.written), pieces.countP isHole) ∧
        ∀ element stats, (Resolve.fillText scope element text).start stats =
          (.ok (String.join (pieces.map scope.written)),
            stats + .ofInterpolations (pieces.countP isHole))) ∧
      (∀ name, scope.FirstUndefined text.toList name →
        scope.interpolate text = .error name ∧
        ∀ element stats, (Resolve.fillText scope element text).start stats =
          (.error (.unresolvedVariable name element), stats)) ∧
      (scope.AllDefined text.toList ∨ ∃ name, scope.FirstUndefined text.toList name)) ∧
    (∀ a b : String, Apart a.toList b.toList →
      scope.interpolate (a ++ b) = do
        let x ← scope.interpolate a
        let y ← scope.interpolate b
        return (x.1 ++ y.1, x.2 + y.2)) ∧
    ∀ text : String, '{' ∉ text.toList → scope.interpolate text = .ok (text, 0) := by
  refine ⟨fun text => ⟨Piece.ofText text.toList, Piece.reads_ofText _, fun other => Reads.eq_ofText,
    (Piece.reads_ofText _).encard_occurs, ?_, ?_, ?_⟩, fun a b => interpolate_append,
    fun text => interpolate_of_notMem⟩
  · intro h
    have hok := interpolate_eq_ok_iff.mpr ⟨h, rfl⟩
    refine ⟨hok, fun element stats => ?_⟩
    rw [Resolve.fillText, hok]
    rfl
  · intro name h
    have herr := interpolate_eq_error_iff.mpr h
    refine ⟨herr, fun element stats => ?_⟩
    rw [Resolve.fillText, herr]
    rfl
  · cases h : scope.interpolate text with
    | ok r => exact .inl (interpolate_eq_ok_iff.mp h).1
    | error name => exact .inr ⟨name, interpolate_eq_error_iff.mp h⟩

/-- Braces stand around the placeholders, and the value that is put in looks like another one. -/
theorem interpolate_nestedBraces :
    let scope : Scope := [[("a", .text "\x7bb\x7d")]]
    scope.interpolate "\x7b\x7ba\x7d\x7ba\x7ba\x7d" =
        .ok ("\x7b\x7bb\x7d\x7ba\x7bb\x7d", 2) ∧
      scope.interpolate "\x7b\x7bb\x7d\x7bc\x7d" = .error "b" ∧
      scope.interpolate ("\x7ba" ++ "\x7ba\x7d") = .ok ("\x7ba\x7bb\x7d", 1) := by
  intro scope
  obtain ⟨hread, happend, -⟩ := interpolate_placeholders scope
  refine ⟨?_, ?_, ?_⟩
  · obtain ⟨pieces, -, huniq, -, hok, -⟩ := hread "\x7b\x7ba\x7d\x7ba\x7ba\x7d"
    obtain rfl := huniq _ (Piece.reads_ofText _)
    refine (hok fun before name after ho => ?_).1
    have hp : Piece.ofText "\x7b\x7ba\x7d\x7ba\x7ba\x7d".toList =
        [.copy '{', .hole "a", .copy '{', .copy 'a', .hole "a"] := by decide
    have hm := Piece.hole_mem_ofText_iff.mpr ⟨before, after, ho⟩
    rw [hp] at hm
    obtain rfl : name = "a" := by simpa using hm
    decide
  · obtain ⟨pieces, -, -, -, -, herr, -⟩ := hread "\x7b\x7bb\x7d\x7bc\x7d"
    exact (herr "b" (firstUndefined_iff.mpr ⟨[.copy '{'], [.hole "c"], by decide, by decide,
      by simp⟩)).1
  · refine (happend _ _ fun before name after ho => ?_).trans (by decide)
    have hp : Piece.ofText ("\x7ba".toList ++ "\x7ba\x7d".toList) =
        [.copy '{', .copy 'a', .hole "a"] := by decide
    obtain ⟨front, back, hsplit, rfl, -⟩ := Piece.exists_hole_of_occurs ho
    rw [hp] at hsplit
    obtain _ | ⟨p, _ | ⟨q, front⟩⟩ := front
    · simp at hsplit
    · simp at hsplit
    · obtain ⟨rfl, rfl, -⟩ : p = .copy '{' ∧ q = .copy 'a' ∧ _ := by simpa [eq_comm] using hsplit
      exact .inr (by simp [Piece.spelling])

end Scope
end SvgSkeleton
