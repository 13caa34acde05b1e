import Mathlib.Data.List.Basic
import SvgSkeleton.Proofs.Xml
import SvgSkeleton.Proofs.XmlReader

/-!
What XML allows around the outermost element of a document: a byte-order mark, white space,
comments, processing instructions (the declaration of XML is written like one), and a document type,
which may hold comments, instructions and declarations between square brackets. Where quoted texts
may stand, nothing is asked of the words but that quotes are closed and that marks which would end
the item stand in quotes only; so nothing that XML allows is left out.
-/

namespace SvgSkeleton.Xml

/-- White space, perhaps none. -/
abbrev Space := { s : List Char // s ⊆ blanks }

/-- The quotes in the text are closed, and the marks stand only between quotes. -/
inductive Quoted (marks : List Char) : List Char → Prop
  | nil : Quoted marks []
  | plain {c : Char} {s : List Char} (hc : c ∉ '"' :: '\'' :: marks) (h : Quoted marks s) :
      Quoted marks (c :: s)
  | quote {q : Char} {text s : List Char} (hq : q = '"' ∨ q = '\'') (ht : q ∉ text)
      (h : Quoted marks s) : Quoted marks (q :: text ++ q :: s)

lemma Quoted.plain_append {marks s t : List Char} (hs : s.all (· ∉ '"' :: '\'' :: marks))
    (ht : Quoted marks t) : Quoted marks (s ++ t) := by
  induction s with
  | nil => exact ht
  | cons c s ih =>
    rw [List.all_cons, Bool.and_eq_true, decide_eq_true_iff] at hs
    exact .plain hs.1 (ih hs.2)

/-- What may stand in the start tag of a pair of tags behind the name of the element. -/
structure BehindName (s : List Char) : Prop where
  space : s.head?.all (· ∈ blanks)
  quoted : Quoted ['>'] s
  last : s.getLast? ≠ some '/'

/-- The text of a comment, in which there are no two hyphens side by side and none at the end. -/
structure Comment where
  content : List Char
  chars : content.all isChar
  hyphens : ¬ ['-', '-'] <:+: content ++ ['-']

def Comment.text (c : Comment) : List Char := "<!--".toList ++ c.content ++ "-->".toList

/-- A processing instruction: the name of what it is meant for and, behind white space, the rest. -/
structure Instruction where
  target : String
  rest : List Char
  name : isName target = true
  chars : rest.all isChar
  space : rest.head?.all (· ∈ blanks)
  closing : ¬ ['?', '>'] <:+: rest

def Instruction.text (i : Instruction) : List Char :=
  "<?".toList ++ (i.target.toList ++ i.rest) ++ "?>".toList

/-- What may stand in front of the outermost element and behind it. -/
inductive Misc where
  | comment (c : Comment)
  | instruction (i : Instruction)

def Misc.text : Misc → List Char
  | .comment c => c.text
  | .instruction i => i.text

/-- The marks that stand only between quotes in a declaration. -/
def declarationMarks : List Char := ['<', '>', '[', ']']

/-- A declaration of a document type. -/
structure Declaration where
  keyword : String
  words : List Char
  known : keyword ∈ ["ELEMENT", "ATTLIST", "ENTITY", "NOTATION"]
  chars : words.all isChar
  quoted : Quoted declarationMarks words

def Declaration.text (d : Declaration) : List Char :=
  "<!".toList ++ d.keyword.toList ++ d.words ++ ['>']

/-- What may stand between the brackets of a document type. -/
inductive Declared where
  | declaration (d : Declaration)
  | misc (m : Misc)
  | reference (name : String) (h : isName name = true)
  | space (s : Space)

def Declared.text : Declared → List Char
  | .declaration d => d.text
  | .misc m => m.text
  | .reference name _ => '%' :: name.toList ++ [';']
  | .space s => s

/-- A document type: its name, perhaps with quoted identifiers, and what stands between its
brackets, if it has any, with the white space behind them. -/
structure Doctype where
  words : List Char
  subset : Option (List Declared × Space)
  chars : words.all isChar
  space : words.head?.any (· ∈ blanks)
  quoted : Quoted declarationMarks words

/-- What stands in the document type in front of its last character. -/
def Doctype.inside (d : Doctype) : List Char :=
  match d.subset with
  | none => d.words
  | some (declared, space) => d.words ++ '[' :: declared.flatMap Declared.text ++ ']' :: space

def Doctype.text (d : Doctype) : List Char := "<!DOCTYPE".toList ++ d.inside ++ ['>']

/-- An item in front of the outermost element. -/
inductive Item where
  | misc (m : Misc)
  | doctype (d : Doctype)

def Item.text : Item → List Char
  | .misc m => m.text
  | .doctype d => d.text

def Item.isDoctype : Item → Bool
  | .misc _ => false
  | .doctype _ => true

/-- What stands in front of the outermost element: items, each with the white space behind it. -/
structure Prolog where
  mark : Bool
  space : Space
  items : List (Item × Space)
  once : items.countP (·.1.isDoctype) ≤ 1

/-- The text of items and of the white space behind each. -/
def textOf {α : Type} (text : α → List Char) (items : List (α × Space)) : List Char :=
  items.flatMap fun i => text i.1 ++ i.2

def Prolog.text (p : Prolog) : List Char :=
  (if p.mark then ['\uFEFF'] else []) ++ p.space ++ textOf Item.text p.items

/-- What stands behind the outermost element. -/
structure Epilog where
  space : Space
  items : List (Misc × Space)

def Epilog.text (e : Epilog) : List Char := e.space ++ textOf Misc.text e.items

/-! ### Items whose end cannot be mistaken -/

/-- Does what follows a text stand inside square brackets? Its last bracket tells, and if it has
none, what is in front of it. -/
def bracketed (inside : Bool) (s : List Char) : Bool :=
  (s.reverse.find? fun c => c = '[' || c = ']').elim inside (· == '[')

/-- Every `>` in the text stands inside square brackets. -/
def Covered (inside : Bool) (s : List Char) : Prop :=
  ∀ before after, s = before ++ '>' :: after → bracketed inside before = true

/-- The comment does not begin with what would end it together with the hyphens in front. -/
def Comment.Unmistakable (c : Comment) : Prop := ¬ ['>'] <+: c.content ∧ ¬ ['-', '>'] <+: c.content

/-- Only the last character of the document type is a `>` outside of brackets, where brackets count
in quotes and in comments too. -/
def Doctype.Unmistakable (d : Doctype) : Prop :=
  Covered false d.inside ∧ bracketed false d.inside = false

/-- Nothing in the item reads like its end to one who does not know about quotes. -/
def Item.Unmistakable : Item → Prop
  | .misc (.comment c) => c.Unmistakable
  | .misc (.instruction _) => True
  | .doctype d => d.Unmistakable

variable {inside : Bool} {c : Char} {s t : List Char}

lemma bracketed_cons :
    bracketed inside (c :: s) =
      bracketed (if c = '[' then true else if c = ']' then false else inside) s := by
  rw [bracketed, bracketed, List.reverse_cons, List.find?_append]
  cases s.reverse.find? fun c => c = '[' || c = ']' with
  | some d => rfl
  | none =>
    by_cases ho : c = '['
    · simp [ho]
    · by_cases hc : c = ']'
      · simp [hc]
      · simp [ho, hc]

lemma bracketed_append : bracketed inside (s ++ t) = bracketed (bracketed inside s) t := by
  induction s generalizing inside with
  | nil => rfl
  | cons c s ih => rw [List.cons_append, bracketed_cons, ih, ← bracketed_cons]

lemma bracketed_true (h : ']' ∉ s) : bracketed true s = true := by
  induction s with
  | nil => rfl
  | cons c s ih =>
    rw [List.mem_cons, not_or] at h
    rw [bracketed_cons, if_neg (Ne.symm h.1), ite_self, ih h.2]

lemma bracketed_false (h : '[' ∉ s) : bracketed false s = false := by
  induction s with
  | nil => rfl
  | cons c s ih =>
    rw [List.mem_cons, not_or] at h
    rw [bracketed_cons, if_neg (Ne.symm h.1), ite_self, ih h.2]

lemma covered_nil : Covered inside [] := by
  rintro (_ | _) after h <;> cases h

lemma covered_cons_iff :
    Covered inside (c :: s) ↔ (c = '>' → inside = true) ∧
      Covered (if c = '[' then true else if c = ']' then false else inside) s := by
  constructor
  · intro h
    refine ⟨fun hc => h [] s (by rw [hc]; rfl), fun before after hs => ?_⟩
    rw [← bracketed_cons]
    exact h (c :: before) after (by rw [hs]; rfl)
  · rintro ⟨hc, hs⟩ before after h
    cases before with
    | nil => exact hc (List.cons.inj h).1
    | cons d before =>
      obtain ⟨rfl, rfl⟩ := List.cons.inj h
      rw [bracketed_cons]
      exact hs before after rfl

lemma covered_append_iff :
    Covered inside (s ++ t) ↔ Covered inside s ∧ Covered (bracketed inside s) t := by
  induction s generalizing inside with
  | nil => exact (and_iff_right covered_nil).symm
  | cons c s ih =>
    rw [List.cons_append, covered_cons_iff, covered_cons_iff, ih, bracketed_cons, and_assoc]

lemma covered_of_notMem (h : '>' ∉ s) : Covered inside s := by
  rintro before after rfl
  simp at h

lemma covered_true (h : ']' ∉ s) : Covered true s := by
  rintro before after rfl
  exact bracketed_true fun hm => h (List.mem_append_left _ hm)

/-- The end of a document type is found if its words have no `>` and no `[` in quotes and nothing
between its brackets has a `]`. -/
lemma Doctype.unmistakable_of_notMem {d : Doctype} (hgt : '>' ∉ d.words) (ho : '[' ∉ d.words)
    (hc : ∀ between ∈ d.subset, ']' ∉ between.1.flatMap Declared.text) : d.Unmistakable := by
  have hwords := bracketed_false ho
  rw [Unmistakable, inside]
  split
  · exact ⟨covered_of_notMem hgt, hwords⟩
  · next declared space hs =>
    have hc := hc _ hs
    have hspace : ∀ c, c ∉ blanks → c ∉ (space : List Char) := fun c hc h => hc (space.2 h)
    rw [List.append_assoc, List.cons_append]
    constructor
    · rw [covered_append_iff, covered_cons_iff, covered_append_iff, covered_cons_iff]
      exact ⟨covered_of_notMem hgt, by simp, covered_true hc, by simp,
        covered_of_notMem (hspace '>' (by decide))⟩
    · rw [bracketed_append, bracketed_cons, bracketed_append, bracketed_cons]
      exact bracketed_false (hspace '[' (by decide))

end SvgSkeleton.Xml
