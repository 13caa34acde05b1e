import SvgSkeleton.Proofs.Picture

/-!
Names of font families in a style sheet. A name is written between quotes, with a backslash before
each quote and each backslash in it. Read as CSS Syntax says, that is one string; but line ends are
left as they are, and a line end inside a string makes it a bad one. So the string has the name for
its value exactly if there is no line end in the name, and no NUL, which a style sheet cannot hold.
-/

namespace SvgSkeleton

namespace Css

/-! ### Strings of a style sheet -/

/-- The characters that end a line, a carriage return before a line feed apart. -/
def lineEnds : List Char := ['\n', '\r', '\x0C']

/-- The character that is taken for NUL, and any other itself. -/
def withoutNul (c : Char) : Char := if c = '\x00' then '\uFFFD' else c

/-- How a character of a style sheet is taken. -/
def taken (c : Char) : Char := if c ∈ lineEnds then '\n' else withoutNul c

/-- The characters of a style sheet as they are read: each line ends in a line feed, and there is
no NUL. -/
def preprocess : List Char → List Char
  | [] => []
  | c :: rest =>
    if c = '\r' ∧ rest.head? = some '\n' then preprocess rest
    else taken c :: preprocess rest

/-- What begins with a quote: a string with its value, or a bad string. -/
inductive StringToken where
  | string (value : List Char)
  | bad
  deriving DecidableEq

def StringToken.cons (c : Char) : StringToken → StringToken
  | .string value => .string (c :: value)
  | .bad => .bad

/-- The character that hexadecimal digits stand for. -/
def codePoint (digits : List Char) : Char :=
  let n := digits.foldl (fun n c => n * 16 + (Text.hexValue c).getD 0) 0
  if n = 0 ∨ ¬ n.isValidChar then '\uFFFD' else Char.ofNat n

/-- What is left behind a blank, if there is one. -/
def skipBlank : List Char → List Char
  | c :: rest => if c = ' ' ∨ c = '\t' ∨ c = '\n' then rest else c :: rest
  | [] => []

/-- What a backslash and a character behind it stand for, and what is left: the character itself,
or the one with the number that it begins, of six digits at most and with a blank behind them. -/
def readEscape (c : Char) (rest : List Char) : Char × List Char :=
  if (Text.hexValue c).isSome then
    let digits := (rest.take 5).takeWhile fun d => (Text.hexValue d).isSome
    (codePoint (c :: digits), skipBlank (rest.drop digits.length))
  else (c, rest)

lemma length_skipBlank_le (text : List Char) : (skipBlank text).length ≤ text.length := by
  cases text with
  | nil => simp [skipBlank]
  | cons c rest =>
    rw [skipBlank]
    split <;> simp

lemma length_readEscape_le (c : Char) (rest : List Char) :
    (readEscape c rest).2.length ≤ rest.length := by
  unfold readEscape
  split
  · refine (length_skipBlank_le _).trans ?_
    simp
  · exact Nat.le_refl _

/-- The string whose opening quote has been read, and what is left behind it. -/
def readString : List Char → StringToken × List Char
  | [] => (.string [], [])
  | '"' :: rest => (.string [], rest)
  | '\n' :: rest => (.bad, '\n' :: rest)
  | ['\\'] => (.string [], [])
  | '\\' :: '\n' :: rest => readString rest
  | '\\' :: c :: rest =>
    let read := readString (readEscape c rest).2
    (read.1.cons (readEscape c rest).1, read.2)
  | c :: rest =>
    let read := readString rest
    (read.1.cons c, read.2)
termination_by text => text.length
decreasing_by
  · simp only [List.length_cons]
    omega
  · have := length_readEscape_le c rest
    simp only [List.length_cons]
    omega
  · simp only [List.length_cons]
    omega

/-- The string that a text begins with, and what is left behind it. -/
def stringToken? : List Char → Option (StringToken × List Char)
  | '"' :: rest => some (readString rest)
  | _ => none

/-- Wherever it stands in a style sheet, the text is read as one string with this value. -/
def IsString (text : String) (value : List Char) : Prop :=
  ∀ before rest, ∃ read,
    preprocess (before ++ text.toList ++ rest) = preprocess before ++ read ∧
      stringToken? read = some (.string value, preprocess rest)

/-- Wherever it stands, the text begins with a bad string. -/
def IsBadString (text : String) : Prop :=
  ∀ before rest, ∃ read left,
    preprocess (before ++ text.toList ++ rest) = preprocess before ++ read ∧
      stringToken? read = some (.bad, left)

/-! ### What is written for a name -/

/-- What stands for a name in a rule. -/
def quoted (name : String) : String := "\"" ++ escape name ++ "\""

lemma withoutNul_eq_iff {c : Char} : withoutNul c = c ↔ c ≠ '\x00' := by
  unfold withoutNul
  split
  · next h =>
    subst h
    exact iff_of_false (by decide) (not_not.mpr rfl)
  · next h => exact iff_of_true rfl h

lemma taken_eq_newline_iff {c : Char} : taken c = '\n' ↔ c ∈ lineEnds := by
  unfold taken
  split
  · next h => exact iff_of_true rfl h
  · next h =>
    refine iff_of_false ?_ h
    unfold withoutNul
    split
    · decide
    · rintro rfl
      exact h (by decide)

lemma preprocess_cons_of_ne {c : Char} (hc : c ≠ '\r') (rest : List Char) :
    preprocess (c :: rest) = taken c :: preprocess rest := by
  rw [preprocess, if_neg fun h => hc h.1]

/-- A quote parts what is read before it from what is read from there on. -/
lemma preprocess_append_quote (before rest : List Char) :
    preprocess (before ++ '"' :: rest) = preprocess before ++ '"' :: preprocess rest := by
  induction before with
  | nil =>
    rw [List.nil_append, preprocess_cons_of_ne (by decide)]
    rfl
  | cons c before ih =>
    have hhead : (before ++ '"' :: rest).head? = some '\n' ↔ before.head? = some '\n' := by
      cases before <;> simp
    simp only [List.cons_append, preprocess, hhead, ih]
    split <;> rfl

lemma escapeChar_cases (c : Char) :
    (c = '\\' ∨ c = '"') ∧ escapeChar c = ['\\', c] ∨
      (c ≠ '\\' ∧ c ≠ '"') ∧ escapeChar c = [c] := by
  unfold escapeChar
  split
  · next h => exact .inl ⟨by simpa using h, rfl⟩
  · next h => exact .inr ⟨by simpa using h, rfl⟩

lemma head?_escape_eq_newline_iff (name : List Char) :
    (name.flatMap escapeChar).head? = some '\n' ↔ name.head? = some '\n' := by
  cases name with
  | nil => rfl
  | cons c name =>
    rw [List.flatMap_cons]
    rcases escapeChar_cases c with ⟨rfl | rfl, h⟩ | ⟨-, h⟩ <;> simp [h]

/-- Escapes are read as they are written. -/
lemma preprocess_escape (name : List Char) :
    preprocess (name.flatMap escapeChar) = (preprocess name).flatMap escapeChar := by
  induction name with
  | nil => rfl
  | cons c name ih =>
    rw [List.flatMap_cons]
    rcases escapeChar_cases c with ⟨hc, h⟩ | ⟨hc, h⟩
    · have hne : c ≠ '\r' := by rcases hc with rfl | rfl <;> decide
      have htaken : taken c = c := by rcases hc with rfl | rfl <;> decide
      rw [h, List.cons_append, List.singleton_append, preprocess_cons_of_ne (by decide),
        preprocess_cons_of_ne hne, preprocess_cons_of_ne hne, htaken, List.flatMap_cons, h, ih]
      rfl
    · have htaken : escapeChar (taken c) = [taken c] := by
        unfold taken withoutNul
        split
        · decide
        · split
          · decide
          · exact h
      simp only [h, List.singleton_append, preprocess, head?_escape_eq_newline_iff, ih]
      split
      · rfl
      · rw [List.flatMap_cons, htaken]
        rfl

lemma readString_plain {c : Char} (hc : c ≠ '\\' ∧ c ≠ '"') (hn : c ≠ '\n') (rest : List Char) :
    readString (c :: rest) = ((readString rest).1.cons c, (readString rest).2) := by
  rw [readString]
  all_goals simp [hc, hn]

lemma readString_escaped {c : Char} (hc : c = '\\' ∨ c = '"') (rest : List Char) :
    readString ('\\' :: c :: rest) = ((readString rest).1.cons c, (readString rest).2) := by
  have hesc : readEscape c rest = (c, rest) := by
    rw [readEscape, if_neg (by rcases hc with rfl | rfl <;> decide)]
  have hn : c ≠ '\n' := by rcases hc with rfl | rfl <;> decide
  rw [readString, hesc]
  exact hn

lemma readString_escapeChar {c : Char} (hn : c ≠ '\n') (rest : List Char) :
    readString (escapeChar c ++ rest) = ((readString rest).1.cons c, (readString rest).2) := by
  rcases escapeChar_cases c with ⟨hc, h⟩ | ⟨hc, h⟩
  · rw [h]
    exact readString_escaped hc rest
  · rw [h]
    exact readString_plain hc hn rest

/-- An escaped text without line ends is read to its closing quote. -/
lemma readString_escape {name : List Char} (h : '\n' ∉ name) (rest : List Char) :
    readString (name.flatMap escapeChar ++ '"' :: rest) = (.string name, rest) := by
  induction name with
  | nil =>
    rw [List.flatMap_nil, List.nil_append, readString]
  | cons c name ih =>
    rw [List.mem_cons, not_or] at h
    rw [List.flatMap_cons, List.append_assoc, readString_escapeChar (Ne.symm h.1), ih h.2]
    rfl

/-- One with line ends is read to the first of them. -/
lemma readString_escape_of_mem {name : List Char} (h : '\n' ∈ name) (rest : List Char) :
    ∃ left, readString (name.flatMap escapeChar ++ rest) = (.bad, left) := by
  induction name with
  | nil => cases h
  | cons c name ih =>
    by_cases hc : c = '\n'
    · subst hc
      exact ⟨_, readString.eq_3 _⟩
    · obtain ⟨left, hleft⟩ := ih ((List.mem_cons.mp h).resolve_left (Ne.symm hc))
      refine ⟨left, ?_⟩
      rw [List.flatMap_cons, List.append_assoc, readString_escapeChar hc, hleft]
      rfl

/-- What is read where a name is written, whatever stands around it. -/
lemma preprocess_quoted (name : String) (before rest : List Char) :
    preprocess (before ++ (quoted name).toList ++ rest) = preprocess before ++
      '"' :: ((preprocess name.toList).flatMap escapeChar ++ '"' :: preprocess rest) := by
  have htext : (quoted name).toList = '"' :: (name.toList.flatMap escapeChar ++ ['"']) := by
    simp [quoted, escape]
  rw [htext, List.append_assoc, List.cons_append, List.append_assoc, List.singleton_append,
    preprocess_append_quote, preprocess_append_quote, preprocess_escape]

lemma newline_mem_preprocess_iff {name : List Char} :
    '\n' ∈ preprocess name ↔ ∃ c ∈ name, c ∈ lineEnds := by
  induction name with
  | nil => simp [preprocess]
  | cons c name ih =>
    rw [preprocess]
    split
    · next h =>
      obtain ⟨rfl, h⟩ := h
      have hm : '\n' ∈ name := List.mem_of_mem_head? h
      exact iff_of_true (ih.mpr ⟨_, hm, by decide⟩) ⟨_, List.mem_cons_self, by decide⟩
    · rw [List.mem_cons, ih, eq_comm, taken_eq_newline_iff]
      simp

/-- Without line ends in it, a name is read character by character. -/
lemma preprocess_of_notMem {name : List Char} (h : ∀ c ∈ name, c ∉ lineEnds) :
    preprocess name = name.map withoutNul := by
  induction name with
  | nil => rfl
  | cons c name ih =>
    obtain ⟨hc, hname⟩ := List.forall_mem_cons.mp h
    have hr : c ≠ '\r' := by
      rintro rfl
      exact hc (by decide)
    rw [preprocess_cons_of_ne hr, ih hname, taken, if_neg hc]
    rfl

lemma isString_quoted {name : String} (h : ∀ c ∈ name.toList, c ∉ lineEnds) :
    IsString (quoted name) (name.toList.map withoutNul) := by
  have hn : '\n' ∉ preprocess name.toList := by
    rw [newline_mem_preprocess_iff]
    rintro ⟨c, hc, he⟩
    exact h c hc he
  intro before rest
  refine ⟨_, preprocess_quoted name before rest, ?_⟩
  rw [stringToken?, readString_escape hn, preprocess_of_notMem h]

lemma isBadString_quoted {name : String} (h : ∃ c ∈ name.toList, c ∈ lineEnds) :
    IsBadString (quoted name) := by
  intro before rest
  obtain ⟨left, hleft⟩ := readString_escape_of_mem (newline_mem_preprocess_iff.mpr h)
    ('"' :: preprocess rest)
  exact ⟨_, left, preprocess_quoted name before rest, by rw [stringToken?, hleft]⟩

/-- A text is one string, with one value, or a bad string. -/
lemma IsString.unique {text : String} {value value' : List Char} (h : IsString text value)
    (h' : IsString text value') : value = value' := by
  obtain ⟨read, hread, ht⟩ := h [] []
  obtain ⟨read', hread', ht'⟩ := h' [] []
  obtain rfl := List.append_cancel_left (hread.symm.trans hread')
  rw [ht] at ht'
  exact StringToken.string.inj (Prod.mk.inj (Option.some.inj ht')).1

lemma IsBadString.not_isString {text : String} {value : List Char} (h : IsBadString text) :
    ¬ IsString text value := by
  intro h'
  obtain ⟨read, left, hread, ht⟩ := h [] []
  obtain ⟨read', hread', ht'⟩ := h' [] []
  obtain rfl := List.append_cancel_left (hread.symm.trans hread')
  rw [ht] at ht'
  cases ht'

/-- How the text between quotes is read that stands for a name. -/
structure Names (text name : String) : Prop where
  isString_iff : IsString text name.toList ↔ ∀ c ∈ name.toList, c ∉ lineEnds ∧ c ≠ '\x00'
  replaced (h : ∀ c ∈ name.toList, c ∉ lineEnds) : IsString text (name.toList.map withoutNul)
  broken (h : ∃ c ∈ name.toList, c ∈ lineEnds) : IsBadString text

lemma names_quoted (name : String) : Names (quoted name) name where
  isString_iff := by
    by_cases hends : ∃ c ∈ name.toList, c ∈ lineEnds
    · refine iff_of_false (isBadString_quoted hends).not_isString fun h => ?_
      obtain ⟨c, hc, he⟩ := hends
      exact (h c hc).1 he
    have hnone : ∀ c ∈ name.toList, c ∉ lineEnds := fun c hc he => hends ⟨c, hc, he⟩
    have hstring := isString_quoted hnone
    have hsame : name.toList.map withoutNul = name.toList ↔ ∀ c ∈ name.toList, c ≠ '\x00' := by
      conv_lhs => rw [← List.map_id name.toList, List.map_map, List.map_inj_left]
      exact forall₂_congr fun c _ => withoutNul_eq_iff
    constructor
    · intro h c hc
      exact ⟨hnone c hc, hsame.mp (hstring.unique h) c hc⟩
    · intro h
      rw [hsame.mpr fun c hc => (h c hc).2] at hstring
      exact hstring
  replaced := isString_quoted
  broken := isBadString_quoted

end Css

namespace Resolve

open Manifest (FontFace)

/-- **The name of a family is read back from its rule as one string**, exactly if there is no line
end and no NUL in it. With a line end in the name the string is a bad one; NUL is replaced. -/
theorem font_families {s : Surroundings} {scope : Scope} {faces : List FontFace} {attrs : Bindings}
    {g : Element} {stats stats' : Stats}
    (h : (font s scope faces attrs).start stats = (.ok g, stats')) :
    ∃ rules, g.children = [.element "style" .empty [.text (String.join rules) false] true] ∧
      List.Forall₂ (fun face rule => Css.Names (Css.quoted face.name) face.name ∧
        ∃ after, rule =
          "@font-face \x7b font-family: " ++ Css.quoted face.name ++ "; src: url(" ++ after)
        faces rules := by
  have hresult : (font s scope faces attrs).result = .ok g := by
    rw [← Run.start_fst _ stats, h]
  obtain ⟨rules, hr, hresult⟩ := Run.result_bind_eq_ok_iff.mp hresult
  obtain ⟨out, -, hresult⟩ := Run.result_bind_eq_ok_iff.mp hresult
  obtain ⟨u, -, hresult⟩ := Run.result_bind_eq_ok_iff.mp hresult
  obtain rfl := Except.ok.inj hresult
  rw [Run.result_mapM, mapM_eq_ok_iff] at hr
  refine ⟨rules, rfl, hr.imp fun face rule hrule => ⟨Css.names_quoted face.name, ?_⟩⟩
  have hrule : HasRule ⟨s.store, s.fonts, none, 0⟩ s.folder scope.flat face rule :=
    hasRule_of_result rfl rfl hrule
  obtain ⟨bytes, format, descriptors, -, -, rfl⟩ := hrule
  obtain ⟨after, hrule⟩ := Css.exists_fontFaceRule_eq face.name format bytes descriptors
  exact ⟨dataUri format.mediaType bytes ++ after, by rw [hrule, String.append_assoc, Css.quoted]⟩

/-- Where there are no files, but a font of this name. -/
def onlyFont (name : String) : Surroundings :=
  ⟨MemoryFiles.toStore .empty, Catalog.insert .empty name "x".toUTF8, "",
    fun path => throw (.assetNotFound path)⟩

/-- The definitions for that font. -/
def definedOnly (name : String) : Run Element := font (onlyFont name) [] [⟨name, .bundled, []⟩] []

theorem font_families_escaped :
    ∃ g stats, (definedOnly "a\\\"b").start .zero = (.ok g, stats) ∧
      Css.IsString "\"a\\\\\\\"b\"" "a\\\"b".toList := by
  obtain ⟨g, hg, -⟩ := exists_of_any (p := fun _ => true)
    (x := ((definedOnly "a\\\"b").start .zero).1) (by decide +kernel)
  obtain ⟨rules, -, hnames⟩ := font_families (Prod.ext hg rfl)
  obtain _ | ⟨⟨hnames, -⟩, -⟩ := hnames
  have hchars : ∀ c ∈ "a\\\"b".toList, c ∉ Css.lineEnds ∧ c ≠ '\x00' := by simp [Css.lineEnds]
  exact ⟨g, _, Prod.ext hg rfl, hnames.isString_iff.mpr hchars⟩

/-- A line end in a name is written as it is, and the string that it stands in is a bad one. -/
theorem font_families_broken :
    ((definedOnly "a\nb").start .zero).1.map Markup.printElement =
        .ok ("<defs><style>@font-face \x7b font-family: \"a\nb\"; "
          ++ "src: url(data:font/woff2;base64,eA==) format(\"woff2\"); \x7d</style></defs>") ∧
      Css.IsBadString "\"a\nb\"" ∧ ¬ Css.IsString "\"a\nb\"" "a\nb".toList := by
  have hbad : Css.IsBadString (Css.quoted "a\nb") :=
    Css.isBadString_quoted ⟨'\n', by decide, by decide⟩
  exact ⟨by decide +kernel, hbad, hbad.not_isString⟩

end Resolve
end SvgSkeleton
