import SvgSkeleton.Markup.Inlined
import SvgSkeleton.Proofs.Occurrences
import SvgSkeleton.Proofs.XmlProlog

/-!
What is taken out of an SVG document. An item of a prolog is passed over where it first seems to
end: at the first `-->` of a comment, which may share the hyphens of its beginning, and at the first
`>` of a document type outside of square brackets, quoted or not. The element ends at the last
`</svg` of the whole document, what stands behind the element included. So the end of an item can be
mistaken, and the end of the element too; otherwise, what is around the element does not matter.
-/

namespace SvgSkeleton.Markup

open Text
open Xml hiding isName isNameChar isNameStart

variable {s rest after : List Char}

lemma skipProlog_eq_ok (h : afterItem s = none) : skipProlog s = .ok s := by
  rw [skipProlog]
  split
  · rfl
  · next hf => cases h.symm.trans hf
  · next ha => cases h.symm.trans ha

lemma skipProlog_eq (h : afterItem s = some (.ok after)) :
    skipProlog s = skipProlog (trimStart after) := by
  rw [skipProlog]
  split
  · next hn => cases h.symm.trans hn
  · next hf => cases h.symm.trans hf
  · next ha =>
    cases h.symm.trans ha
    rfl

/-! ### White space and what begins with markup -/

lemma isBlank_of_mem_blanks {c : Char} (h : c ∈ blanks) : isBlank c = true :=
  List.all_eq_true.mp (by decide : blanks.all isBlank = true) c h

lemma isBlank_of_mem_space (space : Space) : ∀ c ∈ (space : List Char), isBlank c = true :=
  fun _ hc => isBlank_of_mem_blanks (space.2 hc)

lemma trimStart_append {space : List Char} (hs : ∀ c ∈ space, isBlank c = true) :
    trimStart (space ++ s) = trimStart s :=
  List.dropWhile_append_of_pos hs

lemma trimStart_space (space : Space) (s : List Char) : trimStart (space ++ s) = trimStart s :=
  trimStart_append (isBlank_of_mem_space space)

/-- The text begins with markup. -/
def IsMarkup (s : List Char) : Prop := ∃ r, s = '<' :: r

lemma IsMarkup.append (h : IsMarkup s) (t : List Char) : IsMarkup (s ++ t) := by
  obtain ⟨r, rfl⟩ := h
  exact ⟨r ++ t, rfl⟩

lemma IsMarkup.trimStart_eq (h : IsMarkup s) : trimStart s = s := by
  obtain ⟨r, rfl⟩ := h
  rfl

lemma IsMarkup.dropWhile_eq (h : IsMarkup s) : s.dropWhile (· == '\uFEFF') = s := by
  obtain ⟨r, rfl⟩ := h
  rfl

/-- A mark of the byte order is not white space. -/
lemma IsMarkup.dropWhile_append {space : List Char} (h : IsMarkup s)
    (hs : ∀ c ∈ space, isBlank c = true) :
    (space ++ s).dropWhile (· == '\uFEFF') = space ++ s := by
  cases space with
  | nil => exact h.dropWhile_eq
  | cons c space =>
    have hc : c ≠ '\uFEFF' := by
      rintro rfl
      exact absurd (hs _ List.mem_cons_self) (by decide)
    exact List.dropWhile_cons_of_neg (by simpa using hc)

lemma isMarkup_of_svg (h : "<svg".toList <+: s) : IsMarkup s := by
  obtain ⟨r, rfl⟩ := h
  exact ⟨_, rfl⟩

lemma isMarkup_item (item : Item) : IsMarkup item.text := by
  rcases item with (c | i) | d <;> exact ⟨_, rfl⟩

lemma isMarkup_textOf (items : List (Item × Space)) (h : IsMarkup s) :
    IsMarkup (textOf Item.text items ++ s) := by
  cases items with
  | nil => exact h
  | cons i items =>
    rw [textOf, List.flatMap_cons, List.append_assoc, List.append_assoc]
    exact (isMarkup_item i.1).append _

/-- Marks of the byte order and white space in front of markup are passed over. -/
lemma trimStart_dropWhile (p : Prolog) (h : IsMarkup s) :
    trimStart ((p.text ++ s).dropWhile (· == '\uFEFF')) = textOf Item.text p.items ++ s := by
  have hm := isMarkup_textOf p.items h
  have hspace := hm.dropWhile_append (isBlank_of_mem_space p.space)
  have hmark : (p.text ++ s).dropWhile (· == '\uFEFF') =
      p.space ++ (textOf Item.text p.items ++ s) := by
    rw [← hspace, Prolog.text, List.append_assoc, List.append_assoc]
    split <;> simp
  rw [hmark, trimStart_space, hm.trimStart_eq]

/-! ### The element -/

lemma afterItem_eq_none (h : "<svg".toList <+: s) : afterItem s = none := by
  obtain ⟨r, rfl⟩ := h
  rfl

lemma splitTag_inQuotes {q : Char} {text passed : List Char} (h : q ∉ text) :
    splitTag passed (some q) (text ++ q :: rest) =
      splitTag (q :: (text.reverse ++ passed)) none rest := by
  induction text generalizing passed with
  | nil => simp [splitTag]
  | cons c text ih =>
    rw [List.mem_cons, not_or] at h
    rw [List.cons_append, splitTag]
    simp only [if_neg (Ne.symm h.1)]
    rw [ih h.2]
    simp

/-- A start tag is read on behind what has closed its quotes. -/
lemma splitTag_quoted {a passed : List Char} (h : Quoted ['>'] a) :
    splitTag passed none (a ++ rest) = splitTag (a.reverse ++ passed) none rest := by
  induction h generalizing passed with
  | nil => rfl
  | @plain c s hc _ ih =>
    simp only [List.mem_cons, not_or, List.not_mem_nil, not_false_eq_true, and_true] at hc
    rw [List.cons_append, splitTag]
    simp only [hc.1, hc.2.1, hc.2.2, decide_false, Bool.or_false, Bool.false_eq_true, if_false]
    rw [ih]
    simp
  | @quote q text s hq ht _ ih =>
    have hquote : (decide (q = '"') || decide (q = '\'')) = true := by simpa using hq
    rw [List.append_assoc, List.cons_append, List.cons_append, splitTag]
    simp only [hquote, if_true]
    rw [splitTag_inQuotes ht, ih]
    simp

lemma endsName_of_behindName {a : List Char} (ha : BehindName a) :
    endsName (a ++ '>' :: rest) = true := by
  cases a with
  | nil => rfl
  | cons c r =>
    have hc : isBlank c = true := isBlank_of_mem_blanks (by simpa using ha.space)
    simp [endsName, hc]

/-- What is taken out reaches from the end of the start tag to the last end tag. -/
lemma innerOfSvg_eq {a b : List Char} (ha : BehindName a) (hr : ¬ "</svg".toList <:+: rest) :
    innerOfSvg ("<svg".toList ++ (a ++ '>' :: (b ++ "</svg".toList ++ rest))) = .ok b := by
  have hsvg : "<svg".toList <+: "<svg".toList ++ (a ++ '>' :: (b ++ "</svg".toList ++ rest)) :=
    List.prefix_append _ _
  have hm := isMarkup_of_svg hsvg
  have hpre : "<svg".toList.isPrefixOf?
      ("<svg".toList ++ (a ++ '>' :: (b ++ "</svg".toList ++ rest))) =
      some (a ++ '>' :: (b ++ "</svg".toList ++ rest)) :=
    List.isPrefixOf?_eq_some_iff_append_eq.mpr rfl
  have htag : splitTag [] none (a ++ '>' :: (b ++ "</svg".toList ++ rest)) =
      some (a.reverse, b ++ "</svg".toList ++ rest) := by
    rw [splitTag_quoted ha.quoted]
    simp [splitTag]
  have hlast : splitLast "</svg".toList (b ++ "</svg".toList ++ rest) = some (b, rest) :=
    splitLast_append (by decide) fun hi =>
      hr ((infix_append_iff_of_notMem (c := '<') (by decide)).mp hi)
  rw [innerOfSvg, hm.dropWhile_eq, hm.trimStart_eq, skipProlog_eq_ok (afterItem_eq_none hsvg)]
  simp only [bind, Except.bind, hpre, endsName_of_behindName ha, Bool.not_true, Bool.false_eq_true,
    if_false, htag]
  split
  · next hn => cases hn
  · next hn =>
    have := congrArg List.head? (congrArg Prod.fst (Option.some.inj hn))
    rw [List.head?_reverse] at this
    exact absurd this ha.last
  · next hn =>
    obtain ⟨-, rfl⟩ := Prod.mk.inj (Option.some.inj hn)
    rw [hlast]

/-- A document with a pair of tags, and what is behind them. -/
def svgDocument (a b w e : String) : String := "<svg" ++ a ++ ">" ++ b ++ "</svg" ++ w ++ ">" ++ e

lemma inner_svgDocument {a b w e x y : String} (ha : BehindName a.toList)
    (he : b ++ "</svg" ++ w ++ ">" ++ e = x ++ "</svg" ++ y) (hy : ¬ "</svg".toList <:+: y.toList) :
    inner (svgDocument a b w e) = .ok x := by
  have hd : (svgDocument a b w e).toList =
      "<svg".toList ++ (a.toList ++ '>' :: (x.toList ++ "</svg".toList ++ y.toList)) := by
    have he := congrArg String.toList he
    simp only [String.toList_append] at he
    rw [← he]
    simp [svgDocument]
  rw [inner, hd, innerOfSvg_eq ha hy]
  simp [Except.map]

/-- A tag does not begin in white space and the end of a tag. -/
lemma infix_behind_iff {w e : List Char} (hw : w ⊆ blanks) :
    "</svg".toList <:+: w ++ '>' :: e ↔ "</svg".toList <:+: e := by
  have hn : '<' ∉ w ++ ['>'] := by
    rw [List.mem_append, not_or]
    exact ⟨fun h => absurd (hw h) (by decide), by decide⟩
  have h : "</svg".toList <:+: (w ++ ['>']) ++ e ↔ "</svg".toList <:+: e :=
    infix_append_iff_of_notMem hn
  rwa [List.append_assoc] at h

lemma getLast?_misc (m : Misc) : m.text.getLast? = some '>' := by
  rcases m with c | i
  · rw [Misc.text, Comment.text, List.getLast?_append]
    rfl
  · rw [Misc.text, Instruction.text, List.getLast?_append]
    rfl

lemma infix_textOf_iff {items : List (Misc × Space)} :
    "</svg".toList <:+: textOf Misc.text items ↔ ∃ i ∈ items, "</svg".toList <:+: i.1.text := by
  induction items with
  | nil => simp [textOf]
  | cons i items ih =>
    have hspace : '<' ∉ (i.2 : List Char) := fun h => absurd (i.2.2 h) (by decide)
    have ht : textOf Misc.text (i :: items) = i.1.text ++ (i.2 ++ textOf Misc.text items) := by
      simp [textOf]
    rw [ht, infix_append_iff_of_getLast? (getLast?_misc i.1) (by decide)]
    have h : "</svg".toList <:+: i.2 ++ textOf Misc.text items ↔
        "</svg".toList <:+: textOf Misc.text items := infix_append_iff_of_notMem hspace
    rw [h]
    simp only [List.exists_mem_cons_iff]
    exact or_congr Iff.rfl ih

lemma infix_epilog_iff {e : Epilog} :
    "</svg".toList <:+: e.text ↔ ∃ i ∈ e.items, "</svg".toList <:+: i.1.text := by
  have hspace : '<' ∉ (e.space : List Char) := fun h => absurd (e.space.2 h) (by decide)
  have h : "</svg".toList <:+: e.space ++ textOf Misc.text e.items ↔
      "</svg".toList <:+: textOf Misc.text e.items := infix_append_iff_of_notMem hspace
  exact h.trans infix_textOf_iff

/-- **The body of the element is taken out as it is exactly if no comment and no instruction behind
the element holds an end tag**; otherwise all up to the last of these goes with it. -/
theorem inner_element {a b w : String} {e : Epilog} (ha : BehindName a.toList)
    (hw : w.toList ⊆ blanks) :
    (inner (svgDocument a b w (String.ofList e.text)) = .ok b ↔
        ∀ i ∈ e.items, ¬ "</svg".toList <:+: i.1.text) ∧
      ∀ x y : String, String.ofList e.text = x ++ "</svg" ++ y → ¬ "</svg".toList <:+: y.toList →
        inner (svgDocument a b w (String.ofList e.text)) = .ok (b ++ "</svg" ++ w ++ ">" ++ x) := by
  have hlast : ∀ x y : String, String.ofList e.text = x ++ "</svg" ++ y →
      ¬ "</svg".toList <:+: y.toList →
      inner (svgDocument a b w (String.ofList e.text)) = .ok (b ++ "</svg" ++ w ++ ">" ++ x) := by
    intro x y he hy
    refine inner_svgDocument ha ?_ hy
    rw [he]
    simp only [String.append_assoc]
  refine ⟨?_, hlast⟩
  have hiff : (∀ i ∈ e.items, ¬ "</svg".toList <:+: i.1.text) ↔ ¬ "</svg".toList <:+: e.text := by
    rw [infix_epilog_iff]
    simp
  rw [hiff]
  constructor
  · intro hb hi
    obtain ⟨x, y, he, hy⟩ := exists_last (by decide) hi
    have hy : ¬ "</svg".toList <:+: y := fun h =>
      hy ((infix_append_iff_of_notMem (c := '<') (by decide)).mpr h)
    have he : String.ofList e.text = String.ofList x ++ "</svg" ++ String.ofList y :=
      String.toList_injective (by simpa using he)
    have h := hlast (String.ofList x) (String.ofList y) he (by simpa using hy)
    -- the body would be longer than it is
    have hlen := congrArg String.length (Except.ok.inj (h.symm.trans hb))
    have hgt : ">".length = 1 := rfl
    simp only [String.length_append] at hlen
    omega
  · intro hn
    have hrest : ¬ "</svg".toList <:+: (w ++ ">" ++ String.ofList e.text).toList := by
      have := (infix_behind_iff (e := e.text) hw).not.mpr hn
      simpa using this
    exact inner_svgDocument ha (by simp only [String.append_assoc]) hrest

/-- White space, a remark and an instruction. -/
def plainEpilog : Epilog where
  space := ⟨['\n'], by decide⟩
  items := [(.comment ⟨" <svg> ".toList, by decide, by decide +kernel⟩, ⟨['\n'], by decide⟩),
    (.instruction ⟨"end", [], by decide, by decide, by decide, by decide⟩, ⟨[], by decide⟩)]

theorem inner_element_nested :
    BehindName " id='>'".toList ∧ "\n".toList ⊆ blanks ∧
      inner (svgDocument " id='>'" "<svg></svg>" "\n" (String.ofList plainEpilog.text)) =
        .ok "<svg></svg>" := by
  have hq : Quoted ['>'] (" id=".toList ++ ('\'' :: ['>'] ++ '\'' :: [])) :=
    .plain_append (by decide) (.quote (.inr rfl) (by decide) .nil)
  have ha : BehindName " id='>'".toList := ⟨by decide, hq, by decide⟩
  have hw : "\n".toList ⊆ blanks := by decide
  refine ⟨ha, hw, (inner_element ha hw).1.mpr ?_⟩
  intro i hi
  simp only [plainEpilog, List.mem_cons, List.not_mem_nil, or_false] at hi
  rcases hi with rfl | rfl <;> decide +kernel

/-- A comment that holds an end tag. -/
def taggedEpilog : Epilog where
  space := ⟨[], by decide⟩
  items := [(.comment ⟨"</svg".toList, by decide, by decide +kernel⟩, ⟨[], by decide⟩)]

/-- **An end tag in a comment behind the element is taken for the end of the element.** -/
theorem inner_element_mistaken :
    ¬ ∀ (a b w : String) (e : Epilog), BehindName a.toList → w.toList ⊆ blanks →
      inner (svgDocument a b w (String.ofList e.text)) = .ok b := by
  intro h
  have ha : BehindName "".toList := ⟨by decide, .nil, by decide⟩
  have h := h "" "b" "" taggedEpilog ha (by decide)
  have hm : inner (svgDocument "" "b" "" (String.ofList taggedEpilog.text)) = .ok "b</svg><!--" :=
    inner_svgDocument (y := "-->") ha (by rfl) (by decide)
  exact absurd (Except.ok.inj (h.symm.trans hm)) (by decide)

/-! ### Comments and instructions -/

lemma afterItem_comment {before : List Char}
    (h : splitFirst "-->".toList ("<!--".toList ++ s) = some (before, after)) :
    afterItem ("<!--".toList ++ s) = some (.ok after) := by
  unfold afterItem
  rw [if_neg (by simp), if_pos (by simp), h]

lemma afterItem_instruction {before : List Char}
    (h : splitFirst "?>".toList ("<?".toList ++ s) = some (before, after)) :
    afterItem ("<?".toList ++ s) = some (.ok after) := by
  unfold afterItem
  rw [if_pos (by simp), h]

/-- The end of a comment does not occur before its end. -/
lemma not_infix_comment {c : Comment} (h : c.Unmistakable) :
    ¬ "-->".toList <:+: "<!--".toList ++ c.content ++ "-->".toList.dropLast := by
  obtain ⟨content, hchars, hyphens⟩ := c
  obtain ⟨hgt, hhyphen⟩ := h
  have hinside : ¬ "-->".toList <:+: content ++ ['-', '-'] := by
    intro hi
    have hi : ['-', '-'] ++ ['>'] <:+: (content ++ ['-']) ++ ['-'] := by simpa using hi
    have := infix_of_infix_concat hi (by decide)
    exact hyphens ((List.prefix_append _ _).isInfix.trans this)
  intro hi
  -- the end begins at one of the hyphens in front of the content, or in the content
  have hi : ['-', '-', '>'] <:+: ['<', '!'] ++ ('-' :: '-' :: (content ++ ['-', '-'])) := by
    simpa using hi
  rw [infix_append_iff_of_notMem (by decide), List.infix_cons_iff, List.infix_cons_iff] at hi
  rcases hi with hi | hi | hi
  · have hi : ['>'] <+: content ++ ['-', '-'] := by simpa using hi
    cases content with
    | nil => simp at hi
    | cons d r => exact hgt (by simpa using hi)
  · have hi : ['-', '>'] <+: content ++ ['-', '-'] := by simpa using hi
    match content with
    | [] => simp at hi
    | [d] =>
      obtain ⟨rfl, -⟩ := List.cons_prefix_cons.mp hi
      exact hyphens (by decide)
    | d :: e :: r => exact hhyphen (by simpa using hi)
  · exact hinside hi

/-- A comment is taken to end where its beginning and the next character look like an end. -/
lemma afterItem_early {hyphens : List Char} (h : hyphens = [] ∨ hyphens = ['-']) (t : List Char) :
    afterItem ("<!--".toList ++ (hyphens ++ '>' :: t)) = some (.ok t) := by
  have hs : splitFirst "-->".toList ("<!".toList ++ hyphens ++ "-->".toList ++ t) =
      some ("<!".toList ++ hyphens, t) :=
    splitFirst_append (by decide) (by rcases h with rfl | rfl <;> decide)
  have he : "<!".toList ++ hyphens ++ "-->".toList ++ t =
      "<!--".toList ++ (hyphens ++ '>' :: t) := by
    rcases h with rfl | rfl <;> rfl
  rw [he] at hs
  exact afterItem_comment hs

theorem afterItem_comment_iff {c : Comment} :
    (∀ rest, afterItem (c.text ++ rest) = some (.ok rest)) ↔ c.Unmistakable := by
  constructor
  · intro h
    have early : ∀ hyphens t : List Char, hyphens = [] ∨ hyphens = ['-'] →
        c.content ≠ hyphens ++ '>' :: t := by
      intro hyphens t hh ht
      have he := afterItem_early hh (t ++ "-->".toList)
      have hc : c.text ++ [] = "<!--".toList ++ (hyphens ++ '>' :: (t ++ "-->".toList)) := by
        rw [Comment.text, ht]
        simp
      rw [← hc, h []] at he
      have := Except.ok.inj (Option.some.inj he)
      simp at this
    exact ⟨fun ⟨t, ht⟩ => early [] t (.inl rfl) ht.symm,
      fun ⟨t, ht⟩ => early ['-'] t (.inr rfl) ht.symm⟩
  · intro h rest
    have hs : splitFirst "-->".toList
        ("<!--".toList ++ c.content ++ "-->".toList ++ rest) =
        some ("<!--".toList ++ c.content, rest) :=
      splitFirst_append (by decide) (not_infix_comment h)
    rw [Comment.text, List.append_assoc, List.append_assoc]
    rw [List.append_assoc, List.append_assoc] at hs
    exact afterItem_comment hs

theorem afterItem_instruction_eq (i : Instruction) (rest : List Char) :
    afterItem (i.text ++ rest) = some (.ok rest) := by
  obtain ⟨target, words, hname, -, -, hclosing⟩ := i
  have hq : '?' ∉ target.toList := notMem_of_isName hname (by decide)
  have hn : ¬ "?>".toList <:+:
      ("<?".toList ++ (target.toList ++ words)) ++ "?>".toList.dropLast := by
    intro hi
    have hi : ['?'] ++ ['>'] <:+: ('<' :: '?' :: (target.toList ++ words)) ++ ['?'] := by
      simpa using hi
    have hi : ['?', '>'] <:+: ['<'] ++ '?' :: (target.toList ++ words) :=
      infix_of_infix_concat hi (by decide)
    rw [infix_append_iff_of_notMem (by decide), List.infix_cons_iff] at hi
    rcases hi with hi | hi
    · have hi : ['>'] <+: target.toList ++ words := (List.cons_prefix_cons.mp hi).2
      cases ht : target.toList with
      | nil => simp [Xml.isName, ht] at hname
      | cons d r =>
        rw [ht] at hi
        obtain ⟨rfl, -⟩ := List.cons_prefix_cons.mp hi
        have hgt : '>' ∉ target.toList := notMem_of_isName hname (by decide)
        exact hgt (ht ▸ List.mem_cons_self)
    · exact hclosing ((infix_append_iff_of_notMem hq).mp hi)
  have hs : splitFirst "?>".toList
      ("<?".toList ++ (target.toList ++ words) ++ "?>".toList ++ rest) =
      some ("<?".toList ++ (target.toList ++ words), rest) :=
    splitFirst_append (by decide) hn
  rw [List.append_assoc, List.append_assoc] at hs
  rw [Instruction.text, List.append_assoc, List.append_assoc]
  exact afterItem_instruction hs

/-! ### Document types -/

lemma afterDoctype_cons {inside : Bool} {c : Char} (h : c = '>' → inside = true) :
    afterDoctype inside (c :: s) =
      afterDoctype (if c = '[' then true else if c = ']' then false else inside) s := by
  rw [afterDoctype]
  by_cases ho : c = '['
  · rw [if_pos ho, if_pos ho]
  · by_cases hc : c = ']'
    · rw [if_neg ho, if_neg ho, if_pos hc, if_pos hc]
    · rw [if_neg ho, if_neg ho, if_neg hc, if_neg hc, if_neg]
      simpa using h

/-- A document type is read to the end of a text if that is the first `>` outside of brackets. -/
theorem afterDoctype_append_iff {inside : Bool} {t : List Char} :
    afterDoctype inside (t ++ '>' :: rest) = some rest ↔
      Covered inside t ∧ bracketed inside t = false := by
  induction t generalizing inside with
  | nil =>
    rw [and_iff_right covered_nil]
    cases inside with
    | false => simp [afterDoctype, bracketed]
    | true =>
      have hn : afterDoctype true rest ≠ some rest := fun h =>
        absurd (length_afterDoctype_lt h) (Nat.lt_irrefl _)
      simp [afterDoctype, bracketed, hn]
  | cons c t ih =>
    rw [List.cons_append, covered_cons_iff, bracketed_cons]
    by_cases h : c = '>' → inside = true
    · rw [afterDoctype_cons h, ih, and_iff_right h]
    · obtain ⟨rfl, hi⟩ := Classical.not_imp.mp h
      obtain rfl := Bool.not_eq_true _ ▸ hi
      have hlen : t ++ '>' :: rest ≠ rest := by
        intro h
        have := congrArg List.length h
        simp at this
        omega
      simp [afterDoctype, hlen]

lemma afterItem_doctype_eq_iff :
    afterItem ("<!DOCTYPE".toList ++ s) = some (.ok after) ↔ afterDoctype false s = some after := by
  have hw : afterDoctype false ("<!DOCTYPE".toList ++ s) = afterDoctype false s := by
    simp [afterDoctype]
  unfold afterItem
  rw [if_neg (by simp), if_neg (by simp), if_pos (by simp), hw]
  cases afterDoctype false s <;> simp

theorem afterItem_doctype_iff {d : Doctype} :
    (∀ rest, afterItem (d.text ++ rest) = some (.ok rest)) ↔ d.Unmistakable := by
  have hd : ∀ rest, afterItem (d.text ++ rest) = some (.ok rest) ↔ d.Unmistakable := by
    intro rest
    have ht : d.text ++ rest = "<!DOCTYPE".toList ++ (d.inside ++ '>' :: rest) := by
      unfold Doctype.text
      simp
    rw [ht]
    exact afterItem_doctype_eq_iff.trans afterDoctype_append_iff
  exact ⟨fun h => (hd []).mp (h []), fun h rest => (hd rest).mpr h⟩

/-- An item is passed over to its end exactly if nothing in it reads like its end. -/
theorem afterItem_text_iff (item : Item) :
    (∀ rest, afterItem (item.text ++ rest) = some (.ok rest)) ↔ item.Unmistakable := by
  rcases item with (c | i) | d
  · exact afterItem_comment_iff
  · exact iff_of_true (afterItem_instruction_eq i) trivial
  · exact afterItem_doctype_iff

/-! ### Prologs -/

/-- Items that cannot be mistaken are passed over, one after the other. -/
lemma skipProlog_textOf {items : List (Item × Space)} (h : ∀ i ∈ items, i.1.Unmistakable)
    (hs : IsMarkup s) : skipProlog (textOf Item.text items ++ s) = skipProlog s := by
  induction items with
  | nil => rfl
  | cons i items ih =>
    have hi := (afterItem_text_iff i.1).mpr (h i List.mem_cons_self)
      (i.2 ++ (textOf Item.text items ++ s))
    have ht : textOf Item.text (i :: items) ++ s =
        i.1.text ++ (i.2 ++ (textOf Item.text items ++ s)) := by
      simp [textOf]
    rw [ht, skipProlog_eq hi, trimStart_space, (isMarkup_textOf items hs).trimStart_eq,
      ih fun j hj => h j (List.mem_cons_of_mem _ hj)]

lemma innerOfSvg_congr {t : List Char}
    (h : skipProlog (trimStart (s.dropWhile (· == '\uFEFF'))) =
      skipProlog (trimStart (t.dropWhile (· == '\uFEFF')))) : innerOfSvg s = innerOfSvg t := by
  unfold innerOfSvg
  rw [h]

/-- **A prolog does not change what is taken out of a document**, if the end of none of its items
can be mistaken; and that is so exactly for the items that are passed over to their end. -/
theorem inner_prolog {p : Prolog} {d : String} (hd : "<svg".toList <+: d.toList) :
    (∀ i ∈ p.items, (∀ rest, afterItem (i.1.text ++ rest) = some (.ok rest)) ↔
        i.1.Unmistakable) ∧
      ((∀ i ∈ p.items, i.1.Unmistakable) → inner (String.ofList p.text ++ d) = inner d) := by
  refine ⟨fun i _ => afterItem_text_iff i.1, fun h => ?_⟩
  have hm := isMarkup_of_svg hd
  have he : innerOfSvg (p.text ++ d.toList) = innerOfSvg d.toList := by
    apply innerOfSvg_congr
    rw [trimStart_dropWhile p hm, skipProlog_textOf h hm, hm.dropWhile_eq, hm.trimStart_eq]
  rw [inner, String.toList_append, String.toList_ofList, he]
  rfl

/-- A document type with `>` in a declaration and in a comment. -/
def drawingType : Doctype where
  words := " svg SYSTEM ".toList ++ ('\'' :: "svg.dtd".toList ++ '\'' :: [])
  subset := some ([.declaration ⟨"ENTITY", " more ".toList ++ ('"' :: ">".toList ++ '"' :: []),
      by decide, by decide, .plain_append (by decide) (.quote (.inl rfl) (by decide) .nil)⟩,
    .misc (.comment ⟨" -> ".toList, by decide, by decide +kernel⟩)], ⟨[], by decide⟩)
  chars := by decide
  space := by decide
  quoted := .plain_append (by decide) (.quote (.inr rfl) (by decide) .nil)

def fullProlog : Prolog where
  mark := true
  space := ⟨[], by decide⟩
  items := [(.misc (.instruction ⟨"xml", " version='1.0'".toList, by decide, by decide, by decide,
      by decide +kernel⟩), ⟨['\n'], by decide⟩),
    (.misc (.comment ⟨" a - b ".toList, by decide, by decide +kernel⟩), ⟨[], by decide⟩),
    (.doctype drawingType, ⟨['\n'], by decide⟩)]
  once := by decide

lemma unmistakable_drawingType : drawingType.Unmistakable := by
  refine Doctype.unmistakable_of_notMem (by decide) (by decide) ?_
  intro between hb
  obtain rfl := Option.some.inj hb
  decide

theorem inner_fullProlog :
    "<svg".toList <+: "<svg>b</svg>".toList ∧ (∀ i ∈ fullProlog.items, i.1.Unmistakable) ∧
      inner (String.ofList fullProlog.text ++ "<svg>b</svg>") = inner "<svg>b</svg>" := by
  have hd : "<svg".toList <+: "<svg>b</svg>".toList := List.isPrefixOf_iff_prefix.mp (by decide)
  have hp : ∀ i ∈ fullProlog.items, i.1.Unmistakable := by
    intro i hi
    simp only [fullProlog, List.mem_cons, List.not_mem_nil, or_false] at hi
    rcases hi with rfl | rfl | rfl
    · exact trivial
    · exact ⟨by decide, by decide⟩
    · exact unmistakable_drawingType
  exact ⟨hd, hp, (inner_prolog hd).2 hp⟩

/-- A comment that begins with the end of a tag. -/
def angleProlog : Prolog where
  mark := false
  space := ⟨[], by decide⟩
  items := [(.misc (.comment ⟨['>'], by decide, by decide⟩), ⟨[], by decide⟩)]
  once := by decide

lemma innerOfSvg_eq_error {t : List Char}
    (h : skipProlog (trimStart (s.dropWhile (· == '\uFEFF'))) = .ok t)
    (ht : "<svg".toList.isPrefixOf? t = none) : innerOfSvg s = .error .noSvg := by
  rw [innerOfSvg, h]
  simp only [bind, Except.bind, ht]

/-- **A comment that begins with `>` is taken to end there**, and the document is refused. -/
theorem inner_prolog_mistaken :
    ¬ ∀ (p : Prolog) (d : String), "<svg".toList <+: d.toList →
      inner (String.ofList p.text ++ d) = inner d := by
  intro h
  have h := h angleProlog (svgDocument "" "b" "" "") (List.isPrefixOf_iff_prefix.mp (by decide))
  have hb : inner (svgDocument "" "b" "" "") = .ok "b" :=
    inner_svgDocument (y := ">") ⟨by decide, .nil, by decide⟩ (by rfl) (by decide)
  have hrest : skipProlog ("<!--".toList ++ ([] ++ '>' :: "--><svg>b</svg>".toList)) =
      .ok "--><svg>b</svg>".toList := by
    rw [skipProlog_eq (afterItem_early (.inl rfl) _)]
    exact skipProlog_eq_ok (by rfl)
  have he : innerOfSvg (angleProlog.text ++ (svgDocument "" "b" "" "").toList) = .error .noSvg :=
    innerOfSvg_eq_error hrest (by decide)
  rw [inner, String.toList_append, String.toList_ofList, he] at h
  cases h.trans hb

end SvgSkeleton.Markup
