import SvgSkeleton.Proofs.Wrapper

/-!
What the outermost tags of any text enclose, be it an SVG document or not. In front of the first
element stand items, each of which ends where what ends such an item occurs first; the element ends
at the last end tag of the text. A text that is not of this form encloses nothing and is refused.
-/

namespace SvgSkeleton.Markup

open Text
open Xml (Quoted Covered bracketed)

/-- The text begins with the opening, and ends where the closing occurs first. -/
structure Delimited (opening closing text : List Char) : Prop where
  begins : opening <+: text
  ends : closing <:+ text
  first : ¬ closing <:+: text.dropLast

/-- What is passed over as an item in front of the first element, well-formed or not. -/
inductive IsItem : List Char → Prop
  | instruction {text : List Char} (h : Delimited "<?".toList "?>".toList text) : IsItem text
  | comment {text : List Char} (h : Delimited "<!--".toList "-->".toList text) : IsItem text
  | doctype {inside : List Char}
      (begins : "<!DOCTYPE".toList <+: inside ∨ "<!doctype".toList <+: inside)
      (covered : Covered false inside) (closed : bracketed false inside = false) :
      IsItem (inside ++ ['>'])

/-- Items, each with the white space behind it. -/
inductive Items : List Char → Prop
  | nil : Items []
  | cons {item space rest : List Char} (hi : IsItem item) (hs : ∀ c ∈ space, isBlank c = true)
      (hr : Items rest) : Items (item ++ (space ++ rest))

/-- What is passed over in front of the first element: marks of the byte order, white space and
items. -/
inductive PassedOver : List Char → Prop
  | mk {marks space items : List Char} (hm : ∀ c ∈ marks, c = '\uFEFF')
      (hs : ∀ c ∈ space, isBlank c = true) (hi : Items items) :
      PassedOver (marks ++ (space ++ items))

/-- What stands in a start tag between the name of the element and the `>` that ends the tag, which
is the first one outside of quotes. -/
structure InStartTag (inside : List Char) : Prop where
  begins : inside.head?.all fun c => isBlank c || c == '/'
  quoted : Quoted ['>'] inside

/-- The text encloses this between the start tag of its first element and its last end tag; or the
start tag closes itself, and it encloses nothing. -/
inductive Encloses (document : List Char) : List Char → Prop
  | empty {front inside behind : List Char} (hf : PassedOver front) (hi : InStartTag inside)
      (hl : inside.getLast? = some '/')
      (hd : document = (front ++ ("<svg".toList ++ inside ++ ['>'])) ++ behind) :
      Encloses document []
  | between {front inside inner behind : List Char} (hf : PassedOver front)
      (hi : InStartTag inside) (hl : inside.getLast? ≠ some '/')
      (hd : document = (front ++ ("<svg".toList ++ inside ++ ['>'])) ++ inner ++ behind)
      (hb : "</svg".toList <+: behind) (hn : ¬ "</svg".toList <:+: behind.tail) :
      Encloses document inner

variable {s t after : List Char}

/-! ### Items -/

lemma delimited_iff {opening closing text : List Char} (hc : closing ≠ []) :
    Delimited opening closing text ↔
      opening <+: text ∧ ∃ before, text = before ++ closing ∧
        ¬ closing <:+: before ++ closing.dropLast := by
  constructor
  · rintro ⟨hb, ⟨before, rfl⟩, hf⟩
    rw [List.dropLast_append_of_ne_nil hc] at hf
    exact ⟨hb, before, rfl, hf⟩
  · rintro ⟨hb, before, rfl, hf⟩
    refine ⟨hb, List.suffix_append _ _, ?_⟩
    rwa [List.dropLast_append_of_ne_nil hc]

/-- An item that is found by its closing is delimited by it, as the closing does not occur in what
such an item begins with. -/
lemma exists_delimited_iff {opening closing : List Char} (hc : closing ≠ [])
    (hn : ¬ closing <:+: opening) :
    (opening <+: s ∧ ∃ before, splitFirst closing s = some (before, after)) ↔
      ∃ item, Delimited opening closing item ∧ s = item ++ after := by
  simp only [splitFirst_eq_some_iff hc, delimited_iff hc]
  constructor
  · rintro ⟨hb, before, rfl, hf⟩
    refine ⟨before ++ closing, ⟨?_, before, rfl, hf⟩, rfl⟩
    rcases List.prefix_or_prefix_of_prefix hb (List.prefix_append (before ++ closing) after) with
      h | h
    · exact h
    · exact absurd (((List.suffix_append before closing).isInfix).trans h.isInfix) hn
  · rintro ⟨_, ⟨hb, before, rfl, hf⟩, rfl⟩
    exact ⟨hb.trans (List.prefix_append _ _), before, rfl, hf⟩

lemma exists_delimited {opening closing : List Char} {fault : SvgFault} (hc : closing ≠ [])
    (hn : ¬ closing <:+: opening) (hb : opening.isPrefixOf s = true)
    (h : (match splitFirst closing s with
      | none => some (Except.error fault)
      | some (_, after) => some (Except.ok after)) = some (.ok after)) :
    ∃ item, Delimited opening closing item ∧ s = item ++ after := by
  split at h
  · cases h
  · next before _ hs =>
    cases h
    exact (exists_delimited_iff hc hn).mp ⟨List.isPrefixOf_iff_prefix.mp hb, before, hs⟩

lemma exists_inside_of_afterDoctype {inside : Bool} (h : afterDoctype inside s = some after) :
    ∃ t, s = t ++ '>' :: after := by
  induction s generalizing inside with
  | nil => cases h
  | cons c r ih =>
    by_cases hc : c = '>' → inside = true
    · rw [afterDoctype_cons hc] at h
      obtain ⟨t, rfl⟩ := ih h
      exact ⟨c :: t, rfl⟩
    · obtain ⟨rfl, hi⟩ := Classical.not_imp.mp hc
      rw [afterDoctype, if_neg (by decide), if_neg (by decide), if_pos (by simpa using hi)] at h
      obtain rfl := Option.some.inj h
      exact ⟨[], rfl⟩

lemma prefix_of_prefix_append_cons {piece before : List Char} {c : Char} (hc : c ∉ piece)
    (h : piece <+: before ++ c :: after) : piece <+: before := by
  have hconcat : before ++ [c] <+: before ++ c :: after := ⟨after, by simp⟩
  rcases List.prefix_or_prefix_of_prefix h hconcat with hp | hp
  · rcases List.prefix_concat_iff.mp hp with rfl | hp
    · exact absurd List.mem_concat_self hc
    · exact hp
  · exact absurd (hp.subset List.mem_concat_self) hc

lemma afterItem_of_doctype (hb : "<!DOCTYPE".toList <+: s ∨ "<!doctype".toList <+: s)
    (h : afterDoctype false s = some after) : afterItem s = some (.ok after) := by
  unfold afterItem
  rcases hb with ⟨r, rfl⟩ | ⟨r, rfl⟩
  · rw [if_neg (by simp), if_neg (by simp), if_pos (by simp), h]
  · rw [if_neg (by simp), if_neg (by simp), if_pos (by simp), h]

/-- What follows an item is what is left behind it, and no text is left in two ways. -/
lemma afterItem_eq_ok_iff :
    afterItem s = some (.ok after) ↔ ∃ item, IsItem item ∧ s = item ++ after := by
  constructor
  · intro h
    unfold afterItem at h
    split at h
    · next hb =>
      obtain ⟨item, hi, he⟩ := exists_delimited (by decide) (by decide) hb h
      exact ⟨item, .instruction hi, he⟩
    split at h
    · next hb =>
      obtain ⟨item, hi, he⟩ := exists_delimited (by decide) (by decide) hb h
      exact ⟨item, .comment hi, he⟩
    split at h
    · next hb =>
      split at h
      · cases h
      · next hs =>
        cases h
        obtain ⟨inside, rfl⟩ := exists_inside_of_afterDoctype hs
        obtain ⟨hcovered, hclosed⟩ := afterDoctype_append_iff.mp hs
        rw [Bool.or_eq_true, List.isPrefixOf_iff_prefix, List.isPrefixOf_iff_prefix] at hb
        have hb := hb.imp (prefix_of_prefix_append_cons (by decide))
          (prefix_of_prefix_append_cons (by decide))
        exact ⟨_, .doctype hb hcovered hclosed, by simp⟩
    · cases h
  · rintro ⟨item, hi, rfl⟩
    cases hi with
    | instruction h =>
      obtain ⟨⟨r, hr⟩, before, hs⟩ :=
        (exists_delimited_iff (s := item ++ after) (by decide) (by decide)).mpr ⟨item, h, rfl⟩
      rw [← hr] at hs ⊢
      exact afterItem_instruction hs
    | comment h =>
      obtain ⟨⟨r, hr⟩, before, hs⟩ :=
        (exists_delimited_iff (s := item ++ after) (by decide) (by decide)).mpr ⟨item, h, rfl⟩
      rw [← hr] at hs ⊢
      exact afterItem_comment hs
    | @doctype inside hb hcovered hclosed =>
      have hd : afterDoctype false (inside ++ '>' :: after) = some after :=
        afterDoctype_append_iff.mpr ⟨hcovered, hclosed⟩
      rw [List.append_assoc, List.singleton_append]
      refine afterItem_of_doctype ?_ hd
      exact hb.imp (·.trans (List.prefix_append _ _)) (·.trans (List.prefix_append _ _))

/-! ### In front of the first element -/

lemma skipProlog_eq_error {fault : SvgFault} (h : afterItem s = some (.error fault)) :
    skipProlog s = .error fault := by
  rw [skipProlog]
  split
  · next hn => cases h.symm.trans hn
  · next hf =>
    cases h.symm.trans hf
    rfl
  · next ha => cases h.symm.trans ha

lemma isMarkup_isItem {item : List Char} (h : IsItem item) : IsMarkup item := by
  cases h with
  | instruction h =>
    obtain ⟨r, rfl⟩ := h.begins
    exact ⟨_, rfl⟩
  | comment h =>
    obtain ⟨r, rfl⟩ := h.begins
    exact ⟨_, rfl⟩
  | doctype h _ _ =>
    rcases h with ⟨r, rfl⟩ | ⟨r, rfl⟩
    · exact ⟨_, rfl⟩
    · exact ⟨_, rfl⟩

lemma isMarkup_items_append {items : List Char} (hi : Items items) (ht : IsMarkup t) :
    IsMarkup (items ++ t) := by
  cases hi with
  | nil => exact ht
  | cons hi _ _ =>
    rw [List.append_assoc]
    exact (isMarkup_isItem hi).append _

/-- The items are passed over one after the other. -/
lemma skipProlog_items_append {items : List Char} (hi : Items items) (ht : IsMarkup t) :
    skipProlog (items ++ t) = skipProlog t := by
  induction hi with
  | nil => rfl
  | @cons item space rest hitem hspace hrest ih =>
    have hafter : afterItem (item ++ (space ++ rest) ++ t) = some (.ok (space ++ (rest ++ t))) :=
      afterItem_eq_ok_iff.mpr ⟨item, hitem, by simp⟩
    rw [skipProlog_eq hafter, trimStart_append hspace,
      (isMarkup_items_append hrest ht).trimStart_eq, ih]

/-- By induction on the length: what is passed over are items. -/
lemma exists_items_of_skipProlog (h : skipProlog s = .ok t) :
    ∃ items, Items items ∧ s = items ++ t := by
  induction hn : s.length using Nat.strongRecOn generalizing s with
  | ind n ih =>
    cases ha : afterItem s with
    | none =>
      rw [skipProlog_eq_ok ha] at h
      exact ⟨[], .nil, Except.ok.inj h⟩
    | some result =>
      cases result with
      | error fault => cases (skipProlog_eq_error ha).symm.trans h
      | ok after =>
        rw [skipProlog_eq ha] at h
        have hlt := length_afterItem_lt ha
        have hle := length_trimStart_le after
        obtain ⟨item, hitem, rfl⟩ := afterItem_eq_ok_iff.mp ha
        obtain ⟨items, hitems, he⟩ := ih _ (by omega) h rfl
        have hspace : ∀ c ∈ after.takeWhile isBlank, isBlank c = true :=
          List.all_eq_true.mp List.all_takeWhile
        have hafter : after.takeWhile isBlank ++ trimStart after = after :=
          List.takeWhile_append_dropWhile
        refine ⟨_, .cons hitem hspace hitems, ?_⟩
        rw [List.append_assoc, List.append_assoc, ← he, hafter]

/-- A text from which a first element is left has been passed over up to that. -/
lemma exists_passedOver_of_skipProlog
    (h : skipProlog (trimStart (s.dropWhile (· == '\uFEFF'))) = .ok t) :
    ∃ front, PassedOver front ∧ s = front ++ t := by
  obtain ⟨items, hi, he⟩ := exists_items_of_skipProlog h
  have hmarks : ∀ c ∈ s.takeWhile (· == '\uFEFF'), c = '\uFEFF' := fun c hc =>
    beq_iff_eq.mp (List.all_eq_true.mp List.all_takeWhile c hc)
  have hspace : ∀ c ∈ (s.dropWhile (· == '\uFEFF')).takeWhile isBlank, isBlank c = true :=
    List.all_eq_true.mp List.all_takeWhile
  refine ⟨_, .mk hmarks hspace hi, ?_⟩
  rw [List.append_assoc, List.append_assoc, ← he, trimStart, List.takeWhile_append_dropWhile,
    List.takeWhile_append_dropWhile]

lemma skipProlog_append {front : List Char} (hf : PassedOver front) (ht : IsMarkup t) :
    skipProlog (trimStart ((front ++ t).dropWhile (· == '\uFEFF'))) = skipProlog t := by
  obtain ⟨hm, hs, hi⟩ := hf
  have hmarkup := isMarkup_items_append hi ht
  rw [List.append_assoc, List.append_assoc,
    List.dropWhile_append_of_pos fun c hc => beq_iff_eq.mpr (hm c hc),
    hmarkup.dropWhile_append hs, trimStart_append hs, hmarkup.trimStart_eq,
    skipProlog_items_append hi ht]

/-! ### The element -/

/-- The text in front of the last end tag. -/
def upToEndTag (body : List Char) : Except SvgFault (List Char) :=
  match splitLast "</svg".toList body with
  | none => .error .notClosed
  | some (inner, _) => .ok inner

/-- The markup between the tags, of which the first goes on like this behind its name. -/
def betweenTags (tag : List Char) : Except SvgFault (List Char) :=
  match splitTag [] none tag with
  | none => .error .openTag
  | some ('/' :: _, _) => .ok []
  | some (_, body) => upToEndTag body

/-- The markup between the tags of the element that the text begins with. -/
def ofElement (s : List Char) : Except SvgFault (List Char) :=
  match "<svg".toList.isPrefixOf? s with
  | none => .error .noSvg
  | some tag => if !endsName tag then .error .noSvg else betweenTags tag

lemma innerOfSvg_eq_bind (document : List Char) :
    innerOfSvg document =
      (skipProlog (trimStart (document.dropWhile (· == '\uFEFF')))).bind ofElement := rfl

/-- The marks stand only between quotes once the quote that is open is closed, if one is. -/
def QuotedFrom (marks : List Char) : Option Char → List Char → Prop
  | none, inside => Quoted marks inside
  | some q, inside => ∃ text rest, inside = text ++ q :: rest ∧ q ∉ text ∧ Quoted marks rest

/-- A start tag ends at the first `>` outside of quotes. -/
lemma exists_inside_of_splitTag {passed before : List Char} {quote : Option Char}
    (h : splitTag passed quote s = some (before, after)) :
    ∃ inside, before = inside.reverse ++ passed ∧ s = inside ++ '>' :: after ∧
      QuotedFrom ['>'] quote inside := by
  induction s generalizing passed quote with
  | nil => cases h
  | cons c r ih =>
    cases quote with
    | some q =>
      rw [splitTag] at h
      obtain ⟨inside, rfl, rfl, hq⟩ := ih h
      refine ⟨c :: inside, by simp, rfl, ?_⟩
      by_cases hc : c = q
      · rw [if_pos hc] at hq
        exact ⟨[], inside, by rw [hc]; rfl, List.not_mem_nil, hq⟩
      · rw [if_neg hc] at hq
        obtain ⟨text, rest, rfl, ht, hr⟩ := hq
        exact ⟨c :: text, rest, rfl, List.not_mem_cons_of_ne_of_not_mem (Ne.symm hc) ht, hr⟩
    | none =>
      rw [splitTag] at h
      split at h
      · next hc =>
        obtain ⟨inside, rfl, rfl, text, rest, rfl, ht, hr⟩ := ih h
        exact ⟨c :: (text ++ c :: rest), by simp, rfl, .quote (by simpa using hc) ht hr⟩
      split at h
      · next hc =>
        obtain ⟨rfl, rfl⟩ := Prod.mk.inj (Option.some.inj h)
        exact ⟨[], rfl, by rw [hc]; rfl, .nil⟩
      · next hq hc =>
        obtain ⟨inside, rfl, rfl, hr⟩ := ih h
        exact ⟨c :: inside, by simp, rfl, .plain (by simpa [hc] using hq) hr⟩

lemma splitTag_eq_some_iff {inside : List Char} :
    splitTag [] none s = some (inside.reverse, after) ↔
      s = inside ++ '>' :: after ∧ Quoted ['>'] inside := by
  constructor
  · intro h
    obtain ⟨t, ht, hs, hq⟩ := exists_inside_of_splitTag h
    rw [List.append_nil, List.reverse_inj] at ht
    subst ht
    exact ⟨hs, hq⟩
  · rintro ⟨rfl, hq⟩
    rw [splitTag_quoted hq, List.append_nil]
    rfl

lemma ne_of_quoted_cons {c : Char} {r : List Char} (h : Quoted ['>'] (c :: r)) : c ≠ '>' := by
  rintro rfl
  cases h with
  | plain hc _ => simp at hc
  | quote hq _ _ => simp at hq

lemma endsName_iff {inside : List Char} (hq : Quoted ['>'] inside) :
    endsName (inside ++ '>' :: after) = true ↔
      inside.head?.all fun c => isBlank c || c == '/' := by
  cases inside with
  | nil => simp [endsName]
  | cons c r =>
    have hc := ne_of_quoted_cons hq
    simp [endsName, hc]

lemma upToEndTag_eq_ok_iff {body inner : List Char} :
    upToEndTag body = .ok inner ↔
      ∃ behind, body = inner ++ behind ∧ "</svg".toList <+: behind ∧
        ¬ "</svg".toList <:+: behind.tail := by
  unfold upToEndTag
  constructor
  · intro h
    split at h
    · cases h
    · next hs =>
      obtain rfl := Except.ok.inj h
      obtain ⟨rfl, hn⟩ := (splitLast_eq_some_iff (by decide)).mp hs
      exact ⟨_, List.append_assoc _ _ _, List.prefix_append _ _, hn⟩
  · rintro ⟨_, rfl, ⟨after, rfl⟩, hn⟩
    have hs : splitLast "</svg".toList (inner ++ ("</svg".toList ++ after)) = some (inner, after) :=
      (splitLast_eq_some_iff (by decide)).mpr ⟨(List.append_assoc _ _ _).symm, hn⟩
    rw [hs]

lemma betweenTags_eq {tag inside body : List Char}
    (h : splitTag [] none tag = some (inside.reverse, body)) :
    betweenTags tag = if inside.getLast? = some '/' then .ok [] else upToEndTag body := by
  rw [betweenTags, h, ← List.head?_reverse]
  cases inside.reverse with
  | nil => rfl
  | cons c r =>
    by_cases hc : c = '/'
    · subst hc
      rfl
    · rw [if_neg (by simpa using hc)]
      split
      · next hn => cases hn
      · next hn => exact absurd (List.cons.inj (Prod.mk.inj (Option.some.inj hn)).1).1 hc
      · next hn =>
        obtain ⟨-, rfl⟩ := Prod.mk.inj (Option.some.inj hn)
        rfl

lemma ofElement_eq_ok_iff {inner : List Char} :
    ofElement s = .ok inner ↔
      ∃ inside body, InStartTag inside ∧ s = "<svg".toList ++ inside ++ ['>'] ++ body ∧
        (if inside.getLast? = some '/' then .ok [] else upToEndTag body) = .ok inner := by
  unfold ofElement
  constructor
  · intro h
    split at h
    · cases h
    · next tag hpre =>
      split at h
      · cases h
      · next hname =>
        rw [Bool.not_eq_true', Bool.not_eq_false] at hname
        cases hs : splitTag [] none tag with
        | none => simp [betweenTags, hs] at h
        | some p =>
          obtain ⟨before, body⟩ := p
          obtain ⟨inside, rfl⟩ : ∃ inside, before = List.reverse inside :=
            ⟨_, (List.reverse_reverse _).symm⟩
          obtain ⟨rfl, hq⟩ := splitTag_eq_some_iff.mp hs
          refine ⟨inside, body, ⟨(endsName_iff hq).mp hname, hq⟩, ?_, betweenTags_eq hs ▸ h⟩
          rw [append_of_isPrefixOf? hpre]
          simp
  · rintro ⟨inside, body, ⟨hname, hq⟩, rfl, h⟩
    have hpre : "<svg".toList.isPrefixOf? ("<svg".toList ++ inside ++ ['>'] ++ body) =
        some (inside ++ '>' :: body) :=
      List.isPrefixOf?_eq_some_iff_append_eq.mpr (by simp)
    rw [hpre, ← h, ← betweenTags_eq (splitTag_eq_some_iff.mpr ⟨rfl, hq⟩)]
    simp only [(endsName_iff hq).mpr hname, Bool.not_true, Bool.false_eq_true, if_false]

lemma innerOfSvg_append {front : List Char} (hf : PassedOver front) (ht : "<svg".toList <+: t) :
    innerOfSvg (front ++ t) = ofElement t := by
  rw [innerOfSvg_eq_bind, skipProlog_append hf (isMarkup_of_svg ht),
    skipProlog_eq_ok (afterItem_eq_none ht)]
  rfl

/-- What is taken out of a text is what its outermost tags enclose. -/
theorem innerOfSvg_eq_ok_iff {document inner : List Char} :
    innerOfSvg document = .ok inner ↔ Encloses document inner := by
  constructor
  · intro h
    rw [innerOfSvg_eq_bind] at h
    cases hs : skipProlog (trimStart (document.dropWhile (· == '\uFEFF'))) with
    | error fault => rw [hs] at h; cases h
    | ok t =>
      rw [hs] at h
      obtain ⟨front, hf, rfl⟩ := exists_passedOver_of_skipProlog hs
      obtain ⟨inside, body, hi, rfl, hbody⟩ := ofElement_eq_ok_iff.mp h
      by_cases hl : inside.getLast? = some '/'
      · rw [if_pos hl] at hbody
        obtain rfl := Except.ok.inj hbody
        exact .empty hf hi hl (List.append_assoc _ _ _).symm
      · rw [if_neg hl] at hbody
        obtain ⟨behind, rfl, hb, hn⟩ := upToEndTag_eq_ok_iff.mp hbody
        exact .between hf hi hl (by simp only [List.append_assoc]) hb hn
  · have hsvg : ∀ inside body : List Char,
        "<svg".toList <+: "<svg".toList ++ inside ++ ['>'] ++ body := by
      intro inside body
      exact ⟨inside ++ ['>'] ++ body, by simp only [List.append_assoc]⟩
    rintro (⟨hf, hi, hl, rfl⟩ | ⟨hf, hi, hl, rfl, hb, hn⟩)
    · rw [List.append_assoc, innerOfSvg_append hf (hsvg _ _)]
      exact ofElement_eq_ok_iff.mpr ⟨_, _, hi, rfl, if_pos hl⟩
    · rw [List.append_assoc, List.append_assoc, innerOfSvg_append hf (hsvg _ _)]
      refine ofElement_eq_ok_iff.mpr ⟨_, _, hi, rfl, ?_⟩
      rw [if_neg hl]
      exact upToEndTag_eq_ok_iff.mpr ⟨_, rfl, hb, hn⟩

end SvgSkeleton.Markup
