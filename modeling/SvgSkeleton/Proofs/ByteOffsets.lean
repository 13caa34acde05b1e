import Mathlib.Data.String.Basic
import SvgSkeleton.Error
import SvgSkeleton.Proofs.Enclosed

/-!
What is inside an SVG document, cut out of it at byte offsets. Offsets are found by going through
the characters and counting their bytes, and some are moved on by the bytes of what was found there.
A text can be cut only inside it and between two of its characters; where it cannot, there is no
result. Nor is there one if the items in front of the first element do not come to an end. Main
statement: there always is a result, and it is what is taken out by dividing lists of characters.
-/

namespace SvgSkeleton.Text

open String (utf8Len utf8Len_append utf8Len_cons utf8Len_reverse)

/-- What is in front of a byte offset and what is behind it. There is no such place behind the end
of the text and none inside a character. -/
def cut? (s : String) (offset : Nat) : Option (String × String) :=
  if h : String.Pos.Raw.IsValid s ⟨offset⟩ then
    some ((s.sliceTo (s.pos ⟨offset⟩ h)).copy, (s.sliceFrom (s.pos ⟨offset⟩ h)).copy)
  else none

/-- The offset at which the piece occurs first, if the first of the characters is at `offset`. -/
def firstOffset? (piece : List Char) (offset : Nat) : List Char → Option Nat
  | [] => if piece.isEmpty then some offset else none
  | c :: r =>
    if piece.isPrefixOf (c :: r) then some offset
    else firstOffset? piece (offset + c.utf8Size) r

/-- The offset at which the piece occurs last. -/
def lastOffset? (piece : List Char) (offset : Nat) : List Char → Option Nat
  | [] => if piece.isEmpty then some offset else none
  | c :: r =>
    match lastOffset? piece (offset + c.utf8Size) r with
    | some later => some later
    | none => if piece.isPrefixOf (c :: r) then some offset else none

variable {piece before after s : List Char} {offset : Nat}

theorem cut?_eq_some_iff {s before after : String} :
    cut? s offset = some (before, after) ↔ s = before ++ after ∧ offset = before.utf8ByteSize := by
  unfold cut?
  constructor
  · intro h
    split at h
    · next hv =>
      obtain ⟨rfl, rfl⟩ := Prod.mk.inj (Option.some.inj h)
      have hs := (s.pos ⟨offset⟩ hv).splits
      exact ⟨hs.eq_append, congrArg String.Pos.Raw.byteIdx hs.offset_eq_rawEndPos⟩
    · cases h
  · rintro ⟨rfl, rfl⟩
    have hv : String.Pos.Raw.IsValid (before ++ after) ⟨before.utf8ByteSize⟩ :=
      String.Pos.Raw.isValid_iff_exists_append.mpr ⟨before, after, rfl, rfl⟩
    have hp : ((before ++ after).pos _ hv).Splits before after := ⟨rfl, rfl⟩
    obtain ⟨hb, ha⟩ := ((before ++ after).pos _ hv).splits.eq hp
    rw [dif_pos hv, hb, ha]

example : cut? "né" 2 = none := by decide

/-- A text is cut behind as many bytes as there are in what is in front. -/
lemma cut?_append (before after : List Char) :
    cut? (String.ofList (before ++ after)) (utf8Len before) =
      some (String.ofList before, String.ofList after) := by
  rw [cut?_eq_some_iff, String.ofList_append, String.utf8ByteSize_ofList]
  exact ⟨rfl, rfl⟩

lemma firstOffset?_eq_go (passed : List Char) :
    firstOffset? piece (utf8Len passed) s =
      (splitFirst.go piece passed s).map fun p => utf8Len p.1 := by
  induction s generalizing passed with
  | nil =>
    rw [firstOffset?, splitFirst.go]
    split
    · rw [Option.map_some, utf8Len_reverse]
    · rfl
  | cons c r ih =>
    rw [firstOffset?]
    by_cases hp : piece <+: c :: r
    · obtain ⟨rest, hrest⟩ := hp
      have hpre : piece.isPrefixOf? (c :: r) = some rest :=
        List.isPrefixOf?_eq_some_iff_append_eq.mpr hrest
      rw [if_pos (List.isPrefixOf_iff_prefix.mpr ⟨rest, hrest⟩), splitFirst.go, hpre,
        Option.map_some, utf8Len_reverse]
    · rw [if_neg (by simpa using hp), splitFirst_go_past hp, ← ih, utf8Len_cons]

/-- The first occurrence is at the offset behind what is split off in front of it. -/
lemma firstOffset?_eq : firstOffset? piece 0 s = (splitFirst piece s).map fun p => utf8Len p.1 :=
  firstOffset?_eq_go []

lemma lastOffset?_eq_none (h : ¬ piece <:+: s) : lastOffset? piece offset s = none := by
  induction s generalizing offset with
  | nil =>
    rw [lastOffset?, if_neg]
    rintro he
    exact h (by simp [List.isEmpty_iff.mp he])
  | cons c r ih =>
    rw [List.infix_cons_iff, not_or] at h
    rw [lastOffset?, ih h.2]
    simpa using h.1

lemma lastOffset?_append (hp : piece ≠ []) (h : ¬ piece <:+: piece.tail ++ after) :
    lastOffset? piece offset (before ++ piece ++ after) = some (offset + utf8Len before) := by
  induction before generalizing offset with
  | nil =>
    obtain ⟨c, r, rfl⟩ := List.exists_cons_of_ne_nil hp
    have hlater : lastOffset? (c :: r) (offset + c.utf8Size) (r ++ after) = none :=
      lastOffset?_eq_none h
    rw [List.nil_append, List.cons_append, lastOffset?, hlater]
    simp
  | cons c t ih =>
    rw [List.cons_append, List.cons_append, lastOffset?, ih, utf8Len_cons]
    simp only [Option.some.injEq]
    omega

/-- The last occurrence is at the offset behind what is split off in front of it. -/
lemma lastOffset?_eq (hp : piece ≠ []) :
    lastOffset? piece 0 s = (splitLast piece s).map fun p => utf8Len p.1 := by
  by_cases h : piece <:+: s
  · obtain ⟨before, after, rfl, ha⟩ := exists_last hp h
    rw [lastOffset?_append hp ha, splitLast_append hp ha, Option.map_some, Nat.zero_add]
  · rw [lastOffset?_eq_none h]
    cases hs : splitLast piece s with
    | none => rfl
    | some p =>
      rw [eq_append_of_splitLast hs] at h
      exact absurd (List.infix_append _ _ _) h

end SvgSkeleton.Text

namespace SvgSkeleton.Markup

open Text
open String (utf8Len utf8Len_append utf8Len_cons utf8Len_reverse)

/-! ### Cutting -/

/-- The offset of the `>` that ends a start tag, where one inside quotes does not count. -/
def tagEnd? (quote : Option Char) (offset : Nat) : List Char → Option Nat
  | [] => none
  | c :: r =>
    match quote with
    | some q => tagEnd? (if c = q then none else some q) (offset + c.utf8Size) r
    | none =>
      if c = '"' || c = '\'' then tagEnd? (some c) (offset + c.utf8Size) r
      else if c = '>' then some offset
      else tagEnd? none (offset + c.utf8Size) r

/-- The offset behind a document type, which ends at the first `>` outside of square brackets. -/
def doctypeEnd? (inSubset : Bool) (offset : Nat) : List Char → Option Nat
  | [] => none
  | c :: r =>
    if c = '[' then doctypeEnd? true (offset + c.utf8Size) r
    else if c = ']' then doctypeEnd? false (offset + c.utf8Size) r
    else if c = '>' && !inSubset then some (offset + 1)
    else doctypeEnd? inSubset (offset + c.utf8Size) r

/-- The offset behind the item of a prolog that the text begins with, if it begins with one. -/
def itemEnd? (s : List Char) : Option (Except SvgFault Nat) :=
  if "<?".toList.isPrefixOf s then
    match firstOffset? "?>".toList 0 s with
    | none => some (.error .openInstruction)
    | some offset => some (.ok (offset + 2))
  else if "<!--".toList.isPrefixOf s then
    match firstOffset? "-->".toList 0 s with
    | none => some (.error .openComment)
    | some offset => some (.ok (offset + 3))
  else if "<!DOCTYPE".toList.isPrefixOf s || "<!doctype".toList.isPrefixOf s then
    match doctypeEnd? false 0 s with
    | none => some (.error .openDoctype)
    | some offset => some (.ok offset)
  else none

/-- The text without the white space that it begins with. -/
def trimmed (s : String) : String := String.ofList (trimStart s.toList)

/-- The document from its first element on, if it has at most this many items in front of that. -/
def fromElement? (items : Nat) (s : String) : Option (Except SvgFault String) :=
  match itemEnd? s.toList with
  | none => some (.ok s)
  | some (.error fault) => some (.error fault)
  | some (.ok offset) =>
    match items with
    | 0 => none
    | items + 1 => do
      let (_, rest) ← cut? s offset
      fromElement? items (trimmed rest)

/-- The text in front of the last end tag. -/
def upToEndTag? (body : String) : Option (Except SvgFault String) :=
  match lastOffset? "</svg".toList 0 body.toList with
  | none => some (.error .notClosed)
  | some offset => do
    let (inner, _) ← cut? body offset
    return .ok inner

/-- The markup between the tags, of which the first goes on like this behind its name. -/
def betweenTags? (tag : String) : Option (Except SvgFault String) :=
  match tagEnd? none 0 tag.toList with
  | none => some (.error .openTag)
  | some offset => do
    let (inside, _) ← cut? tag offset
    if inside.toList.getLast? = some '/' then return .ok ""
    let (_, body) ← cut? tag (offset + 1)
    upToEndTag? body

/-- The markup between the tags of the element that the text begins with. -/
def ofElement? (s : String) : Option (Except SvgFault String) :=
  match "<svg".toList.isPrefixOf? s.toList with
  | none => some (.error .noSvg)
  | some tag => if !endsName tag then some (.error .noSvg) else betweenTags? (String.ofList tag)

/-- The markup between the outermost tags, cut out at byte offsets. There is no result if the
document has to be cut where it cannot, or has more than this many items in front. -/
def cutOut? (items : Nat) (document : String) : Option (Except SvgFault String) := do
  match ← fromElement? items (trimmed (String.ofList (document.toList.dropWhile (· == '\uFEFF')))) with
  | .error fault => return .error fault
  | .ok s => ofElement? s

/-! ### Items -/

variable {s after : List Char} {offset : Nat}

/-- No item is found either way, or the same fault, or the end of the same item. -/
inductive Agree (s : List Char) :
    Option (Except SvgFault (List Char)) → Option (Except SvgFault Nat) → Prop
  | none : Agree s none none
  | error (fault : SvgFault) : Agree s (some (.error fault)) (some (.error fault))
  | ok {item after : List Char} (h : s = item ++ after) :
      Agree s (some (.ok after)) (some (.ok (utf8Len item)))

lemma doctypeEnd?_cons {inside : Bool} {c : Char} (h : c = '>' → inside = true) :
    doctypeEnd? inside offset (c :: s) =
      doctypeEnd? (if c = '[' then true else if c = ']' then false else inside)
        (offset + c.utf8Size) s := by
  rw [doctypeEnd?]
  by_cases ho : c = '['
  · rw [if_pos ho, if_pos ho]
  · by_cases hc : c = ']'
    · rw [if_neg ho, if_neg ho, if_pos hc, if_pos hc]
    · rw [if_neg ho, if_neg ho, if_neg hc, if_neg hc, if_neg]
      simpa using h

/-- A document type is found to end at the same place, or not to end. -/
lemma doctypeEnd?_agrees (inside : Bool) (offset : Nat) (s : List Char) :
    afterDoctype inside s = none ∧ doctypeEnd? inside offset s = none ∨
      ∃ item after, s = item ++ after ∧ afterDoctype inside s = some after ∧
        doctypeEnd? inside offset s = some (offset + utf8Len item) := by
  induction s generalizing inside offset with
  | nil => exact .inl ⟨rfl, rfl⟩
  | cons c r ih =>
    by_cases h : c = '>' → inside = true
    · rw [afterDoctype_cons h, doctypeEnd?_cons h]
      rcases ih (if c = '[' then true else if c = ']' then false else inside)
        (offset + c.utf8Size) with hn | ⟨item, after, rfl, ha, ho⟩
      · exact .inl hn
      · refine .inr ⟨c :: item, after, rfl, ha, ?_⟩
        rw [ho, utf8Len_cons, Nat.add_assoc, Nat.add_comm c.utf8Size]
    · obtain ⟨rfl, hi⟩ := Classical.not_imp.mp h
      obtain rfl := Bool.not_eq_true _ ▸ hi
      exact .inr ⟨['>'], r, rfl, by simp [afterDoctype], by simp [doctypeEnd?]; rfl⟩

lemma agree_of_splitFirst {piece : List Char} {fault : SvgFault} :
    Agree s
      (match splitFirst piece s with
        | none => some (.error fault)
        | some (_, after) => some (.ok after))
      (match firstOffset? piece 0 s with
        | none => some (.error fault)
        | some offset => some (.ok (offset + utf8Len piece))) := by
  rw [firstOffset?_eq]
  cases h : splitFirst piece s with
  | none => exact .error fault
  | some p =>
    have hs := eq_append_of_splitFirst h
    have := Agree.ok hs
    rwa [utf8Len_append] at this

lemma agree_item (s : List Char) : Agree s (afterItem s) (itemEnd? s) := by
  unfold afterItem itemEnd?
  split
  · exact agree_of_splitFirst
  split
  · exact agree_of_splitFirst
  split
  · rcases doctypeEnd?_agrees false 0 s with ⟨ha, ho⟩ | ⟨item, after, hs, ha, ho⟩
    · rw [ha, ho]
      exact .error _
    · rw [ha, ho, Nat.zero_add]
      exact .ok hs
  · exact .none

lemma trimmed_ofList (s : List Char) :
    trimmed (String.ofList s) = String.ofList (trimStart s) := by
  rw [trimmed, String.toList_ofList]

/-- The items are passed over. By induction on the length of the text, as each of them takes at least
one character. -/
lemma fromElement?_eq {items : Nat} (h : s.length ≤ items) :
    fromElement? items (String.ofList s) = some ((skipProlog s).map String.ofList) := by
  induction hn : s.length using Nat.strongRecOn generalizing s items with
  | ind n ih =>
    have hagree := agree_item s
    unfold fromElement?
    rw [String.toList_ofList]
    generalize hafter : afterItem s = after at hagree
    generalize itemEnd? s = offset at hagree
    cases hagree with
    | none => rw [skipProlog_eq_ok hafter, Except.map]
    | error fault => rw [skipProlog_eq_error hafter, Except.map]
    | @ok item after hs =>
      have hlt := length_afterItem_lt hafter
      have htrim := length_trimStart_le after
      obtain ⟨items, rfl⟩ := Nat.exists_eq_succ_of_ne_zero (n := items) (by omega)
      have hrest : fromElement? items (String.ofList (trimStart after)) =
          some ((skipProlog (trimStart after)).map String.ofList) :=
        ih (trimStart after).length (by omega) (by omega) rfl
      rw [skipProlog_eq hafter, ← hrest, ← trimmed_ofList, hs]
      simp only [cut?_append, bind, Option.bind]

/-! ### The element -/

lemma tagEnd?_eq (passed : List Char) (quote : Option Char) :
    tagEnd? quote (utf8Len passed) s =
      (splitTag passed quote s).map fun p => utf8Len p.1 := by
  induction s generalizing passed quote with
  | nil => rfl
  | cons c r ih =>
    cases quote with
    | some q =>
      rw [tagEnd?, splitTag]
      exact ih (c :: passed) _
    | none =>
      rw [tagEnd?, splitTag]
      split
      · exact ih (c :: passed) _
      split
      · rfl
      · exact ih (c :: passed) _

lemma upToEndTag?_eq (body : List Char) :
    upToEndTag? (String.ofList body) = some ((upToEndTag body).map String.ofList) := by
  have hbody : (String.ofList body).toList = body := String.toList_ofList
  rw [upToEndTag?, upToEndTag, hbody, lastOffset?_eq (by decide)]
  cases h : splitLast "</svg".toList body with
  | none => rfl
  | some p =>
    have hs := eq_append_of_splitLast h
    rw [List.append_assoc] at hs
    have hcut := cut?_append p.1 ("</svg".toList ++ p.2)
    rw [← hs] at hcut
    simp only [Option.map_some, hcut]
    rfl

lemma betweenTags?_eq (tag : List Char) :
    betweenTags? (String.ofList tag) = some ((betweenTags tag).map String.ofList) := by
  have hend := tagEnd?_eq (s := tag) [] none
  rw [String.utf8Len_nil] at hend
  rw [betweenTags?, String.toList_ofList, hend]
  cases h : splitTag [] none tag with
  | none =>
    rw [betweenTags, h]
    rfl
  | some p =>
    obtain ⟨before, body⟩ := p
    obtain ⟨inside, rfl⟩ : ∃ inside, before = List.reverse inside :=
      ⟨_, (List.reverse_reverse _).symm⟩
    obtain ⟨hs, -⟩ := splitTag_eq_some_iff.mp h
    have hinside := cut?_append inside ('>' :: body)
    have hbody := cut?_append (inside ++ ['>']) body
    have hgt : utf8Len ['>'] = 1 := rfl
    rw [List.append_assoc, List.singleton_append, ← hs, utf8Len_append, hgt] at hbody
    rw [← hs] at hinside
    rw [betweenTags_eq h]
    simp only [Option.map_some, utf8Len_reverse, hinside, hbody, bind, Option.bind,
      String.toList_ofList, upToEndTag?_eq]
    split
    · rfl
    · rfl

lemma ofElement?_eq (s : List Char) :
    ofElement? (String.ofList s) = some ((ofElement s).map String.ofList) := by
  have hs : (String.ofList s).toList = s := String.toList_ofList
  rw [ofElement?, ofElement, hs]
  cases h : "<svg".toList.isPrefixOf? s with
  | none => rfl
  | some tag =>
    simp only
    split
    · rfl
    · exact betweenTags?_eq tag

/-- A document is never cut where it cannot be cut, and the items in front of its first element come
to an end: cutting it at byte offsets gives what is taken out of it. -/
theorem cutOut?_eq (document : String) :
    cutOut? document.length document = some (inner document) := by
  have hlen : (trimStart (document.toList.dropWhile (· == '\uFEFF'))).length ≤ document.length :=
    (length_trimStart_le _).trans (List.dropWhile_sublist _).length_le
  rw [cutOut?, trimmed_ofList, fromElement?_eq hlen, inner, innerOfSvg_eq_bind]
  simp only [bind, Option.bind]
  cases skipProlog (trimStart (document.toList.dropWhile (· == '\uFEFF'))) with
  | error fault => rfl
  | ok s => exact ofElement?_eq s

/-- **Any text is refused as a malformed document, or what its outermost tags enclose is taken out of
it as it is.** It is cut at byte offsets inside it and between its characters only, after no more
items in front than it has characters; it is refused exactly if it encloses nothing; and what it
encloses is one piece of it. -/
theorem inner_refused_or_enclosed (path document : String) :
    cutOut? document.length document = some (inner document) ∧
      ((∃ fault, (inner document).mapError (Error.malformedSvg path) =
            .error (.malformedSvg path fault) ∧
          ∀ s, ¬ Encloses document.toList s) ∨
        ∃ s, (inner document).mapError (Error.malformedSvg path) = .ok s ∧
          ∀ t, Encloses document.toList t ↔ t = s.toList) := by
  refine ⟨cutOut?_eq document, ?_⟩
  cases h : innerOfSvg document.toList with
  | error fault =>
    refine .inl ⟨fault, by rw [inner, h]; rfl, fun s hs => ?_⟩
    cases h.symm.trans (innerOfSvg_eq_ok_iff.mpr hs)
  | ok s =>
    refine .inr ⟨String.ofList s, by rw [inner, h]; rfl, fun t => ?_⟩
    rw [← innerOfSvg_eq_ok_iff, h, Except.ok.injEq, String.toList_ofList, eq_comm]

/-- Characters of several bytes in front of the element, in its tag and inside it. -/
example : cutOut? 1 "<!--é--> <svg id='→>'>ü</svg>" = some (.ok "ü") := by decide +kernel

end SvgSkeleton.Markup
