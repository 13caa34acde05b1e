import Mathlib.Data.List.Nodup
import Mathlib.Tactic.Lemma
import SvgSkeleton.Json.Reader

/-!
A JSON text that repeats a key gives it its last value, in its first place. So in what is read from
a text no object has a key twice, however deep it is nested.
-/

namespace SvgSkeleton.Json

mutual

/-- No object of the value has a key twice. -/
def Distinct : Json → Prop
  | .array items => DistinctItems items
  | .object members => (Members.keys members).Nodup ∧ DistinctMembers members
  | _ => True

def DistinctItems : List Json → Prop
  | [] => True
  | v :: rest => v.Distinct ∧ DistinctItems rest

def DistinctMembers : List (String × Json) → Prop
  | [] => True
  | (_, v) :: rest => v.Distinct ∧ DistinctMembers rest

end

lemma distinctItems_iff {items : List Json} : DistinctItems items ↔ ∀ v ∈ items, v.Distinct := by
  induction items with
  | nil => simp [DistinctItems]
  | cons v rest ih => rw [DistinctItems, ih, List.forall_mem_cons]

lemma distinctMembers_iff {members : Members} :
    DistinctMembers members ↔ ∀ m ∈ members, m.2.Distinct := by
  induction members with
  | nil => simp [DistinctMembers]
  | cons m rest ih => rw [DistinctMembers, ih, List.forall_mem_cons]

/-! ### Members -/

lemma Members.mem_keys_insert {members : Members} {key k : String} {value : Json} :
    k ∈ (members.insert key value).keys ↔ k = key ∨ k ∈ members.keys := by
  induction members with
  | nil => simp [Members.insert, Members.keys]
  | cons m rest ih =>
    unfold Members.insert
    split
    · next h => simp [Members.keys, h]
    · simp only [Members.keys, List.map_cons, List.mem_cons] at ih ⊢
      rw [ih, or_left_comm]

lemma distinct_nil : (object []).Distinct := by
  rw [Distinct]
  exact ⟨List.nodup_nil, trivial⟩

lemma distinct_insert {members : Members} {key : String} {value : Json}
    (hm : (object members).Distinct) (hv : value.Distinct) :
    (object (members.insert key value)).Distinct := by
  induction members with
  | nil => exact ⟨by simp [Members.insert, Members.keys], hv, trivial⟩
  | cons m rest ih =>
    obtain ⟨hn, hd, hr⟩ := hm
    obtain ⟨hnot, hn⟩ := List.nodup_cons.mp hn
    unfold Members.insert
    split
    · next h =>
      subst h
      exact ⟨List.nodup_cons.mpr ⟨hnot, hn⟩, hv, hr⟩
    · next h =>
      obtain ⟨hn', hr'⟩ := ih ⟨hn, hr⟩
      refine ⟨List.nodup_cons.mpr ⟨?_, hn'⟩, hd, hr'⟩
      rw [← Members.keys, Members.mem_keys_insert]
      exact not_or.mpr ⟨h, hnot⟩

/-! ### Reading -/

/-- All values that are read have the property. -/
def Gives {α : Type} (P : α → Prop) (read : ValueReader α) : Prop :=
  ∀ s p, read s = .ok p → P p.value

lemma value_of_map {α β : Type} {m n : Nat} {x : Scan α m} {f : Parsed α m → Parsed β n}
    {p : Parsed β n} (h : x.map f = .ok p) : ∃ q, x = .ok q ∧ p = f q := by
  cases x with
  | error e => cases h
  | ok q => exact ⟨q, rfl, (Except.ok.inj h).symm⟩

lemma value_of_keyword {α : Type} {v : α} {bound : Nat} {word s : List Char} {h : s.length < bound}
    {p : Parsed α bound} (hp : keyword v bound word s h = .ok p) : p.value = v := by
  induction word generalizing s with
  | nil =>
    obtain rfl := Except.ok.inj hp
    rfl
  | cons k word ih =>
    cases s with
    | nil => cases hp
    | cons c r =>
      rw [keyword] at hp
      split at hp
      · exact ih hp
      · cases hp

lemma distinct_of_listRest {item : ValueReader Json} (hi : Gives Distinct item) {bound : Nat}
    {read : List Json} {s : List Char} {h : s.length < bound} (hr : ∀ v ∈ read, v.Distinct)
    {p : Parsed (List Json) bound} (hp : listRest item bound read s h = .ok p) :
    ∀ v ∈ p.value, v.Distinct := by
  fun_induction listRest item bound read s h with
  | case1 => cases hp
  | case2 =>
    obtain rfl := Except.ok.inj hp
    simpa [Parsed.below, Parsed.within] using hr
  | case3 => cases hp
  | case4 => cases hp
  | case5 => cases hp
  | case6 read s h r _ _ _ _ _ v t _ hv _ ih =>
    exact ih (List.forall_mem_cons.mpr ⟨hi r _ hv, hr⟩) hp
  | case7 => cases hp

lemma distinct_of_listBody {item : ValueReader Json} (hi : Gives Distinct item) :
    Gives (fun items => (array items).Distinct) (listBody item) := by
  intro s p hp
  refine distinctItems_iff.mpr ?_
  unfold listBody at hp
  split at hp
  · cases hp
  · obtain rfl := Except.ok.inj hp
    simp
  · split at hp
    · cases hp
    · next v t _ hv =>
      exact distinct_of_listRest hi (List.forall_mem_singleton.mpr (hi s _ hv)) hp

section

variable {σ : Type} {P : σ → Prop} {one : σ → ValueReader σ}
  (ho : ∀ done, P done → Gives P (one done))
include ho

/-- What each member of an object keeps, all of them do. -/
lemma gives_objectRest {bound : Nat} {done : σ} {s : List Char} {h : s.length < bound}
    (hd : P done) {p : Parsed σ bound} (hp : objectRest one bound done s h = .ok p) :
    P p.value := by
  fun_induction objectRest one bound done s h with
  | case1 => cases hp
  | case2 =>
    obtain rfl := Except.ok.inj hp
    exact hd
  | case3 => cases hp
  | case4 => cases hp
  | case5 => cases hp
  | case6 done _ _ _ _ _ t _ _ more _ _ hm _ ih => exact ih (ho done hd t _ hm) hp
  | case7 => cases hp
  | case8 => cases hp

lemma gives_objectBody {start : σ} (hs : P start) : Gives P (objectBody one start) := by
  intro s p hp
  unfold objectBody at hp
  split at hp
  · cases hp
  · obtain rfl := Except.ok.inj hp
    exact hs
  · split at hp
    · cases hp
    · next hd => exact gives_objectRest ho (ho start hs _ _ hd) hp
  · cases hp

end

lemma gives_member {α : Type} {P : α → Prop} {item : ValueReader α} (hi : Gives P item) :
    Gives (fun m => P m.2) (member item) := by
  intro s p hp
  unfold member at hp
  split at hp
  · cases hp
  · next key r _ _ =>
    obtain ⟨q, hq, rfl⟩ := value_of_map hp
    unfold valueAfterColon at hq
    split at hq
    · cases hq
    · next t _ _ =>
      obtain ⟨u, hu, rfl⟩ := value_of_map hq
      exact hi t u hu
    · cases hq

lemma distinct_of_insertMember {item : ValueReader Json} (hi : Gives Distinct item)
    {done : Members} (hd : (object done).Distinct) :
    Gives (fun members => (object members).Distinct) (insertMember item done) := by
  intro s p hp
  obtain ⟨q, hq, rfl⟩ := value_of_map hp
  exact distinct_insert hd (gives_member hi s q hq)

/-- By induction on the depth that is left. -/
lemma distinct_of_value (depth : Nat) : Gives Distinct (value depth) := by
  induction depth using Nat.strongRecOn with
  | ind depth ih =>
    intro s p hp
    unfold value at hp
    split at hp
    · cases hp
    · split at hp
      · rw [value_of_keyword hp]
        trivial
      · rw [value_of_keyword hp]
        trivial
      · rw [value_of_keyword hp]
        trivial
      · obtain ⟨q, -, rfl⟩ := value_of_map hp
        trivial
      · obtain ⟨q, -, rfl⟩ := value_of_map hp
        trivial
      · split at hp
        · cases hp
        · next depth =>
          obtain ⟨q, hq, rfl⟩ := value_of_map hp
          exact distinct_of_listBody (ih depth (Nat.lt_succ_self depth)) _ q hq
      · split at hp
        · cases hp
        · next depth =>
          obtain ⟨q, hq, rfl⟩ := value_of_map hp
          have hone := fun (ms : Members) (hms : (object ms).Distinct) =>
            distinct_of_insertMember (ih depth (Nat.lt_succ_self depth)) hms
          exact gives_objectBody hone distinct_nil _ q hq
      · split at hp
        · obtain ⟨q, -, rfl⟩ := value_of_map hp
          trivial
        · cases hp

/-- **In what is read from a text, no object has a key twice.** -/
theorem distinct_of_parse {text : String} {v : Json} (h : parse text = .ok v) : v.Distinct := by
  unfold parse whole at h
  simp only at h
  split at h
  · cases h
  · next p hp =>
    split at h
    · obtain rfl := Except.ok.inj h
      exact distinct_of_value depthLimit _ p hp
    · cases h

end SvgSkeleton.Json
