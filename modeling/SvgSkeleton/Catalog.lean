/-!
Tables with texts for keys, in the order of their keys. The order is that of the code points,
which is also that of the bytes in UTF-8.
-/

namespace SvgSkeleton

/-- A table whose keys increase. -/
structure Catalog (α : Type) where
  entries : List (String × α)
  increasing : (entries.map (·.1)).Pairwise (· < ·)

namespace Catalog

variable {α : Type}

def empty : Catalog α := ⟨[], .nil⟩

/-- The entries with the key set to the value. -/
def insertIn (key : String) (value : α) : List (String × α) → List (String × α)
  | [] => [(key, value)]
  | e :: r =>
    if key < e.1 then (key, value) :: e :: r
    else if e.1 < key then e :: insertIn key value r
    else (key, value) :: r

theorem mem_keys_insertIn {key k : String} {value : α} {l : List (String × α)} :
    k ∈ (insertIn key value l).map (·.1) → k = key ∨ k ∈ l.map (·.1) := by
  induction l with
  | nil => simp [insertIn]
  | cons e r ih =>
    simp only [insertIn]
    split
    · simp
    · split
      · simp only [List.map_cons, List.mem_cons]
        rintro (h | h)
        · exact .inr (.inl h)
        · exact (ih h).imp id .inr
      · simp only [List.map_cons, List.mem_cons]
        exact Or.imp id .inr

theorem insertIn_increasing (key : String) (value : α) {l : List (String × α)}
    (h : (l.map (·.1)).Pairwise (· < ·)) :
    ((insertIn key value l).map (·.1)).Pairwise (· < ·) := by
  induction l with
  | nil => simp [insertIn]
  | cons e r ih =>
    simp only [List.map_cons, List.pairwise_cons] at h
    simp only [insertIn]
    split
    · next hk =>
      simp only [List.map_cons, List.pairwise_cons, List.mem_cons, forall_eq_or_imp]
      exact ⟨⟨hk, fun k hm => String.lt_trans hk (h.1 k hm)⟩, h⟩
    · next hk =>
      split
      · next hk' =>
        simp only [List.map_cons, List.pairwise_cons]
        refine ⟨fun k hm => ?_, ih h.2⟩
        rcases mem_keys_insertIn hm with rfl | hm
        · exact hk'
        · exact h.1 k hm
      · next hk' =>
        have : key = e.1 := String.le_antisymm (String.not_lt.mp hk') (String.not_lt.mp hk)
        simp only [List.map_cons, List.pairwise_cons, this]
        exact h

/-- The table with the key set to the value. -/
def insert (c : Catalog α) (key : String) (value : α) : Catalog α :=
  ⟨insertIn key value c.entries, insertIn_increasing key value c.increasing⟩

/-- The value under a key. -/
def find? (c : Catalog α) (key : String) : Option α := c.entries.lookup key

/-- Is there a value under the key? -/
def contains (c : Catalog α) (key : String) : Bool := (c.find? key).isSome

/-- The keys, in increasing order. -/
def keys (c : Catalog α) : List String := c.entries.map (·.1)

def size (c : Catalog α) : Nat := c.entries.length

def isEmpty (c : Catalog α) : Bool := c.entries.isEmpty

/-- The table of a list of entries, of which the last of each key stays. -/
def ofList (entries : List (String × α)) : Catalog α :=
  entries.foldl (fun c e => c.insert e.1 e.2) empty

theorem lookup_cons (k : String) (e : String × α) (r : List (String × α)) :
    (e :: r).lookup k = if k = e.1 then some e.2 else r.lookup k := by
  obtain ⟨a, v⟩ := e
  by_cases h : k = a
  · rw [h, List.lookup_cons_self, if_pos rfl]
  · rw [if_neg h]
    show (match k == a with | true => some v | false => r.lookup k) = r.lookup k
    rw [beq_eq_false_iff_ne.mpr h]

theorem lookup_insertIn (key k : String) (value : α) (l : List (String × α)) :
    (insertIn key value l).lookup k = if k = key then some value else l.lookup k := by
  induction l with
  | nil => simp [insertIn, lookup_cons]
  | cons e r ih =>
    simp only [insertIn]
    split
    · simp [lookup_cons]
    · next hk =>
      split
      · next hk' =>
        have hne : key ≠ e.1 := fun h => String.lt_irrefl e.1 (h ▸ hk')
        simp only [lookup_cons, ih]
        by_cases he : k = e.1
        · simp [he, hne.symm]
        · simp [he]
      · next hk' =>
        have hke : key = e.1 := String.le_antisymm (String.not_lt.mp hk') (String.not_lt.mp hk)
        simp only [lookup_cons, ← hke]
        split <;> rfl

/-- Setting a key changes the value under that key only. -/
theorem find?_insert (c : Catalog α) (key k : String) (value : α) :
    (c.insert key value).find? k = if k = key then some value else c.find? k :=
  lookup_insertIn key k value c.entries

theorem mem_keys_of_find? {c : Catalog α} {key : String} (h : c.contains key = true) :
    key ∈ c.keys := by
  simp only [contains, find?, Option.isSome_iff_exists] at h
  obtain ⟨v, hv⟩ := h
  obtain ⟨before, after, he, -⟩ := List.lookup_eq_some_iff.mp hv
  simp [keys, he]

end Catalog
end SvgSkeleton
