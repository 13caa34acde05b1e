import SvgSkeleton.Shell.Utility.Awk.Value

/-!
Tables, whose entries have texts or whole numbers for keys. The order in which the keys are listed
is that of the rows in which they are kept: each text has a row, and in a row the key that was used
last comes first. Keys that have only been used as numbers are kept in rows of their own until they
are listed or met as texts. What a text has been split into is kept as a list at first.
-/

namespace SvgSkeleton.Shell.Awk

inductive Key where
  | text (s : Bytes)
  | number (n : Int)
  deriving DecidableEq

/-- An entry of a table. -/
structure Entry where
  text : Option Bytes
  number : Option Int
  value : Value

structure Table where
  entries : Array Entry
  /-- The entries in the rows of texts, and in those of numbers. -/
  texts : Array (List Nat)
  numbers : Array (List Nat)
  /-- Do all entries have texts? -/
  named : Bool
  /-- The values of the numbers from one on, if there are no others. -/
  list : Option (Array Value)
  size : Nat

namespace Table

/-- How many rows there are at first, and how many entries each may have on average. -/
def firstRows : Nat := 64

def entriesInRow : Nat := 12

def empty : Table := ⟨#[], #[], #[], false, none, 0⟩

/-- The number from which the row of a text follows. -/
def hash (s : Bytes) : Nat :=
  (s.foldl (fun (h : UInt32) c => (h ^^^ UInt32.ofNat c.toNat) * 16777619) 2166136261).toNat

/-- The table with rows, if it has none. -/
def withRows (t : Table) : Table :=
  if t.texts.isEmpty then
    { t with texts := Array.replicate firstRows [], numbers := Array.replicate firstRows [] }
  else t

def rowOf (t : Table) (s : Bytes) : Nat := hash s % t.texts.size

def rowOfNumber (t : Table) (n : Int) : Nat := (n % (t.numbers.size : Int)).toNat

/-- How many rows are needed for so many entries. -/
def rowsFor (size : Nat) : Nat → Nat → Nat
  | 0, rows => rows
  | fuel + 1, rows => if size > rows * entriesInRow then rowsFor size fuel (2 * rows) else rows

/-- The table with its list turned into entries. -/
def unlisted (t : Table) : Table :=
  match t.list with
  | none => t.withRows
  | some values =>
    let rows := rowsFor values.size 64 firstRows
    let start : Table :=
      ⟨#[], Array.replicate rows [], Array.replicate rows [], false, none, values.size⟩
    values.foldl (fun t v =>
      let i := t.entries.size
      let n : Int := i + 1
      { t with
        entries := t.entries.push ⟨none, some n, v⟩
        numbers := t.numbers.modify (t.rowOfNumber n) (i :: ·) }) start

/-- The table with texts for all its entries. -/
def withTexts (t : Table) : Table :=
  let t := t.unlisted
  if t.named then t
  else
    let order := t.numbers.toList.flatten
    let t := order.foldl (fun t i =>
      match t.entries[i]? with
      | some e =>
        match e.text with
        | some _ => t
        | none =>
          let s := Bytes.ofInt (e.number.getD 0)
          { t with
            entries := t.entries.setIfInBounds i { e with text := some s }
            texts := t.texts.modify (t.rowOf s) (i :: ·) }
      | none => t) t
    { t with named := true }

/-- A row of a table that has twice as many, out of one of the old rows. -/
def halves (place : Nat → Nat) (row : Nat) (items : List Nat) : List Nat × List Nat :=
  items.partition fun i => place i == row

/-- The table with more rows, if it is too full. -/
def grown (t : Table) : Table :=
  if t.size ≤ t.texts.size * entriesInRow then t
  else
    let rows := 2 * t.texts.size
    let textPlace (i : Nat) : Nat :=
      hash (((t.entries[i]?).bind (·.text)).getD []) % rows
    let numberPlace (i : Nat) : Nat :=
      ((((t.entries[i]?).bind (·.number)).getD 0) % (rows : Int)).toNat
    let split (place : Nat → Nat) (old : Array (List Nat)) : Array (List Nat) :=
      let parts := old.toList.zipIdx.map fun (items, row) => halves place row items
      (parts.map (·.1) ++ parts.map (·.2)).toArray
    { t with texts := split textPlace t.texts, numbers := split numberPlace t.numbers }

/-- The row with an item at its front. -/
def toFront (i : Nat) (row : List Nat) : List Nat := i :: row.filter (· != i)

/-- A new entry. -/
def push (t : Table) (e : Entry) : Nat × Table :=
  (t.entries.size, { t with entries := t.entries.push e, size := t.size + 1 })

/-- Find the entry of a text, or make one. -/
def findText (makes : Bool) (s : Bytes) (t : Table) : Option Nat × Table :=
  let t := if t.size = 0 then { t.withRows with named := true, list := none } else t.withTexts
  let row := t.rowOf s
  let items := t.texts.getD row []
  match items.find? fun i => ((t.entries[i]?).bind (·.text)) == some s with
  | some i => (some i, { t with texts := t.texts.setIfInBounds row (toFront i items) })
  | none =>
    if makes then
      let (i, t) := t.push ⟨some s, none, .none⟩
      (some i, { t with texts := t.texts.setIfInBounds row (i :: items) })
    else (none, t)

/-- Find the entry of a number, or make one. -/
def findNumber (makes : Bool) (n : Int) (t : Table) : Option Nat × Table :=
  let t := t.unlisted
  let row := t.rowOfNumber n
  let items := t.numbers.getD row []
  match items.find? fun i => ((t.entries[i]?).bind (·.number)) == some n with
  | some i => (some i, { t with numbers := t.numbers.setIfInBounds row (toFront i items) })
  | none =>
    let (found, t) := if t.named then findText makes (Bytes.ofInt n) t
      else if makes then
        let (i, t) := t.push ⟨none, some n, .none⟩
        (some i, t)
      else (none, t)
    match found with
    | none => (none, t)
    | some i => (some i, { t with
        entries := t.entries.modify i fun e => { e with number := some n }
        numbers := t.numbers.modify row (i :: ·) })

/-- Find the entry of a key, or make one. -/
def find (makes : Bool) (k : Key) (t : Table) : Option Nat × Table :=
  let (found, t) := match k with
    | .text s => findText makes s t
    | .number n => findNumber makes n t
  (found, t.grown)

/-- The place in a list that a key means. -/
def listPlace? (k : Key) (t : Table) : Option Nat :=
  match k, t.list with
  | .number n, some values => if 1 ≤ n && n ≤ values.size then some (n - 1).toNat else none
  | _, _ => none

/-- The value of a key. A key that was not there is made. -/
def get (k : Key) (t : Table) : Value × Table :=
  match t.listPlace? k, t.list with
  | some i, some values => (values.getD i .none, t)
  | _, _ =>
    let (found, t) := t.find true k
    (((found.bind (t.entries[·]?)).map (·.value)).getD .none, t)

/-- Give a key a value. -/
def set (k : Key) (v : Value) (t : Table) : Table :=
  match t.listPlace? k with
  | some i => { t with list := t.list.map (·.setIfInBounds i v) }
  | none =>
    let (found, t) := t.find true k
    match found with
    | some i => { t with entries := t.entries.modify i fun e => { e with value := v } }
    | none => t

/-- Is there an entry for a key? -/
def has (k : Key) (t : Table) : Bool × Table :=
  if t.size = 0 then (false, t)
  else if (t.listPlace? k).isSome then (true, t)
  else
    match k, t.list with
    | .number _, some _ => (false, t)
    | _, _ =>
      let (found, t) := t.find false k
      (found.isSome, t)

/-- Take away the entry of a key. -/
def delete (k : Key) (t : Table) : Table :=
  if t.size = 0 then t
  else
    let (found, t) := t.find false k
    match found with
    | none => t
    | some i =>
      if t.size = 1 then empty
      else
        let e := t.entries.getD i ⟨none, none, .none⟩
        let texts := match e.text with
          | some s => t.texts.modify (t.rowOf s) (·.filter (· != i))
          | none => t.texts
        let numbers := match e.number with
          | some n => t.numbers.modify (t.rowOfNumber n) (·.filter (· != i))
          | none => t.numbers
        { t with texts := texts, numbers := numbers, size := t.size - 1 }

/-- The keys in their order. -/
def keys (t : Table) : List Bytes × Table :=
  if t.size = 0 then ([], t)
  else
    let t := t.withTexts
    (t.texts.toList.flatten.filterMap fun i => (t.entries[i]?).bind (·.text), t)

/-- The table of the pieces of a text. -/
def ofPieces (pieces : List Value) : Table :=
  if pieces.isEmpty then empty
  else { empty with list := some pieces.toArray, size := pieces.length }

end Table
end SvgSkeleton.Shell.Awk
