/-!
Two sequences laid side by side so that as much as possible is common to both. The items are
numbers; equal ones fit together. What is not common is marked as changed on its side.
-/

namespace SvgSkeleton.Shell

/-- For every item of two sequences, is it changed? -/
structure Alignment where
  left : Array Bool
  right : Array Bool

namespace Alignment

/-! ### The middle of a shortest way -/

/-- A part of both sequences: where it begins and ends on either side. -/
structure Window where
  left : Nat
  leftEnd : Nat
  right : Nat
  rightEnd : Nat

/-- How far a search has come on each diagonal, and on which of them it is. A diagonal is the
distance between the place on the left and that on the right. -/
structure Front where
  reached : Array Int
  low : Int
  high : Int

/-- Two sequences; the shift makes an index of every diagonal. -/
structure Pair where
  xs : Array Nat
  ys : Array Nat

namespace Pair

def shift (p : Pair) : Int := p.ys.size + 1

/-- How many diagonals there are, with one more at each side. -/
def diagonals (p : Pair) : Nat := p.xs.size + p.ys.size + 3

def same (p : Pair) (x y : Nat) : Bool := p.xs[x]? == p.ys[y]?

end Pair

namespace Front

def at' (f : Front) (p : Pair) (d : Int) : Int := f.reached.getD (d + p.shift).toNat 0

def put (f : Front) (p : Pair) (d : Int) (x : Int) : Front :=
  { f with reached := f.reached.setIfInBounds (d + p.shift).toNat x }

/-- A search that begins on a diagonal. -/
def start (p : Pair) (d x : Int) : Front := put ⟨Array.replicate p.diagonals 0, d, d⟩ p d x

/-- The search with one more diagonal at each side, or one less where there is none. What is beyond
counts as a bound that is never better. -/
def widened (f : Front) (p : Pair) (least greatest bound : Int) : Front :=
  let f := if least < f.low then
      let f := f.put p (f.low - 2) bound
      { f with low := f.low - 1 }
    else { f with low := f.low + 1 }
  if f.high < greatest then
    let f := f.put p (f.high + 2) bound
    { f with high := f.high + 1 }
  else { f with high := f.high - 1 }

end Front

/-- Go on along a diagonal while items are equal. -/
def slideOn (p : Pair) (w : Window) : Nat → Int → Int → Int
  | 0, x, _ => x
  | fuel + 1, x, y =>
    if x < w.leftEnd && y < w.rightEnd && p.same x.toNat y.toNat then
      slideOn p w fuel (x + 1) (y + 1)
    else x

/-- Go back along a diagonal while items are equal. -/
def slideBack (p : Pair) (w : Window) : Nat → Int → Int → Int
  | 0, x, _ => x
  | fuel + 1, x, y =>
    if w.left < x && w.right < y && p.same (x - 1).toNat (y - 1).toNat then
      slideBack p w fuel (x - 1) (y - 1)
    else x

/-- Take a search a step on, on every other diagonal from one down. The place where it meets the
search from the other side ends it. -/
def advance (p : Pair) (w : Window) (meets : Bool) (other : Front) :
    Nat → Int → Front → Except (Int × Int) Front
  | 0, _, f => .ok f
  | fuel + 1, d, f =>
    if d < f.low then .ok f
    else
      let below := f.at' p (d - 1)
      let above := f.at' p (d + 1)
      let first := if below < above then above else below + 1
      let x := slideOn p w p.xs.size first (first - d)
      if meets && other.low ≤ d && d ≤ other.high && other.at' p d ≤ x then .error (x, x - d)
      else advance p w meets other fuel (d - 2) (f.put p d x)

/-- Take the search from the end a step back, likewise. -/
def retreat (p : Pair) (w : Window) (meets : Bool) (other : Front) :
    Nat → Int → Front → Except (Int × Int) Front
  | 0, _, f => .ok f
  | fuel + 1, d, f =>
    if d < f.low then .ok f
    else
      let below := f.at' p (d - 1)
      let above := f.at' p (d + 1)
      let first := if below < above then below else above - 1
      let x := slideBack p w p.xs.size first (first - d)
      if meets && other.low ≤ d && d ≤ other.high && x ≤ other.at' p d then .error (x, x - d)
      else retreat p w meets other fuel (d - 2) (f.put p d x)

/-- Search from both ends of a window until both searches meet. -/
def meeting (p : Pair) (w : Window) : Nat → Front → Front → Int × Int
  | 0, _, _ => (w.leftEnd, w.rightEnd)
  | fuel + 1, forward, backward =>
    let least : Int := (w.left : Int) - w.rightEnd
    let greatest : Int := (w.leftEnd : Int) - w.right
    let bound : Int := p.diagonals
    let isOdd := ((w.left : Int) - w.right - (w.leftEnd - w.rightEnd)) % 2 != 0
    let forward := forward.widened p least greatest (-1)
    match advance p w isOdd backward p.diagonals forward.high forward with
    | .error place => place
    | .ok forward =>
      let backward := backward.widened p least greatest bound
      match retreat p w (!isOdd) forward p.diagonals backward.high backward with
      | .error place => place
      | .ok backward => meeting p w fuel forward backward

/-! ### All changes -/

/-- The alignment with a range of items marked on either side. -/
def mark (a : Array Bool) (first last : Nat) : Array Bool :=
  (List.range (last - first)).foldl (fun a i => a.setIfInBounds (first + i) true) a

/-- Mark what is changed within a window: what is equal at both ends is not, and the rest is taken
apart where the searches from both ends meet. -/
def compareWithin (p : Pair) : Nat → Window → Alignment → Alignment
  | 0, _, a => a
  | fuel + 1, w, a =>
    let x := (slideOn p w p.xs.size w.left w.right).toNat
    let w := { w with left := x, right := w.right + (x - w.left) }
    let x := (slideBack p w p.xs.size w.leftEnd w.rightEnd).toNat
    let w := { w with leftEnd := x, rightEnd := w.rightEnd - (w.leftEnd - x) }
    if w.left = w.leftEnd then { a with right := mark a.right w.right w.rightEnd }
    else if w.right = w.rightEnd then { a with left := mark a.left w.left w.leftEnd }
    else
      let forward := Front.start p ((w.left : Int) - w.right) w.left
      let backward := Front.start p ((w.leftEnd : Int) - w.rightEnd) w.leftEnd
      let (x, y) := meeting p w (p.diagonals + 1) forward backward
      let a := compareWithin p fuel { w with leftEnd := x.toNat, rightEnd := y.toNat } a
      compareWithin p fuel { w with left := x.toNat, right := y.toNat } a

/-- The alignment of two sequences. -/
def ofPair (p : Pair) : Alignment :=
  let none (xs : Array Nat) : Array Bool := Array.replicate xs.size false
  compareWithin p (p.xs.size + p.ys.size + 1) ⟨0, p.xs.size, 0, p.ys.size⟩ ⟨none p.xs, none p.ys⟩

/-! ### Items that would only confuse -/

/-- Whether an item takes part in the search. -/
inductive Part where
  | kept
  | dropped
  /-- There are so many equal items on the other side that it may be dropped. -/
  | doubtful
  deriving DecidableEq

/-- Twice, doubled as often as a quarter can be taken of a number. -/
def doubled : Nat → Nat → Nat → Nat
  | 0, _, n => n
  | fuel + 1, size, n => if 0 < size / 4 then doubled fuel (size / 4) (2 * n) else n

/-- How many equal items on the other side are too many. -/
def tooMany (size : Nat) : Nat := doubled 64 (size / 64) 5

/-- A first guess: items that are nowhere on the other side are dropped. -/
def firstParts (xs ys : Array Nat) : Array Part :=
  let limit := tooMany xs.size
  xs.map fun x =>
    let n := ys.count x
    if n = 0 then .dropped else if limit < n then .doubtful else .kept

/-- Keep those doubtful items of a run that come in groups of some size. -/
def keepGroups (least : Nat) (run : List Part) : List Part :=
  let rec go : Nat → List Part → List Part
    | 0, rest => rest
    | _ + 1, [] => []
    | fuel + 1, .doubtful :: rest =>
      let n := 1 + (rest.takeWhile (· == .doubtful)).length
      List.replicate n (if least ≤ n then .kept else .doubtful) ++ go fuel (rest.drop (n - 1))
    | fuel + 1, p :: rest => p :: go fuel rest
  go (run.length + 1) run

/-- Keep the doubtful items at the front of a run, up to three that are dropped in a row or one that
is dropped behind the first eight. -/
def keepFront : Nat → Nat → List Part → List Part
  | _, _, [] => []
  | place, inRow, p :: rest =>
    if 8 ≤ place && p = .dropped then p :: rest
    else
      match p with
      | .dropped => if inRow = 2 then p :: rest else p :: keepFront (place + 1) (inRow + 1) rest
      | _ => .kept :: keepFront (place + 1) 0 rest

/-- What becomes of the doubtful items in a run that begins and ends with dropped ones. -/
def settled (run : List Part) : List Part :=
  let doubtful := run.count .doubtful
  if run.length < doubtful * 4 then run.map fun p => if p = .doubtful then .kept else p
  else
    let least := doubled 64 (run.length / 4) 1 + 1
    let run := keepFront 0 0 (keepGroups least run)
    (keepFront 0 0 run.reverse).reverse

/-- What becomes of all items. Doubtful ones outside of runs of dropped ones are kept. -/
def settledAll : Nat → List Part → List Part
  | 0, ps => ps
  | _ + 1, [] => []
  | fuel + 1, .dropped :: rest =>
    let run := .dropped :: rest.takeWhile (· != .kept)
    let trailing := (run.reverse.takeWhile (· == .doubtful)).length
    let run := run.take (run.length - trailing)
    settled run ++ List.replicate trailing .kept
      ++ settledAll fuel (rest.drop (run.length + trailing - 1))
  | fuel + 1, _ :: rest => .kept :: settledAll fuel rest

/-- The places of the items that take part in the search. -/
def takingPart (xs ys : Array Nat) : Array Nat :=
  let parts := settledAll (xs.size + 1) (firstParts xs ys).toList
  ((parts.zipIdx.filter fun (p, _) => p == .kept).map (·.2)).toArray

/-- The marks of items that take part, put where they belong; all others are changed. -/
def spread (size : Nat) (places : Array Nat) (marks : Array Bool) : Array Bool :=
  places.toList.zipIdx.foldl (fun a (place, i) => a.setIfInBounds place (marks.getD i true))
    (Array.replicate size true)

/-- The alignment of two sequences in which items that would confuse the search are left out. -/
def ofSequences (xs ys : Array Nat) : Alignment :=
  let left := takingPart xs ys
  let right := takingPart ys xs
  let a := ofPair ⟨left.map (xs.getD · 0), right.map (ys.getD · 0)⟩
  ⟨spread xs.size left a.left, spread ys.size right a.right⟩

/-! ### Moving changes -/

/-- A run of changed items on one side, and where it ends on the other one. -/
structure Run where
  changed : Array Bool
  first : Int
  last : Int
  other : Int
  /-- The last end at which there is a change on the other side, too. -/
  fitting : Int

def isChanged (a : Array Bool) (i : Int) : Bool := 0 ≤ i && a.getD i.toNat false

/-- The first place from one on where there is no change. -/
def pass (a : Array Bool) : Nat → Int → Int
  | 0, i => i
  | fuel + 1, i => if isChanged a i then pass a fuel (i + 1) else i

/-- The last place up to one where there is no change. -/
def passBack (a : Array Bool) : Nat → Int → Int
  | 0, i => i
  | fuel + 1, i => if isChanged a i then passBack a fuel (i - 1) else i

def setAt (a : Array Bool) (i : Int) (b : Bool) : Array Bool := a.setIfInBounds i.toNat b

/-- Move a run back by an item. -/
def Run.back (r : Run) (otherChanged : Array Bool) : Run :=
  let changed := setAt (setAt r.changed (r.first - 1) true) (r.last - 1) false
  let first := passBack changed changed.size (r.first - 2) + 1
  { r with changed := changed, first := first, last := r.last - 1
           other := passBack otherChanged otherChanged.size (r.other - 1) }

/-- Move a run back as long as the item before it equals its last one. -/
def Run.allBack (xs : Array Nat) (otherChanged : Array Bool) : Nat → Run → Run
  | 0, r => r
  | fuel + 1, r =>
    if 0 < r.first && xs[(r.first - 1).toNat]? == xs[(r.last - 1).toNat]? then
      (r.back otherChanged).allBack xs otherChanged fuel
    else r

/-- Move a run on as long as the item behind it equals its first one. -/
def Run.allOn (xs : Array Nat) (otherChanged : Array Bool) : Nat → Run → Run
  | 0, r => r
  | fuel + 1, r =>
    if r.last != xs.size && xs[r.first.toNat]? == xs[r.last.toNat]? then
      let changed := setAt (setAt r.changed r.first false) r.last true
      let last := pass changed changed.size (r.last + 1)
      let other := pass otherChanged otherChanged.size (r.other + 1)
      let fitting := if other = r.other + 1 then r.fitting else last
      Run.allOn xs otherChanged fuel { r with
        changed := changed, first := r.first + 1, last := last, other := other, fitting := fitting }
    else r

/-- Move a run back and on again, until it does not grow any more by that. -/
def Run.grown (xs : Array Nat) (otherChanged : Array Bool) : Nat → Run → Run
  | 0, r => r
  | fuel + 1, r =>
    let length := r.last - r.first
    let r := r.allBack xs otherChanged xs.size
    let r := { r with fitting := if isChanged otherChanged (r.other - 1) then r.last else xs.size }
    let r := r.allOn xs otherChanged xs.size
    if r.last - r.first = length then r else Run.grown xs otherChanged fuel r

/-- Move a run back to where it fits a change on the other side. -/
def Run.fitted (otherChanged : Array Bool) : Nat → Run → Run
  | 0, r => r
  | fuel + 1, r =>
    if r.fitting < r.last then
      let changed := setAt (setAt r.changed (r.first - 1) true) (r.last - 1) false
      Run.fitted otherChanged fuel { r with
        changed := changed, first := r.first - 1, last := r.last - 1
        other := passBack otherChanged otherChanged.size (r.other - 1) }
    else r

/-- The next run of changes from a place on, and the place on the other side. -/
def nextRun (changed otherChanged : Array Bool) : Nat → Int → Int → Int × Int
  | 0, i, j => (i, j)
  | fuel + 1, i, j =>
    if i < changed.size && !isChanged changed i then
      nextRun changed otherChanged fuel (i + 1) (pass otherChanged otherChanged.size j + 1)
    else (i, j)

/-- Move all runs of changes from a place on. -/
def movedFrom (xs : Array Nat) (otherChanged : Array Bool) : Nat → Int → Int → Array Bool →
    Array Bool
  | 0, _, _, changed => changed
  | fuel + 1, i, j, changed =>
    let (first, j) := nextRun changed otherChanged (changed.size + 1) i j
    if changed.size ≤ first then changed
    else
      let last := pass changed changed.size first
      let other := pass otherChanged otherChanged.size j
      let r := Run.grown xs otherChanged (xs.size + 1) ⟨changed, first, last, other, xs.size⟩
      let r := r.fitted otherChanged xs.size
      movedFrom xs otherChanged fuel r.last r.other r.changed

/-- The alignment with runs of changes moved: together where that can be, then as far to the end as
can be, but to changes on the other side rather. -/
def moved (xs ys : Array Nat) (a : Alignment) : Alignment :=
  let left := movedFrom xs a.right (xs.size + 1) 0 0 a.left
  let right := movedFrom ys left (ys.size + 1) 0 0 a.right
  ⟨left, right⟩

/-! ### Changes -/

/-- A change: from where on how many items are replaced by how many others. -/
structure Change where
  left : Nat
  right : Nat
  removed : Nat
  added : Nat
  deriving DecidableEq, Repr

/-- The changes from a place on. -/
def changesFrom (a : Alignment) : Nat → Nat → Nat → List Change
  | 0, _, _ => []
  | fuel + 1, i, j =>
    let last := (pass a.left a.left.size i).toNat
    let other := (pass a.right a.right.size j).toNat
    let rest := if a.left.size ≤ last && a.right.size ≤ other then []
      else changesFrom a fuel (last + 1) (other + 1)
    if last = i && other = j then rest else ⟨i, j, last - i, other - j⟩ :: rest

/-- The changes that make one sequence of another one. -/
def changes (xs ys : Array Nat) : List Change :=
  let a := moved xs ys (ofSequences xs ys)
  changesFrom a (xs.size + ys.size + 1) 0 0

end Alignment
end SvgSkeleton.Shell
