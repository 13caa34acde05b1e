import SvgSkeleton.Shell.Utility.Options

/-!
`tsort`: names in an order in which none comes before one that it is said to follow. Pairs of names
that lead around in a circle are told of, and one of them is left out.
-/

namespace SvgSkeleton.Shell.Precedence

/-- A name: how many names it still waits for, and the names that wait for it, the latest first. -/
structure Node where
  waits : Nat
  followers : List Nat
  done : Bool

/-- The names of a text. -/
def words : Nat → Bytes → List Bytes
  | 0, _ => []
  | fuel + 1, s =>
    let isGap (c : Char) : Bool := c == ' ' || c == '\t' || c == '\n'
    let s := s.dropWhile isGap
    if s.isEmpty then []
    else
      let w := s.takeWhile (!isGap ·)
      w :: words fuel (s.drop w.length)

/-- The names two by two; the last one has no partner. -/
def pairs {α : Type} : List α → List (α × α)
  | a :: b :: rest => (a, b) :: pairs rest
  | _ => []

/-- The names in order, each once. -/
def distinct (names : List Bytes) : Array Bytes :=
  (names.mergeSort Bytes.inOrder).eraseReps.toArray

def change (nodes : Array Node) (i : Nat) (f : Node → Node) : Array Node := nodes.modify i f

/-- The names with all that is said of them. -/
def nodesOf (names : Array Bytes) (relations : List (Bytes × Bytes)) : Array Node :=
  let place (s : Bytes) : Nat := (names.idxOf? s).getD 0
  relations.foldl (fun nodes (a, b) =>
    if a = b then nodes
    else
      let nodes := change nodes (place b) fun n => { n with waits := n.waits + 1 }
      change nodes (place a) fun n => { n with followers := place b :: n.followers })
    (Array.replicate names.size ⟨0, [], false⟩)

/-- A name less to wait for, for each of some names; those that wait for none any more. -/
def release (nodes : Array Node) : List Nat → Array Node × List Nat
  | [] => (nodes, [])
  | i :: rest =>
    let nodes := change nodes i fun n => { n with waits := n.waits - 1 }
    let free := nodes[i]?.any (·.waits == 0)
    let (nodes, more) := release nodes rest
    (nodes, if free then i :: more else more)

/-- Take names off a queue, the first one first, until it is empty; and those that were taken. -/
def drain : Nat → Array Node → List Nat → Array Node × List Nat
  | 0, nodes, _ => (nodes, [])
  | _ + 1, nodes, [] => (nodes, [])
  | fuel + 1, nodes, i :: queue =>
    let followers := (nodes[i]?.map (·.followers)).getD []
    let nodes := change nodes i fun n => { n with done := true }
    let (nodes, free) := release nodes followers
    let (nodes, taken) := drain fuel nodes (queue ++ free)
    (nodes, i :: taken)

/-- A search for a circle: the names that have been passed on the way back, and for each of them the
one behind it. -/
structure Trail where
  links : List (Nat × Nat)
  front : Option Nat

/-- Go on with a search at a name. A circle is told of, with the pair that closes it. -/
def Trail.visit (t : Trail) (nodes : Array Node) (i : Nat) : Trail × Option (List Nat × Nat) :=
  match nodes[i]? with
  | some node =>
    if node.waits = 0 then (t, none)
    else
      match t.front with
      | none => ({ t with front := some i }, none)
      | some front =>
        if !node.followers.contains front then (t, none)
        else if (t.links.lookup i).isSome then
          ({ t with front := none }, some (circle t.links (t.links.length + 1) front i, front))
        else (⟨(i, front) :: t.links, some i⟩, none)
  | none => (t, none)
where
  circle (links : List (Nat × Nat)) : Nat → Nat → Nat → List Nat
    | 0, i, _ => [i]
    | fuel + 1, i, last =>
      if i = last then [i]
      else match links.lookup i with
        | some j => i :: circle links fuel j last
        | none => [i]

/-- Go on with a search at all names in turn, until a circle is found. -/
def walk (nodes : Array Node) : Trail → List Nat → Trail × Option (List Nat × Nat)
  | t, [] => (t, none)
  | t, i :: rest =>
    match t.visit nodes i with
    | (t, some found) => (t, some found)
    | (t, none) => walk nodes t rest

/-- Search until a circle is found, again and again through all names. -/
def findCircle (nodes : Array Node) : Nat → Trail → Option (List Nat × Nat)
  | 0, _ => none
  | fuel + 1, t =>
    match walk nodes t (List.range nodes.size) with
    | (_, some found) => some found
    | (t, none) => if t.front.isNone then none else findCircle nodes fuel t

/-- Leave out what the last name of a circle says of the first one. -/
def broken (nodes : Array Node) (circle : List Nat) (first : Nat) : Array Node :=
  match circle.getLast? with
  | some last =>
    let nodes := change nodes last fun n => { n with followers := n.followers.erase first }
    change nodes first fun n => { n with waits := n.waits - 1 }
  | none => nodes

/-- All names in order, in parts; behind a part there is a circle, except behind the last one. -/
def order : Nat → Array Node → List (List Nat × List Nat)
  | 0, _ => []
  | fuel + 1, nodes =>
    let free := (List.range nodes.size).filter fun i =>
      nodes[i]?.any fun n => n.waits == 0 && !n.done
    let (nodes, taken) := drain (nodes.size + 1) nodes free
    if nodes.all (·.done) then [(taken, [])]
    else
      match findCircle nodes (nodes.size + 2) ⟨[], none⟩ with
      | none => [(taken, [])]
      | some (circle, first) => (taken, circle) :: order fuel (broken nodes circle first)

end Precedence

open Precedence in
def tsort : Utility := withOptions [] fun name a => do
  if let _ :: extra :: _ := a.operands then
    return ← misused name ("extra operand ".toList ++ Quoting.plain extra) 1
  let path := a.operands.headD ['-']
  match ← readOperand path with
  | .error e =>
    if failsLate e then
      utilityError name (Quoting.ifNeeded path ++ ": read error: ".toList ++ reasonText e)
    else fileError name path e
    return 1
  | .ok text =>
    let ws := words (text.length + 1) text
    if ws.length % 2 = 1 then
      utilityError name (Quoting.ifNeeded path ++ ": input contains an odd number of tokens".toList)
      return 1
    let names := distinct ws
    let relations := pairs ws
    let parts := order (relations.length + 2) (nodesOf names relations)
    let text (i : Nat) : Bytes := names.getD i []
    parts.forM fun (taken, circle) => do
      write 1 (taken.flatMap fun i => text i ++ ['\n'])
      unless circle.isEmpty do
        utilityError name (Quoting.ifNeeded path ++ ": input contains a loop:".toList)
        circle.forM fun i => utilityError name (text i)
    return if parts.all (·.2.isEmpty) then 0 else 1

end SvgSkeleton.Shell
