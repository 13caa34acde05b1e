import SvgSkeleton.FileTree.Lemmas
import SvgSkeleton.Store

/-!
A folder on disk as a store. Symbolic links are followed, but never to a place outside the folder.
-/

namespace SvgSkeleton

/-- A folder of a tree, by its place. -/
structure Disk where
  tree : FileTree
  root : Place

namespace Disk

/-- The folder that a path denotes. -/
def ofPath (tree : FileTree) (cwd : Place) (path : String) : Outcome Disk :=
  match tree.resolve cwd (Text.bytesOf path) with
  | .error reason => .error (.noRoot path reason)
  | .ok root =>
    if tree.isFolderAt root then .ok ⟨tree, root⟩
    else .error (.rootNotFolder (Text.decodeLossy (FileTree.absolutePath root)))

/-- A name of a path in bytes. -/
def fileName (s : Path.Segment) : FileName := Text.bytesOf (String.ofList s)

/-- A place that has been found, and the names from the top of the tree by which it is opened. -/
structure Found where
  place : Place
  names : Place

/-- What names lead to from the root, all links followed. It is opened by the names on the way to
its place; where these make too long a path, by the names as they are given. -/
def follow (d : Disk) (names : List Path.Segment) : Except OsError Found :=
  let names := names.map fileName
  let walk (bound : Option Nat) :=
    d.tree.walk bound FileTree.linkLimit d.root.reverse (names.map .down)
  match walk (some FileTree.pathLimit) with
  | .ok (place, _) => .ok ⟨place.reverse, place.reverse⟩
  | .error _ =>
    match FileTree.checkPath (FileTree.absolutePath (d.root ++ names)), walk none with
    | .ok (), .ok (place, _) => .ok ⟨place.reverse, d.root ++ names⟩
    | .error reason, _ | _, .error reason => .error reason

/-- Where a path leads: to a place inside the folder, or nowhere. -/
def find (d : Disk) (path : String) : Outcome (Except OsError Found) :=
  match Path.resolve path.toList with
  | .error fault => .error (.invalidPath ⟨path, fault⟩)
  | .ok names =>
    match d.follow names with
    | .error reason => .ok (.error reason)
    | .ok found =>
      if d.root.isPrefixOf found.names then .ok (.ok found)
      else .error (.invalidPath ⟨path, .outsideRoot⟩)

/-- The path inside the folder that names from the top of the tree make. -/
def pathOf (d : Disk) (names : Place) : Outcome String :=
  match (names.drop d.root.length).mapM fun name => Text.decode? ⟨name.toArray⟩ with
  | some names => .ok (String.intercalate "/" names)
  | none =>
    .error (.invalidPath ⟨Text.decodeLossy (FileTree.absolutePath names), .notText⟩)

/-- The content of a file. -/
def read (d : Disk) (path : String) : Outcome ByteArray := do
  match ← d.find path with
  | .error .noEntry => .error (.assetNotFound path)
  | .error reason => .error (.io reason)
  | .ok found =>
    match d.tree.contentAt found.place with
    | .ok content => return content
    | .error _ => .error (.assetNotFound path)

/-- Does the path lead to a file? -/
def isFile (d : Disk) (path : String) : Bool :=
  match d.find path with
  | .ok (.ok found) => d.tree.isFileAt found.place
  | _ => false

/-- Can the folder of these names be opened? Else the listing fails here. -/
def checkListed (names : Place) : Outcome Unit :=
  let path := FileTree.absolutePath names
  (FileTree.checkPath path).mapError (.notListed (Text.decodeLossy path))

/-- The paths of all files under a folder, in order. -/
def list (d : Disk) (folder : String) : Outcome (List String) := do
  match ← d.find (← normalizePath folder) with
  | .error _ => return []
  | .ok found =>
    match d.tree.at? found.place with
    | none => return []
    | some t =>
      t.folders.forM fun inner => checkListed (found.names ++ inner)
      let paths ← t.files.mapM fun inner => d.pathOf (found.names ++ inner)
      return paths.mergeSort fun a b => decide (a ≤ b)

/-- The path by which a folder is opened; a path that leads nowhere has its normal form. -/
def canonicalFolder (d : Disk) (folder : String) : Outcome String := do
  match ← d.find folder with
  | .ok found => d.pathOf found.names
  | .error _ => normalizePath folder

theorem find_eq_ok {d : Disk} {path : String} {found : Found}
    (h : d.find path = .ok (.ok found)) :
    ∃ names, Path.resolve path.toList = .ok names ∧ d.follow names = .ok found := by
  simp only [find] at h
  split at h
  · simp at h
  · next names hr =>
    split at h
    · simp at h
    · next p hp =>
      split at h
      · simp only [Except.ok.injEq] at h
        exact ⟨names, hr, h ▸ hp⟩
      · simp at h

/-- The length that the paths of places which are opened stay below. -/
def reach (d : Disk) : Nat := max FileTree.pathLimit (FileTree.pathLength d.root + 1)

theorem pathLength_of_walk {d : Disk} {route : List FileTree.Step} {r : List FileName × Nat}
    (h : d.tree.walk (some FileTree.pathLimit) FileTree.linkLimit d.root.reverse route = .ok r) :
    FileTree.pathLength r.1.reverse < d.reach := by
  rw [FileTree.pathLength_reverse]
  refine FileTree.pathLength_of_walk h (Nat.le_max_left ..) ?_
  rw [FileTree.pathLength_reverse]
  exact Nat.lt_of_lt_of_le (Nat.lt_succ_self _) (Nat.le_max_right ..)

/-- What holds an entry that is found is found as well, at a place whose path is short. -/
theorem follow_append {d : Disk} {names : List Path.Segment} {name : Path.Segment} {found : Found}
    (h : d.follow (names ++ [name]) = .ok found) :
    ∃ inner, d.follow names = .ok inner ∧ FileTree.pathLength inner.names < d.reach := by
  have parent {bound : Option Nat} {r : List FileName × Nat}
      (hw : d.tree.walk bound FileTree.linkLimit d.root.reverse
        (((names ++ [name]).map fileName).map .down) = .ok r) :
      ∃ q, d.tree.walk bound FileTree.linkLimit d.root.reverse
        ((names.map fileName).map .down) = .ok q := by
    rw [List.map_append, List.map_append, FileTree.walk_append] at hw
    cases hq : d.tree.walk bound FileTree.linkLimit d.root.reverse
        ((names.map fileName).map .down) with
    | error reason =>
      rw [hq] at hw
      simp [Except.bind] at hw
    | ok q => exact ⟨q, rfl⟩
  cases hs : d.tree.walk (some FileTree.pathLimit) FileTree.linkLimit d.root.reverse
      ((names.map fileName).map .down) with
  | ok q => exact ⟨⟨q.1.reverse, q.1.reverse⟩, by simp only [follow, hs], pathLength_of_walk hs⟩
  | error reason =>
    simp only [follow] at h
    split at h
    · next p n hw =>
      obtain ⟨q, hq⟩ := parent hw
      rw [hs] at hq
      simp at hq
    · split at h
      · next p n hc hw =>
        obtain ⟨q, hq⟩ := parent hw
        rw [List.map_append, List.map_cons, List.map_nil, ← List.append_assoc] at hc
        have hc := FileTree.checkPath_parent hc
        refine ⟨⟨q.1.reverse, d.root ++ names.map fileName⟩, by simp only [follow, hs, hc, hq], ?_⟩
        exact Nat.lt_of_le_of_lt (FileTree.pathLength_le_absolutePath _)
          (Nat.lt_of_lt_of_le (FileTree.checkPath_eq_ok.mp hc).2.2 (Nat.le_max_left ..))
      · simp at h
      · simp at h

/-- The paths inside the folder that short paths of places make. -/
def folders (d : Disk) : List String :=
  (FileTree.placesUpTo d.reach).filterMap fun place => (d.pathOf place).toOption

theorem mem_folders (d : Disk) {folder name path canonical : String}
    (hn : name ∈ manifestNames) (hj : joinPath folder name = .ok path)
    (hf : d.isFile path = true) (hc : d.canonicalFolder folder = .ok canonical) :
    canonical ∈ d.folders := by
  have hord := ordinary_manifestName hn
  have hfind : ∃ found, d.find path = .ok (.ok found) := by
    simp only [isFile] at hf
    split at hf
    · next found hp => exact ⟨found, hp⟩
    · simp at hf
  obtain ⟨found, hfound⟩ := hfind
  obtain ⟨got, hg, hfollow⟩ := find_eq_ok hfound
  cases hr : Path.resolve folder.toList with
  | error fault => simp [canonicalFolder, find, hr, bind, Except.bind] at hc
  | ok names =>
    rw [Path.join_name hord hr (joinPath_eq_ok hj), String.toList_ofList] at hg
    have := Path.resolve_ofSegments (by
      intro s hs
      rcases List.mem_append.mp hs with hs | hs
      · exact Path.ordinary_of_resolve hr s hs
      · exact List.mem_singleton.mp hs ▸ hord) hg
    subst this
    obtain ⟨inner, hi, hl⟩ := follow_append hfollow
    simp only [canonicalFolder, find, hr, hi] at hc
    split at hc
    · refine List.mem_filterMap.mpr
        ⟨inner.names, FileTree.mem_placesUpTo (Nat.le_of_lt hl), ?_⟩
      simp only [bind, Except.bind] at hc
      simp [hc, Except.toOption]
    · simp [bind, Except.bind] at hc

/-- The folder as a store. -/
def toStore (d : Disk) : Store where
  read := d.read
  isFile := d.isFile
  list := d.list
  localRoot := some (Text.decodeLossy (FileTree.absolutePath d.root))
  canonicalFolder := d.canonicalFolder
  exists_folders := ⟨d.folders, d.mem_folders⟩

end Disk
end SvgSkeleton
