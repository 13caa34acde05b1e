import SvgSkeleton.Shell.Calendar.Phrase
import SvgSkeleton.Shell.Mode
import SvgSkeleton.Shell.Whole
import SvgSkeleton.Shell.Utility.Listing

/-!
Utilities that make files and folders, change what is known of them, and take them away.
-/

namespace SvgSkeleton.Shell

/-! ### Folders -/

/-- Make a folder, whose permissions may be given. -/
def makeFolder (path : Bytes) (mode : Option Nat) : Shell (Except OsError Unit) := do
  let m ← get
  match m.tree.locateEntry m.cwd (Bytes.toList path) with
  | .error e => return .error e
  | .ok place =>
    if (m.tree.at? place).isSome then return .error .present
    createNode (.folder []) place
    if let some mode := mode then setMode place mode
    return .ok ()

/-- The path and those of all folders on the way to it, the outermost first. -/
def waysTo (path : Bytes) : List Bytes :=
  let body := trimmedPath path
  let ends := (body.zipIdx.filter fun (c, i) =>
    c != '/' && (body[i + 1]?.all (· == '/'))).map (·.2 + 1)
  ends.map body.take

/-- Make the folders on the way to a path, and the last one. The error is that of one of
them. -/
def makeWay (path : Bytes) (mode : Option Nat) (tell : Bytes → Shell Unit) :
    Shell (Except (Bytes × OsError) Unit) := do
  let ways := waysTo path
  let rec go : List Bytes → Shell (Except (Bytes × OsError) Unit)
    | [] => return .ok ()
    | way :: rest => do
      match ← nodeAt? way with
      | .ok (.folder _) => go rest
      | .ok _ => return .error (way, if rest.isEmpty then .present else .notFolder)
      | .error .noEntry =>
        match ← makeFolder way (if rest.isEmpty then mode else none) with
        | .ok () =>
          tell way
          go rest
        | .error e => return .error (way, e)
      | .error e => return .error (way, e)
  if path.isEmpty then return .error (path, .noEntry)
  go ways

/-- The permissions that a text makes of those that new folders have. -/
def folderMode? (text : Bytes) : Shell (Option Nat) := do
  return Mode.change? text true (← get).mask 0o777

def mkdir : Utility :=
  withOptions [flag 'p' ["parents"], setting 'm' ["mode"], flag 'v' ["verbose"], flag 'Z' []]
    fun name a => do
      if a.operands.isEmpty then return ← misused name "missing operand".toList 1
      let mode ← match a.value? 'm' with
        | some text => folderMode? text
        | none => pure none
      if let (some text, none) := (a.value? 'm', mode) then
        utilityError name ("invalid mode ".toList ++ Quoting.plain text)
        return 1
      let tell (path : Bytes) : Shell Unit :=
        if a.has 'v' then
          write 1 (name ++ ": created directory ".toList ++ Quoting.always path ++ ['\n'])
        else return ()
      forEach a.operands fun path => do
        if a.has 'p' then
          match ← makeWay path mode tell with
          | .ok () => return true
          | .error (way, e) => cannot name "cannot create directory" way e
        else
          match ← makeFolder path mode with
          | .ok () =>
            tell path
            return true
          | .error e => cannot name "cannot create directory" path e

/-- Take an empty folder away. -/
def removeFolder (path : Bytes) : Shell (Except OsError Unit) := do
  match (FileTree.steps (FileTree.trimSlashes (Bytes.toList path))).getLast? with
  | some .stay => if path.getLast? = some '.' then return .error (.other "Invalid argument")
  | _ => pure ()
  match ← entry? path with
  | .ok (place, .folder []) =>
    eraseNode place
    return .ok ()
  | .ok (_, .folder _) => return .error .notEmpty
  | .ok _ => return .error .notFolder
  | .error e => return .error e

def ignoreLetter : Char := Char.ofNat 256

def rmdir : Utility :=
  withOptions [flag 'p' ["parents"], flag 'v' ["verbose"],
    flag ignoreLetter ["ignore-fail-on-non-empty"]] fun name a => do
      if a.operands.isEmpty then return ← misused name "missing operand".toList 1
      let tell (path : Bytes) : Shell Unit :=
        if a.has 'v' then
          write 1 (name ++ ": removing directory, ".toList ++ Quoting.always path ++ ['\n'])
        else return ()
      let forgiven (e : OsError) : Bool := e = .notEmpty && a.has ignoreLetter
      let rec parents : List Bytes → Shell Bool
        | [] => return true
        | path :: rest => do
          tell path
          match ← removeFolder path with
          | .ok () => parents rest
          | .error e =>
            if forgiven e then return true
            cannot name "failed to remove directory" path e
      forEach a.operands fun path => do
        tell path
        match ← removeFolder path with
        | .ok () => if a.has 'p' then parents (waysTo path).reverse.tail else return true
        | .error e => if forgiven e then return true else cannot name "failed to remove" path e

/-! ### Removal -/

/-- Is the answer that is read a yes? -/
def agreed (question : Bytes) : Shell Bool := do
  write 2 question
  let answer ← readLine 0
  return answer.head?.any fun c => c == 'y' || c == 'Y'

/-- The words for the kind of what is asked about. -/
def kindWords : FileTree → String
  | .file content => if content.isEmpty then "regular empty file" else "regular file"
  | .special (.program _) => "regular file"
  | .folder _ => "directory"
  | .link _ => "symbolic link"
  | .special .pipe => "fifo"
  | .special _ => "character special file"

/-- How things are removed. -/
structure Removal where
  folders : Bool
  emptyFolders : Bool
  forced : Bool
  asks : Bool
  tells : Bool

/-- Remove what is at a path and below, with questions. -/
def Removal.removeAsking (r : Removal) (name : Bytes) : Nat → Bytes → Place → FileTree → Shell Bool
  | 0, _, _, _ => return false
  | fuel + 1, path, place, node => do
    let ask (what : String) : Shell Bool :=
      agreed (name ++ ": ".toList ++ what.toList ++ Quoting.always path ++ "? ".toList)
    match node with
    | .folder entries =>
      let goes ← if entries.isEmpty then pure true else ask "descend into directory "
      if !goes then return true
      let inner ← entries.reverse.mapM fun (child, n) =>
        r.removeAsking name fuel (inFolder path (Bytes.ofList child)) (place ++ [child]) n
      if !inner.all id then return false
      match (← get).tree.at? place with
      | some (.folder []) =>
        if ← ask "remove directory " then
          eraseNode place
          if r.tells then write 1 ("removed directory ".toList ++ Quoting.always path ++ ['\n'])
        return true
      | _ =>
        if ← ask "remove directory " then cannot name "cannot remove" path .notEmpty
        else return true
    | node =>
      if ← ask ("remove " ++ kindWords node ++ " ") then
        eraseNode place
        if r.tells then write 1 ("removed ".toList ++ Quoting.always path ++ ['\n'])
      return true

/-- Remove what an operand names. -/
def Removal.remove (r : Removal) (name path : Bytes) : Shell Bool := do
  match ← entry? path with
  | .error e =>
    if r.forced && (e = .noEntry || e = .notFolder) then return true
    else cannot name "cannot remove" path e
  | .ok (place, node) =>
    let last := lastName path
    if let .folder entries := node then
      if !r.folders && !(r.emptyFolders && entries.isEmpty) then
        return ← cannot name "cannot remove" path
          (if r.emptyFolders then .notEmpty else .isFolder)
      if last = ['.'] || last = ['.', '.'] then
        utilityError name ("refusing to remove '.' or '..' directory: skipping ".toList
          ++ Quoting.always path)
        return false
      if place.isEmpty then
        utilityError name "it is dangerous to operate recursively on '/'".toList
        utilityError name "use --no-preserve-root to override this failsafe".toList
        return false
    if r.asks then r.removeAsking name 4096 path place node
    else
      if r.tells then
        write 1 ((pathsUpTo (trimmedPath path) node).flatMap fun (p, n) =>
          (if n.isFolder then "removed directory " else "removed ").toList ++ Quoting.always p
            ++ ['\n'])
      eraseNode place
      return true

def interactiveLetter : Char := Char.ofNat 256
def rootLetter : Char := Char.ofNat 257

def rm : Utility :=
  withOptions [flag 'r' ["recursive"], flag 'f' ["force"], flag 'R' [], flag 'd' ["dir"],
    flag 'v' ["verbose"], flag 'i' [], flag 'I' [],
    variant interactiveLetter ["interactive"],
    flag rootLetter ["one-file-system", "no-preserve-root", "preserve-root"]] fun name a => do
      let recursive := a.has 'r' || a.has 'R'
      let asksAlways := match a.last? (String.ofList ['f', 'i', interactiveLetter]) with
        | some 'i' => true
        | some 'f' | none => false
        | some _ => "always".toList.isPrefixOf ((a.value? interactiveLetter).getD [])
          || (a.value? interactiveLetter).getD [] = []
      let asksOnce := a.last? "fI" = some 'I'
      let r : Removal :=
        ⟨recursive, a.has 'd',
         a.last? (String.ofList ['f', 'i', 'I', interactiveLetter]) = some 'f',
         asksAlways, a.has 'v'⟩
      if a.operands.isEmpty then
        if a.has 'f' then return 0
        return ← misused name "missing operand".toList 1
      let n := a.operands.length
      if asksOnce && (3 < n || recursive) then
        let question := name ++ ": remove ".toList ++ Bytes.ofNat n
          ++ (if n = 1 then " argument" else " arguments").toList
          ++ (if recursive then " recursively? " else "? ").toList
        if !(← agreed question) then return 0
      forEach a.operands (r.remove name)

def unlink : Utility := withOptions [] fun name a => do
  match a.operands with
  | [] => misused name "missing operand".toList 1
  | _ :: extra :: _ => misused name ("extra operand ".toList ++ Quoting.plain extra) 1
  | [path] =>
    forEach [path] fun path => do
      match ← entry? path with
      | .ok (_, .folder _) => cannot name "cannot unlink" path .isFolder
      | .ok (place, _) =>
        eraseNode place
        return true
      | .error e => cannot name "cannot unlink" path e

/-! ### Times and sizes -/

/-- The date now. -/
def momentNow : Shell Calendar.Moment := do
  let t := now (← get)
  return Calendar.Moment.ofSeconds (t.fdiv 1000) ((t % 1000).toNat * 1000000)

/-- The time in milliseconds that options give to files; the error is a text that is none. -/
def givenTime (a : Arguments) : Shell (Except Bytes (Option Int)) := do
  let today ← momentNow
  match a.value? 'd', a.value? 't' with
  | some text, _ =>
    match Calendar.read? today text with
    | some (s, nano) => return .ok (some (s * 1000 + nano / 1000000))
    | none => return .error text
  | none, some text =>
    match Calendar.ofDigits? today text with
    | some s => return .ok (some (s * 1000))
    | none => return .error text
  | none, none => return .ok none

def touch : Utility :=
  withOptions ([flag 'c' ["no-create"], setting 'd' ["date"], setting 'r' ["reference"],
    setting 't' [], setting 'T' ["time"], flag 'h' ["no-dereference"]] ++ switches "amf")
    fun name a => do
      let setTime (path : Bytes) (time : Option Int) : Shell Unit := do
        if let .ok place ← locate path then
          modify fun m => changedTo place (time.getD (now m)) m
      let time ← match ← givenTime a with
        | .error text =>
          utilityError name ("invalid date format ".toList ++ Quoting.plain text)
          return 1
        | .ok t => pure t
      let time ← match a.value? 'r' with
        | none => pure time
        | some path =>
          match ← target? path with
          | .ok (place, _) => pure (time.or (some (changedAt (← get) place)))
          | .error e =>
            let _ ← cannot name "failed to get attributes of" path e
            return 1
      if a.operands.isEmpty then misused name "missing file operand".toList 1
      else forEach a.operands fun path => do
        if path = ['-'] then return true
        match ← nodeAt? path with
        | .ok _ =>
          setTime path time
          return true
        | .error .noEntry =>
          if a.has 'c' then return true
          match ← openToWrite path false true with
          | .ok _ =>
            setTime path time
            return true
          | .error e => cannot name "cannot touch" path e
        | .error e => cannot name "cannot touch" path e

/-- How a size follows from another one. -/
structure Resizing where
  mark : Option Char
  size : Nat

/-- What a text says about a size. -/
def Resizing.read (text : Bytes) : Except Amount.Fault Resizing := do
  let (mark, rest) := match text with
    | c :: r => if "+-<>/%".toList.contains c then (some c, r) else (none, text)
    | [] => (none, [])
  let limit := if mark = some '-' then Amount.offsetLimit + 1 else Amount.offsetLimit
  return ⟨mark, ← Amount.upTo limit rest⟩

/-- The new size. -/
def Resizing.from (r : Resizing) (old : Nat) : Nat :=
  match r.mark with
  | some '+' => old + r.size
  | some '-' => old - r.size
  | some '<' => min old r.size
  | some '>' => max old r.size
  | some '/' => old / r.size * r.size
  | some '%' => (old + r.size - 1) / r.size * r.size
  | _ => r.size

/-- Give a file a size. -/
def resize (name path : Bytes) (place : Place) (goal : Nat) : Shell Bool := do
  if fileLimit < goal then
    utilityError name ("failed to truncate ".toList ++ Quoting.always path ++ " at ".toList
      ++ Bytes.ofNat goal ++ " bytes: ".toList ++ reasonText .tooBig)
    return false
  let m ← get
  let old := (m.tree.contentAt place).toOption.getD .empty
  let new := old.extract 0 goal ++ Bytes.zeros (goal - old.size)
  set (touched place { m with tree := m.tree.put (.file new) place })
  return true

def truncate : Utility :=
  withOptions [flag 'c' ["no-create"], flag 'o' ["io-blocks"], setting 'r' ["reference"],
    setting 's' ["size"]] fun name a => do
      let resizing ← match (a.value? 's').map fun text => (text, Resizing.read text) with
        | none => pure none
        | some (_, .ok r) =>
          if r.size = 0 && (r.mark = some '/' || r.mark = some '%') then
            utilityError name "division by zero".toList
            return 1
          pure (some r)
        | some (text, .error fault) =>
          utilityError name ("Invalid number: ".toList ++ Quoting.plain text ++ fault.note)
          return 1
      if resizing.isNone && !a.has 'r' then
        return ← misused name ("you must specify either ".toList ++ Quoting.plain "--size".toList
          ++ " or ".toList ++ Quoting.plain "--reference".toList) 1
      if a.operands.isEmpty then return ← misused name "missing file operand".toList 1
      let base ← match a.value? 'r' with
        | none => pure none
        | some path =>
          match ← nodeAt? path with
          | .ok node => pure (some (Listing.sizeOf node))
          | .error e =>
            let _ ← cannot name "cannot stat" path e
            return 1
      forEach a.operands fun path => do
        let refuse (e : OsError) : Shell Bool := do
          utilityError name ("cannot open ".toList ++ Quoting.always path ++ " for writing: ".toList
            ++ reasonText e)
          return false
        match ← nodeAt? path with
        | .ok (.folder _) => return ← refuse .isFolder
        | .error .noEntry => if a.has 'c' then return true
        | .error e => return ← refuse e
        | .ok _ => pure ()
        match ← openToWrite path false true with
        | .error e => refuse e
        | .ok _ =>
          match ← locate path with
          | .error e => refuse e
          | .ok place =>
            let size := base.getD ((← get).tree.contentAt place |>.toOption |>.getD .empty).size
            let goal := match resizing with
              | some r => r.from size
              | none => size
            if Amount.offsetLimit < goal then
              utilityError name ("overflow extending size of file ".toList ++ Quoting.plain path)
              return false
            resize name path place goal

/-! ### Special files -/

def mkfifo : Utility := withOptions [setting 'm' ["mode"], flag 'Z' []] fun name a => do
  if a.operands.isEmpty then return ← misused name "missing operand".toList 1
  forEach a.operands fun path => do
    let m ← get
    match m.tree.locateEntry m.cwd (Bytes.toList path) with
    | .error e => cannot name "cannot create fifo" path e
    | .ok place =>
      if (m.tree.at? place).isSome then cannot name "cannot create fifo" path .present
      else
        createNode (.special .pipe) place
        return true

/-- The letters of a name that is made up, which changes with every name. -/
def madeUp (seed count : Nat) : Bytes :=
  let letters := "abcdefghijklmnopqrstuvwxyzABCDEFGHIJKLMNOPQRSTUVWXYZ0123456789".toList
  (List.range count).map fun i =>
    letters.getD ((seed * 7919 + i * 104729 + seed / (i + 1)) % 62) 'x'

def suffixLetter : Char := Char.ofNat 256

def mktemp : Utility :=
  withOptions [flag 'd' ["directory"], flag 'u' ["dry-run"], flag 'q' ["quiet"],
    setting 'p' [], variant 'P' ["tmpdir"], flag 't' [], setting suffixLetter ["suffix"]]
    fun name a => do
      if 1 < a.operands.length then return ← misused name "too many templates".toList 1
      let given := a.operands.head?
      let template := given.getD "tmp.XXXXXXXXXX".toList
      let suffix := (a.value? suffixLetter).getD []
      let back := template.reverse
      let (ending, back) := if a.has suffixLetter then ([], back)
        else ((back.takeWhile (· != 'X')).reverse, back.dropWhile (· != 'X'))
      let ending := if template.contains 'X' then ending else []
      let holes := (back.takeWhile (· == 'X')).length
      if holes < 3 then
        utilityError name ("too few X's in template ".toList ++ Quoting.plain template)
        return 1
      let stem := (back.drop holes).reverse
      let m ← get
      let temporary := (← valueOf? "TMPDIR".toList).getD "/tmp".toList
      let folder := match a.value? 'p', a.value? 'P' with
        | some f, _ | none, some f => some (if f.isEmpty then temporary else f)
        | none, none => if a.has 't' || given.isNone then some temporary else none
      let file := stem ++ madeUp (m.processes + m.modes.length + m.changes.length * 31) holes
        ++ ending ++ suffix
      let path := match folder with
        | some f => inFolder f file
        | none => file
      let shown := match folder with
        | some f => inFolder f (template ++ suffix)
        | none => template ++ suffix
      if a.has 'u' then
        write 1 (path ++ ['\n'])
        return 0
      let made ← if a.has 'd' then makeFolder path (some 0o700)
        else do
          match ← openToWrite path false true with
          | .ok _ => pure (.ok ())
          | .error e => pure (.error e)
      match made with
      | .ok () =>
        if !a.has 'd' then
          if let .ok place ← locate path then setMode place 0o600
        write 1 (path ++ ['\n'])
        return 0
      | .error e =>
        unless a.has 'q' do
          utilityError name ((if a.has 'd' then "failed to create directory via template "
            else "failed to create file via template ").toList ++ Quoting.always shown
            ++ ": ".toList ++ reasonText e)
        return 1

/-! ### Permissions -/

def referenceLetter : Char := Char.ofNat 256

def modeForms : List OptionForm :=
  [flag 'R' ["recursive"], flag 'v' ["verbose"], flag 'c' ["changes"],
   flag 'f' ["silent", "quiet"], setting referenceLetter ["reference"],
   flag rootLetter ["preserve-root", "no-preserve-root"]]

/-- Is an argument a change of permissions that begins with a dash? -/
def isModeChange (s : Bytes) : Bool :=
  match s with
  | '-' :: c :: r => (c :: r).all fun c => "rwxXstugo,=+-01234567".toList.contains c
  | _ => false

/-- Permissions as messages show them. -/
def modeText (mode : Nat) : Bytes :=
  Mode.shown 4 mode ++ " (".toList ++ Mode.lettersOf mode ++ [')']

/-- Change the permissions of what is at a place, and tell of it. -/
def changeMode (a : Arguments) (change : Bool → Nat → Option Nat) (path : Bytes) (place : Place)
    (node : FileTree) : Shell Unit := do
  let old := modeAt (← get) place
  if let some new := change node.isFolder old then
    setMode place new
    let told := a.last? "vc"
    if new != old && told.isSome then
      write 1 ("mode of ".toList ++ Quoting.always path ++ " changed from ".toList
        ++ modeText old ++ " to ".toList ++ modeText new ++ ['\n'])
    else if told = some 'v' then
      write 1 ("mode of ".toList ++ Quoting.always path ++ " retained as ".toList
        ++ modeText old ++ ['\n'])

def chmod : Utility := fun name args =>
  let dashed := args.find? isModeChange
  let args := if dashed.isSome then args.filter (some · != dashed) else args
  withOptions modeForms (fun name a => do
    let operands := match dashed with
      | some s => s :: a.operands
      | none => a.operands
    let mask := (← get).mask
    let (text, paths) ← match a.value? referenceLetter, operands with
      | some path, operands =>
        match ← target? path with
        | .ok (place, _) => pure (Mode.shown 4 (modeAt (← get) place), operands)
        | .error e =>
          let _ ← cannot name "failed to get attributes of" path e
          return 1
      | none, [] => return ← misused name "missing operand".toList 1
      | none, text :: paths => pure (text, paths)
    if paths.isEmpty then
      return ← misused name
        (if (a.value? referenceLetter).isSome then "missing operand".toList
          else "missing operand after ".toList ++ Quoting.plain text) 1
    if (Mode.change? text false mask 0).isNone then
      return ← misused name ("invalid mode: ".toList ++ Quoting.plain text) 1
    let change (isFolder : Bool) (old : Nat) : Option Nat := Mode.change? text isFolder mask old
    forEach paths fun path => do
      match ← target? path with
      | .error e =>
        if a.has 'f' then return false
        match ← entry? path with
        | .ok (_, .link _) =>
          utilityError name ("cannot operate on dangling symlink ".toList ++ Quoting.always path)
          return false
        | _ => cannot name "cannot access" path e
      | .ok (place, node) =>
        changeMode a change path place node
        if a.has 'R' then
          ((pathsFrom path node).drop 1).forM fun (p, n) => do
            if let .ok (place, _) ← entry? p then
              match n with
              | .link _ => return ()
              | n => changeMode a change p place n
        return true) name args

/-- The names of those who may own a file. -/
def ownerNames : List String := ["root", "0", "daemon", "bin", "sys", "nobody", "www-data"]

/-- Files may be given to others, which changes nothing that can be seen. -/
def chown (what : String) : Utility :=
  withOptions (modeForms ++ switches "hHLP") fun name a => do
    match a.operands with
    | [] => misused name "missing operand".toList 1
    | [owner] => misused name ("missing operand after ".toList ++ Quoting.plain owner) 1
    | owner :: paths =>
      let parts := Bytes.splitAt ':' owner
      let known (s : Bytes) : Bool := s.isEmpty || s.all Char.isDigit
        || ownerNames.contains (String.ofList s)
      if !(known (parts.headD [])) then
        utilityError name ("invalid ".toList ++ what.toList ++ ": ".toList ++ Quoting.plain owner)
        return 1
      else if !(known (parts.getD 1 [])) then
        utilityError name ("invalid group: ".toList ++ Quoting.plain owner)
        return 1
      else forEach paths fun path => do
        match ← target? path with
        | .ok _ => return true
        | .error e => cannot name "cannot access" path e

end SvgSkeleton.Shell
