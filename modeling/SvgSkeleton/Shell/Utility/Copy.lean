import SvgSkeleton.Shell.Utility.Files

/-!
`cp`, `mv`, `ln`, `link` and `install`: files that are put elsewhere, under their name or another.
-/

namespace SvgSkeleton.Shell.Copying

/-! ### Sources and targets -/

def targetLetter : Char := Char.ofNat 256
def backupLetter : Char := Char.ofNat 257
def parentsLetter : Char := Char.ofNat 258
def removeLetter : Char := Char.ofNat 259
def stripLetter : Char := Char.ofNat 260
def onlyLetter : Char := Char.ofNat 261
def updateLetter : Char := Char.ofNat 262

/-- What a call is about: the sources, and the folder or the file that they go to. -/
structure Goal where
  sources : List Bytes
  target : Bytes
  /-- Do the sources keep their names in the target? -/
  inside : Bool

/-- The words for an error of access to a target. -/
def targetFault (name target : Bytes) (e : OsError) : Shell Unit :=
  utilityError name ("target ".toList ++ Quoting.always target ++ ": ".toList ++ reasonText e)

/-- Sort out sources and targets; without a result it has been complained about. -/
def goalOf? (name : Bytes) (a : Arguments) : Shell (Option Goal) := do
  let operands := a.operands
  match a.value? 't' with
  | some target =>
    if operands.isEmpty then
      let _ ← misused name "missing file operand".toList 1
      return none
    match ← nodeAt? target with
    | .ok (.folder _) => return some ⟨operands, target, true⟩
    | .ok _ =>
      targetFault name target .notFolder
      return none
    | .error e =>
      targetFault name target e
      return none
  | none =>
    match operands.reverse with
    | [] =>
      let _ ← misused name "missing file operand".toList 1
      return none
    | [path] =>
      let _ ← misused name ("missing destination file operand after ".toList
        ++ Quoting.always path) 1
      return none
    | target :: sources =>
      if a.has 'T' then
        match operands with
        | _ :: _ :: extra :: _ =>
          let _ ← misused name ("extra operand ".toList ++ Quoting.always extra) 1
          return none
        | _ => return some ⟨sources.reverse, target, false⟩
      else
        let isFolder ← leadsToFolder target
        if 1 < sources.length && !isFolder then
          targetFault name target (match ← nodeAt? target with
            | .error e => e
            | .ok _ => .notFolder)
          return none
        return some ⟨sources.reverse, target, isFolder⟩

/-- The path that a source goes to. -/
def Goal.pathFor (g : Goal) (source : Bytes) : Bytes :=
  if g.inside then inFolder g.target (lastName source) else g.target

/-! ### Backups -/

/-- How what is in the way is kept. -/
inductive Backup where
  | never
  | simple (suffix : Bytes)
  | numbered
  /-- By a number if there are such already. -/
  | existing (suffix : Bytes)
  deriving DecidableEq

def backupOf (a : Arguments) : Backup :=
  let suffix := (a.value? 'S').getD ['~']
  match a.value? backupLetter, a.has 'b' || a.has 'S' with
  | some kind, _ =>
    if kind = ['t'] || "numbered".toList.isPrefixOf kind && !kind.isEmpty then .numbered
    else if kind = "none".toList || kind = "off".toList then .never
    else if "never".toList.isPrefixOf kind || "simple".toList.isPrefixOf kind then
      (if kind.isEmpty then .existing suffix else .simple suffix)
    else .existing suffix
  | none, true => .existing suffix
  | none, false => .never

/-- The path of the backup with a number, and of the next one that is not there yet. -/
def numberedPath (path : Bytes) (n : Nat) : Bytes :=
  path ++ ".~".toList ++ Bytes.ofNat n ++ ['~']

def nextNumbered (path : Bytes) : Nat → Nat → Shell Bytes
  | 0, n => return numberedPath path n
  | fuel + 1, n => do
    match ← entry? (numberedPath path n) with
    | .ok _ => nextNumbered path fuel (n + 1)
    | .error _ => return numberedPath path n

/-- The most backups that are looked for. -/
def mostBackups : Nat := 1000

/-- The path under which what is at a path is kept. -/
def Backup.pathFor (b : Backup) (path : Bytes) : Shell (Option Bytes) := do
  match b with
  | .never => return none
  | .simple suffix => return some (path ++ suffix)
  | .numbered => return some (← nextNumbered path mostBackups 1)
  | .existing suffix =>
    match ← entry? (numberedPath path 1) with
    | .ok _ => return some (← nextNumbered path mostBackups 1)
    | .error _ => return some (path ++ suffix)

/-- Keep what is at a path; the result is where it is kept. -/
def Backup.keep (b : Backup) (path : Bytes) : Shell (Option Bytes) := do
  match ← entry? path, ← b.pathFor path with
  | .ok (place, _), some kept =>
    let m ← get
    match m.tree.locateEntry m.cwd (Bytes.toList kept) with
    | .ok goal =>
      moveNode place goal
      return some kept
    | .error _ => return none
  | _, _ => return none

/-- The words for a step, with what was kept. -/
def stepText (source target : Bytes) (kept : Option Bytes) : Bytes :=
  Quoting.always source ++ " -> ".toList ++ Quoting.always target ++ match kept with
    | some path => " (backup: ".toList ++ Quoting.always path ++ [')']
    | none => []

/-! ### `cp` -/

/-- How things are copied. -/
structure Style where
  recursive : Bool
  /-- Are links copied as such? -/
  keepsLinks : Bool
  keepsModes : Bool
  keepsTimes : Bool
  forced : Bool
  asks : Bool
  spares : Bool
  newer : Bool
  tells : Bool
  hardLinks : Bool
  softLinks : Bool
  removes : Bool
  backup : Backup

/-- Complain that one thing cannot be done to two paths. -/
def cannotBoth (name : Bytes) (what : String) (a : Bytes) (between : String) (b : Bytes)
    (after : String) : Shell Bool := do
  utilityError name (what.toList ++ Quoting.always a ++ between.toList ++ Quoting.always b
    ++ after.toList)
  return false

/-- Do two paths lead to one place? -/
def sameFile (a b : Bytes) : Shell Bool := do
  match ← locate a, ← locate b with
  | .ok p, .ok q => return p == q
  | _, _ => return false

/-- The paths of a folder's entries, from a path on. -/
def childrenOf (path : Bytes) (entries : List (FileName × FileTree)) :
    List (Bytes × FileTree) :=
  entries.map fun e => (inFolder path (Bytes.ofList e.1), e.2)

/-- Give a new file the permissions and the time of another one. -/
def Style.copyState (style : Style) (source goal : Place) (isNew : Bool) : Shell Unit := do
  let m ← get
  let mode := modeAt m source
  if style.keepsModes then setMode goal mode
  else if isNew then setMode goal (masked mode m.mask)
  if style.keepsTimes then modify (changedTo goal (changedAt m source))

/-- Copy a file or a link to a path that names no folder. -/
def Style.copyFile (style : Style) (name source target : Bytes) (place : Place)
    (node : FileTree) : Shell Bool := do
  let m ← get
  match m.tree.locateEntry m.cwd (Bytes.toList target) with
  | .error e => cannot name "cannot create regular file" target e
  | .ok goal =>
    let existing := m.tree.at? goal
    if existing.isSome && style.spares then
      if style.tells then return true
      return true
    if existing.isSome && style.newer && changedAt m place ≤ changedAt m goal then return true
    if existing.isSome && style.asks then
      if !(← agreed (name ++ ": overwrite ".toList ++ Quoting.always target ++ "? ".toList)) then
        return false
    let kept ← if existing.isSome then style.backup.keep target else pure none
    if style.tells then write 1 (stepText source target kept ++ ['\n'])
    if style.removes && kept.isNone && existing.isSome then
      eraseNode goal
      if style.tells then write 1 ("removed ".toList ++ Quoting.always target ++ ['\n'])
    if style.softLinks then
      if existing.isSome && kept.isNone then
        if style.forced then eraseNode goal
        else
          return ← cannotBoth name "cannot create symbolic link " target " to " source
            ": File exists"
      createNode (.link (Bytes.toList source)) goal
      return true
    let existing := (← get).tree.at? goal
    match node, existing with
    | .link _, _ =>
      createNode node goal
      return true
    | .special .pipe, none =>
      createNode node goal
      return true
    | node, existing =>
      match existing with
      | some (.link _) =>
        if (← nodeAt? target).toOption.isNone then
          utilityError name ("not writing through dangling symlink ".toList
            ++ Quoting.always target)
          return false
      | _ => pure ()
      match ← (match node with
        | .file content => pure (Except.ok (Bytes.ofByteArray content))
        | _ => readFile source) with
      | .error e => cannot name "cannot open" source e
      | .ok content =>
        match ← putFile target false content with
        | .error .isFolder =>
          if target.getLast? = some '/' then
            cannot name "cannot create regular file" target .notFolder
          else cannot name "cannot create regular file" target .isFolder
        | .error e => cannot name "cannot create regular file" target e
        | .ok () =>
          let goal := match ← locate target with
            | .ok p => p
            | .error _ => goal
          style.copyState place goal existing.isNone
          return true

/-- Copy what is at a path to another one. The depth of folders is bounded; is the source an operand
of the call? -/
def Style.copy (style : Style) (name : Bytes) (top : Place) :
    Nat → Bool → Bytes → Bytes → Shell Bool
  | 0, _, _, _ => return false
  | fuel + 1, isOperand, source, target => do
    let found ← if style.keepsLinks then entry? source else target? source
    match found with
    | .error e => cannot name "cannot stat" source e
    | .ok (place, node) =>
      match node with
      | .folder _ =>
        if !style.recursive then
          utilityError name ("-r not specified; omitting directory ".toList
            ++ Quoting.always source)
          return false
        let m ← get
        match m.tree.locateEntry m.cwd (Bytes.toList target) with
        | .error e => cannot name "cannot create directory" target e
        | .ok goal =>
          if isOperand && place.isPrefixOf goal then
            if place = goal then
              return ← cannotBoth name "" source " and " target " are the same file"
            return ← cannotBoth name "cannot copy a directory, " source ", into itself, " target ""
          let existing ← nodeAt? target
          match existing with
          | .ok (.folder _) => pure ()
          | .ok _ =>
            return ← cannotBoth name "cannot overwrite non-directory " target " with directory "
              source ""
          | .error _ =>
            createNode (.folder []) goal
            if style.tells then write 1 (stepText source target none ++ ['\n'])
          if place = top then return true
          let entries := match (← get).tree.at? place with
            | some (.folder entries) => entries
            | _ => []
          let outcomes ← (childrenOf source entries).mapM fun (path, _) =>
            style.copy name top fuel false path (inFolder target (lastName path))
          if existing.toOption.isNone then style.copyState place goal true
          return outcomes.all id
      | node =>
        let existing ← nodeAt? target
        if let .ok (.folder _) := existing then
          utilityError name ("cannot overwrite directory ".toList ++ Quoting.always target
            ++ " with non-directory".toList)
          return false
        if ← sameFile source target then
          if style.backup = .never && !style.spares then
            return ← cannotBoth name "" source " and " target " are the same file"
        style.copyFile name source target place node

def cpForms : List OptionForm :=
  [flag 'a' ["archive"], flag 'b' [], variant backupLetter ["backup"], flag 'd' [],
   flag 'f' ["force"], flag 'i' ["interactive"], flag 'H' [], flag 'l' ["link"],
   flag 'L' ["dereference"], flag 'n' ["no-clobber"], flag 'P' ["no-dereference"],
   flag 'p' [],
   variant onlyLetter ["preserve", "no-preserve", "sparse", "reflink", "attributes-only"],
   flag parentsLetter ["parents"], flag 'R' ["recursive"], flag 'r' [],
   flag removeLetter ["remove-destination"], flag 's' ["symbolic-link"],
   setting 'S' ["suffix"], setting 't' ["target-directory"], flag 'T' ["no-target-directory"],
   flag 'u' [], variant updateLetter ["update"], flag 'v' ["verbose"],
   flag 'x' ["one-file-system"], flag 'Z' [], flag stripLetter ["strip-trailing-slashes"]]

/-- Does the value of an option say that nothing is overwritten, and that only older files are? -/
def updates (a : Arguments) : Bool × Bool :=
  match a.value? updateLetter with
  | some text => (text = "none".toList, text.isEmpty || text = "older".toList)
  | none => (false, a.has 'u')

def styleOf (a : Arguments) : Style :=
  let recursive := a.has 'r' || a.has 'R' || a.has 'a'
  let (spared, older) := updates a
  let follows := a.last? "LPdaH"
  let keepsLinks := match follows with
    | some 'L' => false
    | some 'H' => recursive
    | some _ => true
    | none => recursive || a.has 's' && false
  { recursive := recursive
    keepsLinks := keepsLinks
    keepsModes := a.has 'p' || a.has 'a' || a.has onlyLetter
    keepsTimes := a.has 'p' || a.has 'a' || a.has onlyLetter
    forced := a.has 'f'
    asks := a.last? "inf" = some 'i'
    spares := a.last? "in" = some 'n' || spared
    newer := older
    tells := a.has 'v'
    hardLinks := a.has 'l'
    softLinks := a.has 's'
    removes := a.has removeLetter
    backup := backupOf a }

/-- Copy with the folders on the way to the source made below the target. -/
def copyWithParents (style : Style) (name : Bytes) (top : Place) (target source : Bytes) :
    Shell Bool := do
  let goal := inFolder target source
  let ways := (waysTo source).dropLast
  let made ← ways.mapM fun way => do
    let path := inFolder target way
    if ← leadsToFolder path then return true
    match ← makeFolder path none with
    | .ok () =>
      if style.tells then write 1 (way ++ " -> ".toList ++ path ++ ['\n'])
      return true
    | .error e => cannot name "cannot make directory" path e
  if made.all id then style.copy name top 4096 true source goal else return false

def cp : Utility := withOptions cpForms fun name a => do
  if a.last? "in" = some 'n' then
    utilityError name ("warning: behavior of -n is non-portable and may change in future; ".toList
      ++ "use --update=none instead".toList)
  if a.has parentsLetter then
    let target := (a.value? 't').getD (a.operands.getLast?.getD [])
    if 1 < a.operands.length && !(← leadsToFolder target) then
      return ← misused name "with --parents, the destination must be a directory".toList 1
  match ← goalOf? name a with
  | none => return 1
  | some goal =>
    let style := styleOf a
    let top := match ← locate goal.target with
      | .ok p => p
      | .error _ => [[]]
    let rec go : List Bytes → List Bytes → Shell (List Bool)
      | _, [] => return []
      | seen, source :: rest => do
        let path := goal.pathFor source
        let ok ←
          if seen.contains source && !style.spares then
            if (← target? source).toOption.any (·.2.isFolder) && !style.recursive then
              style.copy name top 4096 true source path
            else do
              utilityError name ("warning: source ".toList
                ++ (if (← leadsToFolder source) then "directory " else "file ").toList
                ++ Quoting.always source ++ " specified more than once".toList)
              pure true
          else if a.has parentsLetter then
            copyWithParents style name top goal.target source
          else if seen.any (fun s => goal.pathFor s == path) && goal.inside
              && (← target? source).toOption.any (!·.2.isFolder) then
            cannotBoth name "will not overwrite just-created " path " with " source ""
          else if style.hardLinks && !(← leadsToFolder source) then do
            match ← target? source with
            | .error e => cannot name "cannot stat" source e
            | .ok (place, node) => style.copyFile name source path place node
          else style.copy name top 4096 true source path
        return ok :: (← go (source :: seen) rest)
    let outcomes ← go [] goal.sources
    return if outcomes.all id then 0 else 1

/-! ### `mv` -/

def mvForms : List OptionForm :=
  [flag 'b' [], variant backupLetter ["backup"], flag 'f' ["force"], flag 'i' ["interactive"],
   flag 'n' ["no-clobber"], setting 'S' ["suffix"], setting 't' ["target-directory"],
   flag 'T' ["no-target-directory"], flag 'u' [], variant updateLetter ["update"],
   flag 'v' ["verbose"], flag 'Z' [], flag stripLetter ["strip-trailing-slashes"],
   flag onlyLetter ["no-copy"]]

/-- Move what is at a path to another one. -/
def move (a : Arguments) (backup : Backup) (name source target : Bytes) : Shell Bool := do
  match ← entry? source with
  | .error e => cannot name "cannot stat" source e
  | .ok (place, node) =>
    let m ← get
    let (spared, older) := updates a
    let forbid (e : OsError) : Shell Bool :=
      cannotBoth name "cannot move " source " to " target (": " ++ e.text)
    match m.tree.locateEntry m.cwd (Bytes.toList target) with
    | .error e => forbid e
    | .ok goal =>
      let existing := m.tree.at? goal
      if target.getLast? = some '/' && existing.isNone && !node.isFolder then
        return ← forbid .notFolder
      if goal = place then
        return ← cannotBoth name "" source " and " target " are the same file"
      if existing.isSome && (a.last? "inf" = some 'n' || spared) then return true
      if existing.isSome && older && changedAt m place ≤ changedAt m goal then return true
      if existing.isSome && a.last? "inf" = some 'i' then
        if !(← agreed (name ++ ": overwrite ".toList ++ Quoting.always target ++ "? ".toList)) then
          return false
      if place.isPrefixOf goal then
        return ← cannotBoth name "cannot move " source " to a subdirectory of itself, " target ""
      match node, existing with
      | .folder _, some (.folder entries) =>
        if !entries.isEmpty && backup = .never then
          return ← cannot name "cannot overwrite" target .notEmpty
      | .folder _, some _ =>
        if backup = .never then
          return ← cannotBoth name "cannot overwrite non-directory " target " with directory "
            source ""
      | _, some (.folder _) =>
        if backup = .never then
          utilityError name ("cannot overwrite directory ".toList ++ Quoting.always target
            ++ " with non-directory".toList)
          return false
      | _, _ => pure ()
      let kept ← if existing.isSome then backup.keep target else pure none
      moveNode place goal
      if a.has 'v' then write 1 ("renamed ".toList ++ stepText source target kept ++ ['\n'])
      return true

def mv : Utility := withOptions mvForms fun name a => do
  match ← goalOf? name a with
  | none => return 1
  | some goal =>
    forEach goal.sources fun source => move a (backupOf a) name source (goal.pathFor source)

/-! ### `ln` -/

def lnForms : List OptionForm :=
  [flag 's' ["symbolic"], flag 'f' ["force"], flag 'n' ["no-dereference"],
   flag 'T' ["no-target-directory"], setting 't' ["target-directory"], flag 'v' ["verbose"],
   flag 'r' ["relative"], flag 'i' ["interactive"], flag 'b' [],
   variant backupLetter ["backup"], setting 'S' ["suffix"], flag 'L' ["logical"],
   flag 'P' ["physical"], flag 'd' ["directory"], flag 'F' []]

/-- Make a link. -/
def makeLink (a : Arguments) (name source target : Bytes) : Shell Bool := do
  let soft := a.has 's'
  let m ← get
  let what := if soft then "failed to create symbolic link" else "failed to create hard link"
  if !soft then
    match ← entry? source with
    | .error e => return ← cannot name "failed to access" source e
    | .ok (_, .folder _) =>
      utilityError name (Quoting.ifNeeded source ++ ": hard link not allowed for directory".toList)
      return false
    | .ok _ => pure ()
  match m.tree.locateEntry m.cwd (Bytes.toList target) with
  | .error e =>
    if soft then cannot name what target e
    else cannotBoth name "failed to create hard link " target " => " source (": " ++ e.text)
  | .ok place =>
    let existing := m.tree.at? place
    if existing.isSome && (a.has 'f' || backupOf a != .never) && !soft
        && (← sameFile source target) then
      return ← cannotBoth name "" source " and " target " are the same file"
    if existing.isSome && a.last? "if" = some 'i' then
      if !(← agreed (name ++ ": replace ".toList ++ Quoting.always target ++ "? ".toList)) then
        return true
    let kept ← if existing.isSome then (backupOf a).keep target else pure none
    let replaced := a.has 'f' || a.has 'i' || kept.isSome
    if existing.isSome && !replaced then return ← cannot name what target .present
    if existing.any (·.isFolder) && kept.isNone then
      utilityError name (Quoting.always target ++ ": cannot overwrite directory".toList)
      return false
    let goal ← if soft && a.has 'r' then do
        match ← canonicalPlace .nothing source, ← canonicalPlace .nothing (folderOf target) with
        | .ok p, .ok folder => pure (relativePath folder p)
        | _, _ => pure source
      else pure source
    let tells := a.has 'v'
    if soft then
      createNode (.link (Bytes.toList goal)) place
      if tells then write 1 (stepText target goal kept ++ ['\n'])
      return true
    else
      match ← entry? source with
      | .ok (origin, node) =>
        let mode := modeAt (← get) origin
        createNode node place
        setMode place mode
        modify fun m => changedTo place (changedAt m origin) m
        if tells then
          write 1 (Quoting.always target ++ " => ".toList ++ Quoting.always source ++ ['\n'])
        return true
      | .error e => cannot name "failed to access" source e

def ln : Utility := withOptions lnForms fun name a => do
  let plain := a.has 'T' || (a.has 'n' && a.operands.length = 2
    && (← do
      match ← entry? (a.operands.getLast?.getD []) with
      | .ok (_, .link _) => pure true
      | _ => pure false))
  match a.value? 't', a.operands with
  | none, [] => misused name "missing file operand".toList 1
  | none, [path] => do
    if a.has 'T' then
      misused name ("missing destination file operand after ".toList ++ Quoting.always path) 1
    else forEach [path] fun path => makeLink a name path (inFolder ['.'] (lastName path) |>.drop 2)
  | _, _ =>
    let options := if plain then ('T', []) :: a.options else a.options
    match ← goalOf? name { a with options := options } with
    | none => return 1
    | some goal => forEach goal.sources fun source => makeLink a name source (goal.pathFor source)

def link : Utility := withOptions [] fun name a => do
  match a.operands with
  | [] => misused name "missing operand".toList 1
  | [path] => misused name ("missing operand after ".toList ++ Quoting.plain path) 1
  | [source, target] =>
    let forbid (e : OsError) : Shell Nat := do
      let _ ← cannotBoth name "cannot create link " target " to " source (": " ++ e.text)
      return 1
    let m ← get
    match ← entry? source, m.tree.locateEntry m.cwd (Bytes.toList target) with
    | .error e, _ | _, .error e => forbid e
    | .ok (_, .folder _), _ => forbid (.other "Operation not permitted")
    | .ok (_, node), .ok place =>
      if (m.tree.at? place).isSome then forbid .present
      else
        createNode node place
        return 0
  | _ :: _ :: extra :: _ => misused name ("extra operand ".toList ++ Quoting.plain extra) 1

/-! ### `install` -/

def installForms : List OptionForm :=
  [flag 'd' ["directory"], flag 'D' [], setting 'm' ["mode"], setting 'o' ["owner"],
   setting 'g' ["group"], flag 'v' ["verbose"], setting 't' ["target-directory"],
   flag 'T' ["no-target-directory"], flag 'p' ["preserve-timestamps"], flag 'C' ["compare"],
   flag 'c' [], flag 's' ["strip"], flag 'b' [], variant backupLetter ["backup"],
   setting 'S' ["suffix"]]

def install : Utility := withOptions installForms fun name a => do
  let text := (a.value? 'm').getD "755".toList
  match Mode.change? text false 0 0 with
  | none =>
    utilityError name ("invalid mode ".toList ++ Quoting.plain text)
    return 1
  | some mode =>
    let tell (path : Bytes) : Shell Unit :=
      if a.has 'v' then
        write 1 (name ++ ": creating directory ".toList ++ Quoting.always path ++ ['\n'])
      else return ()
    if a.has 'd' then
      if a.operands.isEmpty then return ← misused name "missing file operand".toList 1
      return ← forEach a.operands fun path => do
        match ← makeWay path (some mode) tell with
        | .ok () => return true
        | .error (way, e) => cannot name "cannot create directory" way e
    if a.has 'D' then
      let folder := match a.value? 't', a.operands with
        | some t, _ => some t
        | none, [_, target] => some (folderOf target)
        | none, _ => none
      if let some folder := folder then
        let _ ← makeWay folder none tell
    match ← goalOf? name a with
    | none => return 1
    | some goal =>
      forEach goal.sources fun source => do
        let target := goal.pathFor source
        match ← target? source with
        | .error e => cannot name "cannot stat" source e
        | .ok (_, .folder _) =>
          utilityError name ("omitting directory ".toList ++ Quoting.always source)
          return false
        | .ok (place, _) =>
          match ← readFile source with
          | .error e => cannot name "cannot open" source e
          | .ok content =>
            if ← sameFile source target then
              return ← cannotBoth name "" source " and " target " are the same file"
            let existing ← entry? target
            let kept ← (backupOf a).keep target
            if existing.toOption.isSome && kept.isNone then
              if let .ok (goal, _) := existing then eraseNode goal
              if a.has 'v' then write 1 ("removed ".toList ++ Quoting.always target ++ ['\n'])
            match ← putFile target false content with
            | .error e => cannot name "cannot create regular file" target e
            | .ok () =>
              if a.has 'v' then write 1 (stepText source target kept ++ ['\n'])
              if let .ok goal ← locate target then
                setMode goal mode
                if a.has 'p' then modify fun m => changedTo goal (changedAt m place) m
              return true

end SvgSkeleton.Shell.Copying
