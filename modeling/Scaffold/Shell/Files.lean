/-
Commands on files and folders.

* `Options.read` takes the options of a command apart from its operands;
* the commands list, make, copy, move and remove what is at paths, one operand after
  the other, and the greatest status of an operand is their own.
-/
import Scaffold.Shell.Session

namespace Scaffold.Shell

open Text

/-! ### Operands -/

/-- How a command refuses its arguments. -/
def refused (name : String) (status : Nat) (reason : String) : ShellM Nat :=
  failed status s!"{name}: {reason}\nTry '{name} --help' for more information."

/-- The letters of options and the operands of a command. -/
structure Options where
  letters : List Char
  operands : List String
  deriving Repr

namespace Options

/-- The options of a command, of which some letters are known, or the first that is
not. Behind two dashes there are operands only. -/
def read (known : List Char) : List String → Except Char Options
  | [] => .ok ⟨[], []⟩
  | "--" :: rest => .ok ⟨[], rest⟩
  | word :: rest => do
    let others ← read known rest
    match word.toList with
    | '-' :: c :: cs =>
      match (c :: cs).find? fun c => !known.contains c with
      | some c => throw c
      | none => return { others with letters := c :: cs ++ others.letters }
    | _ => return { others with operands := word :: others.operands }

/-- Whether an option was given. -/
def has (o : Options) (c : Char) : Bool := o.letters.contains c

end Options

/-- A command whose options are letters. -/
def withOptions (name : String) (known : String) (status : Nat) (arguments : List String)
    (body : Options → ShellM Nat) : ShellM Nat :=
  match Options.read known.toList arguments with
  | .ok options => body options
  | .error c => refused name status s!"invalid option -- '{c}'"

/-- Work on operands one after the other; the greatest status counts. -/
def each (operands : List String) (work : String → ShellM Nat) : ShellM Nat :=
  operands.foldlM (fun status operand => return max status (← work operand)) 0

/-- The path in a folder of the name that a path ends with. -/
def pathIn (folder path : String) : String :=
  Path.join folder ((Path.fileName? path).getD "")

/-- How deep folders are looked into at most. -/
def maxFolderDepth : Nat := 256

/-! ### Reading -/

/-- A text with the numbers of its lines. -/
def numbered (cs : List Char) : List Char :=
  if cs.isEmpty then []
  else
    let lines := splitOn '\n' cs
    let whole := if lines.getLast? = some [] then lines.dropLast else lines
    let shown := whole.zipIdx.map fun (line, i) => padLeft 6 ' ' (digits (i + 1)) ++ '\t' :: line
    join ['\n'] shown ++ if whole.length < lines.length then ['\n'] else []

/-- The content of files one after the other, or the input when none are named. A dash
names the input. -/
def concatenate (arguments : List String) : ShellM Nat :=
  withOptions "cat" "nu" 1 arguments fun options => do
    let operands := if options.operands.isEmpty then ["-"] else options.operands
    let (status, whole) ← operands.foldlM (fun (status, whole) path => do
        let new ← if path == "-" then Except.ok <$> takeInput else contentAt path
        match new with
        | .ok bytes =>
          if options.has 'n' then return (status, whole ++ bytes)
          emit 1 bytes
          return (status, whole)
        | .error reason => return (max status (← failed 1 s!"cat: {path}: {reason}"), whole))
      (0, ByteArray.empty)
    writeRaw (numbered (rawText whole))
    return status

/-- The lines that name what is in a folder. -/
def namesIn (options : Options) (names : List String) : String :=
  let shown :=
    if options.has 'a' then "." :: ".." :: names
    else if options.has 'A' then names
    else names.filter fun n => !n.startsWith "."
  String.join ((if options.has 'r' then shown.reverse else shown).map (· ++ "\n"))

/-- The names in folders. Operands that are no folders come first. -/
def listNames (arguments : List String) : ShellM Nat :=
  withOptions "ls" "1aAdrCF" 2 arguments fun options => do
    let operands := if options.operands.isEmpty then ["."] else options.operands
    let sorted := operands.mergeSort (fun a b => decide (a ≤ b))
    let status ← each operands fun path => do
      if (← entryAt path).isSome then return 0
      failed 2 s!"ls: cannot access '{path}': {missing}"
    let found ← sorted.filterM fun path => return (← entryAt path).isSome
    let folders ← if options.has 'd' then pure [] else found.filterM isFolderAt
    let others := found.filter fun path => !folders.contains path
    write (String.join (others.map (· ++ "\n")))
    let _ ← folders.foldlM (fun isFirst path => do
        if 1 < operands.length then
          write ((if isFirst then "" else "\n") ++ path ++ ":\n")
        match ← ask (.list (← located path)) with
        | .ok names => write (namesIn options names)
        | .error _ => pure ()
        return false)
      others.isEmpty
    return status

/-! ### Making -/

/-- Makes files that are not there. -/
def touchFiles (arguments : List String) : ShellM Nat :=
  withOptions "touch" "acm" 1 arguments fun options => do
    if options.operands.isEmpty then refused "touch" 1 "missing file operand"
    else each options.operands fun path => do
      if (← entryAt path).isSome || options.has 'c' then return 0
      match ← ask (.write (← located path) .empty) with
      | .ok () => return 0
      | .error f => failed 1 s!"touch: cannot touch '{path}': {reasonOf f}"

/-- The folders that lead to a path, the outermost first. -/
def leading (path : String) : List String :=
  let cs := path.toList
  (List.range (cs.length + 1)).filterMap fun n =>
    if (cs[n]? = some '/' || n = cs.length) && 0 < n && cs[n - 1]? ≠ some '/' then
      some (String.ofList (cs.take n))
    else none

/-- Why there can be nothing at a path: what it lies in is not there, or no folder. -/
def faultAbove (path : String) : ShellM (Option String) := do
  match Path.parent? path with
  | none | some "" => return none
  | some parent =>
    if ← isFolderAt parent then return none
    return some (if (← entryAt parent).isSome then "Not a directory" else missing)

/-- Makes one folder in one that is there. -/
def makeFolderAt (isLoud : Bool) (path : String) : ShellM Nat := do
  let refuse (reason : String) := failed 1 s!"mkdir: cannot create directory '{path}': {reason}"
  if (← entryAt path).isSome then refuse "File exists"
  else
    match ← faultAbove path with
    | some reason => refuse reason
    | none => match ← ask (.makeFolder (← located path)) with
      | .error f => refuse (reasonOf f)
      | .ok () =>
        if isLoud then write s!"mkdir: created directory '{path}'\n"
        return 0

/-- Makes folders; with the option `p` those above them too, and they may be there. -/
def makeFolders (arguments : List String) : ShellM Nat :=
  withOptions "mkdir" "pv" 1 arguments fun options => do
    if options.operands.isEmpty then refused "mkdir" 1 "missing operand"
    else each options.operands fun path => do
      if !options.has 'p' then makeFolderAt (options.has 'v') path
      else
        let isBlocked ← (leading path).findM? fun part => do
          return (← entryAt part).isSome && !(← isFolderAt part)
        match isBlocked with
        | some part =>
          let reason := if part == path then "File exists" else "Not a directory"
          failed 1 s!"mkdir: cannot create directory '{part}': {reason}"
        | none =>
          let absent ← (leading path).filterM fun part => return !(← isFolderAt part)
          each absent (makeFolderAt (options.has 'v'))

/-! ### Removing -/

/-- Removes what is at a path, with all that is in it. -/
def removeTree : Nat → String → ShellM Nat
  | 0, _ => return 1
  | bound + 1, path => do
    let place ← located path
    match ← ask (.removeFile place) with
    | .ok () => return 0
    | .error _ =>
      match ← ask (.list place) with
      | .error f => failed 1 s!"rm: cannot remove '{path}': {reasonOf f}"
      | .ok names =>
        let status ← each names fun name => removeTree bound (Path.join path name)
        match ← ask (.removeFolder place) with
        | .ok () => return status
        | .error f => failed 1 s!"rm: cannot remove '{path}': {reasonOf f}"

/-- Removes files, and with the option `r` folders. With the option `f` it is no fault
that there are none. -/
def removeFiles (arguments : List String) : ShellM Nat :=
  withOptions "rm" "rRfvdi" 1 arguments fun options => do
    if options.operands.isEmpty then
      if options.has 'f' then return 0 else refused "rm" 1 "missing operand"
    else each options.operands fun path => do
      if (← entryAt path).isNone then
        if options.has 'f' then return 0
        else failed 1 s!"rm: cannot remove '{path}': {missing}"
      else if options.has 'r' || options.has 'R' then removeTree maxFolderDepth path
      else match ← ask (.removeFile (← located path)) with
        | .ok () =>
          if options.has 'v' then write s!"removed '{path}'\n"
          return 0
        | .error f => failed 1 s!"rm: cannot remove '{path}': {reasonOf f}"

/-- Removes empty folders. -/
def removeFolders (arguments : List String) : ShellM Nat :=
  withOptions "rmdir" "pv" 1 arguments fun options => do
    if options.operands.isEmpty then refused "rmdir" 1 "missing operand"
    else each options.operands fun path => do
      match ← ask (.removeFolder (← located path)) with
      | .ok () => return 0
      | .error f => failed 1 s!"rmdir: failed to remove '{path}': {reasonOf f}"

/-! ### Copying -/

/-- Copies what is at a path, with all that is in it. Says why it cannot be done. -/
def copyTree : Nat → String → String → ShellM (Option String)
  | 0, _, _ => return some "File name too long"
  | bound + 1, source, target => do
    if let some reason ← faultAbove target then return some reason
    if ← isFolderAt source then
      match ← ask (.makeFolder (← located target)) with
      | .error f => return some (reasonOf f)
      | .ok () =>
        match ← ask (.list (← located source)) with
        | .error f => return some (reasonOf f)
        | .ok names =>
          names.foldlM (fun (fault : Option String) name => do
              if fault.isSome then return fault
              copyTree bound (Path.join source name) (Path.join target name))
            none
    else
      match ← contentAt source with
      | .error reason => return some reason
      | .ok bytes =>
        match ← ask (.write (← located target) bytes) with
        | .ok () => return none
        | .error f => return some (reasonOf f)

/-- Whether a path leads to the folder of another, or into it. -/
def isInside (folder path : String) : ShellM Bool := do
  let a := Path.components (← located folder)
  let b := Path.components (← located path)
  return a.isPrefixOf b

/-- Copies or moves one operand to a place. -/
def transfer (isMove : Bool) (options : Options) (source target : String) : ShellM Nat := do
  let name := if isMove then "mv" else "cp"
  if (← entryAt source).isNone then
    failed 1 s!"{name}: cannot stat '{source}': {missing}"
  else
    let isFolder ← isFolderAt source
    let isWhole := isMove || options.has 'r' || options.has 'R' || options.has 'a'
    if isFolder && !isWhole then
      failed 1 s!"cp: -r not specified; omitting directory '{source}'"
    else
      let goal ← do
        if ← isFolderAt target then pure (pathIn target source) else pure target
      if Path.components (← located source) = Path.components (← located goal) then
        failed 1 s!"{name}: '{source}' and '{goal}' are the same file"
      else if isFolder && (← isInside source goal) then
        failed 1 (if isMove then
            s!"mv: cannot move '{source}' to a subdirectory of itself, '{goal}'"
          else s!"cp: cannot copy a directory, '{source}', into itself, '{goal}'")
      else
        match ← copyTree maxFolderDepth source goal with
        | some reason =>
          failed 1 (if isMove then s!"mv: cannot move '{source}' to '{goal}': {reason}"
            else if isFolder then s!"cp: cannot create directory '{goal}': {reason}"
            else s!"cp: cannot create regular file '{goal}': {reason}")
        | none =>
          if isMove then removeTree maxFolderDepth source else return 0

/-- Copies or moves operands to the last one, which has to be a folder if there are
several. -/
def transferAll (isMove : Bool) (arguments : List String) : ShellM Nat := do
  let name := if isMove then "mv" else "cp"
  withOptions name (if isMove then "fnv" else "rRafpnv") 1 arguments fun options => do
    match options.operands.reverse with
    | [] => refused name 1 "missing file operand"
    | [only] => refused name 1 s!"missing destination file operand after '{only}'"
    | [target, source] => transfer isMove options source target
    | target :: sources =>
      if ← isFolderAt target then
        each sources.reverse fun source => transfer isMove options source target
      else
        let reason := if (← entryAt target).isSome then "Not a directory" else missing
        failed 1 s!"{name}: target '{target}': {reason}"

/-! ### Leave to run -/

/-- What the shell remembers a path by. -/
def keyOf (path : String) : ShellM String := do
  return Path.ofComponents (Path.components (← located path))

/-- Whether a mode gives or takes leave to run a file, if it says so. -/
def givesLeave? (mode : String) : Option Bool :=
  let cs := mode.toList
  if isDigits cs then some (cs.any fun c => digitValue c % 2 = 1)
  else if cs.contains 'x' then some (cs.contains '+' || cs.contains '=')
  else none

/-- Changes who may run files. -/
def changeMode : List String → ShellM Nat
  | [] => refused "chmod" 1 "missing operand"
  | [mode] => refused "chmod" 1 s!"missing operand after '{mode}'"
  | mode :: paths => each paths fun path => do
    if (← entryAt path).isNone then failed 1 s!"chmod: cannot access '{path}': {missing}"
    else
      let key ← keyOf path
      match givesLeave? mode with
      | some true => modify fun s => { s with runnable := key :: s.runnable }
      | some false => modify fun s => { s with runnable := s.runnable.filter (· != key) }
      | none => pure ()
      return 0

end Scaffold.Shell
