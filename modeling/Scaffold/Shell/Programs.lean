/-
Commands that read text, and commands that write what follows from their words.

* `withTexts` gives a command the texts of its files, or the input when it names none;
* `program` finds a command by its name.
-/
import Scaffold.Shell.Condition
import Scaffold.Shell.Echo
import Scaffold.Shell.Filters

namespace Scaffold.Shell

open Text

/-! ### Reading files -/

/-- A text that a command reads, with its name if it has one. -/
structure NamedText where
  name : Option String
  text : List Char
  isFile : Bool := true
  deriving Inhabited

/-- The texts of files, and the greatest status of those that cannot be read. Without
files it is the input. -/
def withTexts (paths : List String) (refuse : String → String → ShellM Nat) :
    ShellM (List NamedText × Nat) := do
  let named := if paths.isEmpty then [none] else paths.map some
  named.foldlM (fun (found, status) path => do
      match path with
      | none | some "-" =>
        let isFile := (← get).input.isFile
        return (found ++ [⟨path, rawText (← takeInput), isFile⟩], status)
      | some name =>
        match ← contentAt name with
        | .ok bytes => return (found ++ [⟨some name, rawText bytes, true⟩], status)
        | .error reason => return (found, max status (← refuse name reason)))
    ([], 0)

/-- Writes the texts of files after a change. -/
def filtered (name : String) (paths : List String) (change : List Char → List Char) : ShellM Nat := do
  let (sources, status) ← withTexts paths fun path reason => failed 1 s!"{name}: {path}: {reason}"
  writeRaw (change (sources.flatMap NamedText.text))
  return status

/-- A part of a text: whether it is counted in bytes, how much it is, and the files. -/
structure PartRequest where
  inBytes : Bool := false
  amount : List Char := ['1', '0']
  isQuiet : Bool := false
  paths : List String := []

/-- What a command for a part of a text is asked for. -/
def PartRequest.read : List String → PartRequest
  | [] => {}
  | "-n" :: amount :: rest => { read rest with amount := amount.toList }
  | "-c" :: amount :: rest => { read rest with amount := amount.toList, inBytes := true }
  | "-q" :: rest => { read rest with isQuiet := true }
  | word :: rest =>
    let others := read rest
    match word.toList with
    | '-' :: 'n' :: amount => { others with amount }
    | '-' :: 'c' :: amount => { others with amount, inBytes := true }
    | '-' :: amount =>
      if isDigits amount then { others with amount } else { others with paths := word :: others.paths }
    | _ => { others with paths := word :: others.paths }

/-- Writes a part of each file, under its name if there are several. -/
def partsOf (name : String) (part : Bool → List Char → List Char → List Char)
    (arguments : List String) : ShellM Nat := do
  let request := PartRequest.read arguments
  let (sources, status) ← withTexts request.paths fun path reason => do
    if reason == missing then failed 1 s!"{name}: cannot open '{path}' for reading: {reason}"
    else failed 1 s!"{name}: error reading '{path}': {reason}"
  let isTitled := 1 < request.paths.length && !request.isQuiet
  let _ ← sources.foldlM (fun isFirst source => do
      if isTitled then
        let title := source.name.getD ""
        write ((if isFirst then "" else "\n") ++ s!"==> {title} <==\n")
      writeRaw (part request.inBytes request.amount source.text)
      return false)
    true
  return status

/-- The first part of a text, by an amount that counts from the end if it is negative. -/
def headPart (inBytes : Bool) : List Char → List Char → List Char
  | '-' :: amount => firstPart inBytes true (decimalValue amount)
  | amount => firstPart inBytes false (decimalValue amount)

/-- The last part of a text, by an amount that counts from the start if it has a plus
sign. -/
def tailPart (inBytes : Bool) : List Char → List Char → List Char
  | '+' :: amount => lastPart inBytes true (decimalValue amount)
  | '-' :: amount | amount => lastPart inBytes false (decimalValue amount)

/-- Counts the lines, words and bytes of files, and those of all together. -/
def countTexts (arguments : List String) : ShellM Nat :=
  withOptions "wc" "lwmc" 1 arguments fun options => do
    let (sources, status) ← withTexts options.operands fun path reason =>
      failed 1 s!"wc: {path}: {reason}"
    let rows := sources.map fun s => (countsOf options s.text, s.name)
    let count := (countsOf options []).length
    let total := (List.range count).map fun i => rows.foldl (fun n r => n + r.1.getD i 0) 0
    let rows := if 1 < options.operands.length then rows ++ [(total, some "total")] else rows
    let size := sources.foldl (fun n s => n + s.text.length) 0
    let width :=
      if count = 1 && options.operands.length ≤ 1 then 1
      else if sources.any fun s => !s.isFile then 7
      else (digits size).length
    rows.forM fun (numbers, name) => do
      let columns := join [' '] (numbers.map fun n => padLeft width ' ' (digits n))
      writeRaw (columns ++ ((name.map fun n => ' ' :: raw n).getD []) ++ ['\n'])
    return status

/-- Orders the lines of files. -/
def sortTexts (arguments : List String) : ShellM Nat :=
  withOptions "sort" "rnuf" 2 arguments fun options => do
    let (sources, status) ← withTexts options.operands fun path reason =>
      failed 2 s!"sort: cannot read: {path}: {reason}"
    if status != 0 then return status
    let whole := sources.flatMap fun s => linesOf s.text
    writeRaw (sorted options (ofLines whole))
    return 0

/-- The letters of options that take a value, with their values, and the other words. -/
def valuesOf (letters : List Char) : List String → List (Char × String) × List String
  | [] => ([], [])
  | word :: rest =>
    match word.toList with
    | '-' :: c :: value =>
      if !letters.contains c then
        let (found, others) := valuesOf letters rest
        (found, word :: others)
      else if !value.isEmpty then
        let (found, others) := valuesOf letters rest
        ((c, String.ofList value) :: found, others)
      else match rest with
        | next :: rest =>
          let (found, others) := valuesOf letters rest
          ((c, next) :: found, others)
        | [] => ([], [word])
    | _ =>
      let (found, others) := valuesOf letters rest
      (found, word :: others)

/-- Writes fields or bytes of lines. -/
def cutTexts (arguments : List String) : ShellM Nat := do
  let (values, rest) := valuesOf ['d', 'f', 'c', 'b'] arguments
  withOptions "cut" "s" 1 rest fun options => do
    let mark := ((values.lookup 'd').bind fun text => (raw text).head?).getD '\t'
    let cutLine : Option (List Char → Option (List Char)) :=
      match values.lookup 'f', values.lookup 'c' <|> values.lookup 'b' with
      | some list, _ => (rangesOf? list.toList).map (cutFields mark (options.has 's'))
      | none, some list => (rangesOf? list.toList).map fun ranges line => some (cutBytes ranges line)
      | none, none => none
    match cutLine with
    | none => refused "cut" 1 "you must specify a list of bytes, characters, or fields"
    | some cutLine =>
      filtered "cut" options.operands fun cs => ofLines ((linesOf cs).filterMap cutLine)

/-- Exchanges characters of the input. -/
def exchangeText (arguments : List String) : ShellM Nat :=
  withOptions "tr" "cCds" 1 arguments fun options => do
    match options.operands with
    | [] => refused "tr" 1 "missing operand"
    | [first] =>
      if options.has 'd' || options.has 's' then
        writeRaw (exchanged options (raw first) none (rawText (← takeInput)))
        return 0
      else
        let rule := "Two strings must be given when translating."
        refused "tr" 1 s!"missing operand after '{first}'\n{rule}"
    | [first, second] =>
      writeRaw (exchanged options (raw first) (some (raw second)) (rawText (← takeInput)))
      return 0
    | _ :: _ :: extra :: _ => refused "tr" 1 s!"extra operand '{extra}'"

/-- Writes the input to files as well. -/
def copyInput (arguments : List String) : ShellM Nat :=
  withOptions "tee" "a" 1 arguments fun options => do
    let bytes ← takeInput
    emit 1 bytes
    each options.operands fun path => do
      let old ← if options.has 'a' then contentAt path else pure (.ok .empty)
      let kept := match old with
        | .ok bytes => bytes
        | .error _ => .empty
      match ← ask (.write (← located path) (kept ++ bytes)) with
      | .ok () => return 0
      | .error f => failed 1 s!"tee: {path}: {reasonOf f}"

/-! ### Searching -/

/-- The files in a folder and in those below it. -/
def filesBelow : Nat → String → ShellM (List String)
  | 0, _ => return []
  | bound + 1, path => do
    if ← isFolderAt path then
      match ← ask (.list (← located path)) with
      | .ok names => names.flatMapM fun name => filesBelow bound (Path.join path name)
      | .error _ => return []
    else return [path]

/-- The pattern that a search is for. -/
def searched? (options : Options) (texts : List (List Char)) : Option LinePattern := do
  let lines := texts.flatMap (splitOn '\n')
  let patterns ← lines.mapM fun text =>
    let text := if options.has 'i' then text.map Char.toLower else text
    if options.has 'F' then
      some (text.foldr (fun c p => .sequence (.among false [(c, c)]) p) .empty)
    else LinePattern.read? (options.has 'E') text
  let one ← patterns.reverse.tail.foldl (fun all p => .either p all) <$> patterns.getLast?
  return if options.has 'x' then .sequence .atStart (.sequence one .atEnd)
    else if options.has 'w' then .sequence .atWordEdge (.sequence one .atWordEdge)
    else one

/-- The parts of a line that a pattern matches. -/
def matchesIn (pattern : LinePattern) (fold : List Char → List Char) :
    Nat → List Char → List Char → List (List Char)
  | 0, _, _ => []
  | bound + 1, before, rest =>
    match pattern.findFrom? rest.length ⟨before, fold rest, []⟩ with
    | none => []
    | some (start, finish) =>
      let skipped := rest.length - start.rest.length
      let size := start.rest.length - finish.rest.length
      if size = 0 then
        match rest.drop skipped with
        | [] => []
        | c :: rest => matchesIn pattern fold bound (c :: before) rest
      else
        (rest.drop skipped).take size ::
          matchesIn pattern fold bound finish.before (rest.drop (skipped + size))

/-- Looks for a pattern in the lines of files. -/
def searchTexts (arguments : List String) : ShellM Nat := do
  let (values, rest) := valuesOf ['e', 'm'] arguments
  withOptions "grep" "vicnqFExlhHsowrRL" 2 rest fun options => do
    let given := (values.filter (·.1 == 'e')).map Prod.snd
    let (texts, paths) := match given, options.operands with
      | [], first :: paths => ([first], paths)
      | given, operands => (given, operands)
    if texts.isEmpty then
      failed 2 ("Usage: grep [OPTION]... PATTERNS [FILE]...\n" ++
        "Try 'grep --help' for more information.")
    else match searched? options (texts.map raw) with
      | none => failed 2 "grep: Invalid regular expression"
      | some pattern =>
        let isDeep := options.has 'r' || options.has 'R'
        let paths ← if isDeep then
            (if paths.isEmpty then ["."] else paths).flatMapM (filesBelow maxFolderDepth)
          else pure paths
        let (sources, status) ← withTexts paths fun path reason =>
          if options.has 's' then return 2 else failed 2 s!"grep: {path}: {reason}"
        let fold (line : List Char) := if options.has 'i' then line.map Char.toLower else line
        let isTitled := !options.has 'h' && (options.has 'H' || isDeep || 1 < paths.length)
        let hits := sources.map fun source =>
          (source, (linesOf source.text).zipIdx.filter fun (line, _) =>
            pattern.occursIn (fold line) != options.has 'v')
        let isFound := hits.any fun (_, lines) => !lines.isEmpty
        if !options.has 'q' then
          hits.forM fun (source, lines) => do
            let name := source.name.getD "(standard input)"
            let title := if isTitled then raw name ++ [':'] else []
            if options.has 'l' then
              if !lines.isEmpty then writeRaw (raw name ++ ['\n'])
            else if options.has 'c' then
              writeRaw (title ++ digits lines.length ++ ['\n'])
            else
              lines.forM fun (line, i) => do
                let mark := title ++ if options.has 'n' then digits (i + 1) ++ [':'] else []
                if options.has 'o' then
                  (matchesIn pattern fold (line.length + 1) [] line).forM fun found =>
                    writeRaw (mark ++ found ++ ['\n'])
                else writeRaw (mark ++ line ++ ['\n'])
        return if isFound && (status = 0 || options.has 'q') then 0 else if status = 0 then 1 else 2

/-- Changes the lines of files by orders. -/
def editTexts (arguments : List String) : ShellM Nat := do
  let (values, rest) := valuesOf ['e'] arguments
  withOptions "sed" "nEri" 1 rest fun options => do
    let (orders, paths) := match values, options.operands with
      | [], first :: paths => ([first], paths)
      | given, operands => (given.map Prod.snd, operands)
    if orders.isEmpty then
      failed 1 "Usage: sed [OPTION]... \x7bscript-only-if-no-other-script\x7d [input-file]..."
    else
      let text := "\n".intercalate orders
      let isExtended := options.has 'E' || options.has 'r'
      match edits? isExtended (text.length + 2) (raw text) with
      | none =>
        failed 1 s!"sed: -e expression #1, char 1: unknown command: \x60{(text.take 1).toString}'"
      | some edits =>
        if options.has 'i' then
          each paths fun path => do
            match ← contentAt path with
            | .error reason => failed 2 s!"sed: can't read {path}: {reason}"
            | .ok bytes =>
              let new := edited (options.has 'n') edits (rawText bytes)
              let _ ← ask (.write (← located path) (rawBytes new))
              return 0
        else
          let (sources, status) ← withTexts paths fun path reason =>
            if reason == missing then failed 2 s!"sed: can't read {path}: {reason}"
            else failed 2 s!"sed: couldn't edit {path}: not a regular file"
          writeRaw (edited (options.has 'n') edits (sources.flatMap NamedText.text))
          return status

/-! ### Words -/

/-- The last name of a path, without an ending if it is longer than that. -/
def baseName (path ending : String) : String :=
  let cs := path.toList
  let front := (cs.reverse.dropWhile (· == '/')).reverse
  if front.isEmpty then if cs.isEmpty then "" else "/"
  else
    let name := ((splitLast '/' front).map Prod.snd).getD front
    match before? ending.toList name with
    | some kept => String.ofList (if kept.isEmpty then name else kept)
    | none => String.ofList name

/-- The path of the folder that a path lies in. -/
def folderName (path : String) : String :=
  let front := (path.toList.reverse.dropWhile (· == '/')).reverse
  if front.isEmpty then if path.isEmpty then "." else "/"
  else match splitLast '/' front with
    | none => "."
    | some (folder, _) =>
      let kept := (folder.reverse.dropWhile (· == '/')).reverse
      if kept.isEmpty then "/" else String.ofList kept

/-- Numbers from one to another. -/
def countedFrom (step last : Int) : Nat → Int → List Int
  | 0, _ => []
  | bound + 1, n =>
    if (0 ≤ step && last < n) || (step < 0 && n < last) then []
    else n :: countedFrom step last bound (n + step)

/-- Writes numbers in a row. -/
def countNumbers (arguments : List String) : ShellM Nat := do
  match arguments.find? fun word => (signed? word.toList).isNone with
  | some word => refused "seq" 1 s!"invalid floating point argument: '{word}'"
  | none =>
    let rowOf (first step last : Int) : ShellM Nat := do
      if step = 0 then refused "seq" 1 "invalid Zero increment value: '0'"
      else
        let count := (last - first).natAbs / step.natAbs + 1
        writeRaw (ofLines ((countedFrom step last count first).map integerDigits))
        return 0
    match arguments.filterMap fun word => signed? word.toList with
    | [] => refused "seq" 1 "missing operand"
    | [last] => rowOf 1 1 last
    | [first, last] => rowOf first 1 last
    | [first, step, last] => rowOf first step last
    | _ =>
      let extra := arguments.getD 3 ""
      refused "seq" 1 s!"extra operand '{extra}'"

/-- Decides a condition. -/
def decideWords (name : String) (words : List String) : ShellM Nat := do
  let asksFiles := words.any fun w =>
    Condition.unarySigns.contains w || ["-nt", "-ot", "-ef"].contains w
  let known ← if asksFiles then words.mapM fun word => do
      let entry ← entryAt word
      let entry := if ← isFolderAt word then some ⟨.folder, 0⟩ else entry
      return (word, entry, (← get).runnable.contains (← keyOf word))
    else pure []
  let files : Condition.Files :=
    { entry := fun path => (known.lookup path).bind Prod.fst
      isRunnable := fun path => (known.lookup path).any Prod.snd }
  match Condition.holds files words with
  | .ok true => return 0
  | .ok false => return 1
  | .error fault => faulty 2 (fault.message name)

/-- The value of two operands with a sign between them, as words. -/
def wordValue (a sign b : String) : ShellM Nat := do
  let answer (text : String) (isTrue : Bool) : ShellM Nat := do
    write (text ++ "\n")
    return if isTrue then 0 else 1
  let number (n : Int) := answer (String.ofList (integerDigits n)) (n ≠ 0)
  let truth (b : Bool) := answer (if b then "1" else "0") b
  match signed? a.toList, signed? b.toList, sign with
  | some m, some n, "+" => number (m + n)
  | some m, some n, "-" => number (m - n)
  | some m, some n, "*" => number (m * n)
  | some m, some n, "/" =>
    if n = 0 then failed 2 "expr: division by zero" else number (Int.tdiv m n)
  | some m, some n, "%" =>
    if n = 0 then failed 2 "expr: division by zero" else number (Int.tmod m n)
  | some m, some n, "<" => truth (m < n)
  | some m, some n, "<=" => truth (m ≤ n)
  | some m, some n, ">" => truth (n < m)
  | some m, some n, ">=" => truth (n ≤ m)
  | some m, some n, "=" => truth (m = n)
  | some m, some n, "!=" => truth (m ≠ n)
  | _, _, "=" => truth (a == b)
  | _, _, "!=" => truth (a != b)
  | _, _, _ =>
    if ["+", "-", "*", "/", "%"].contains sign then failed 2 "expr: non-integer argument"
    else failed 2 s!"expr: syntax error: unexpected argument '{sign}'"

/-- Waits for no time. -/
def pause : List String → ShellM Nat
  | [] => refused "sleep" 1 "missing operand"
  | words =>
    match words.find? fun w => !(w.toList.head?.any fun c => c.isDigit || c == '.') with
    | some word => refused "sleep" 1 s!"invalid time interval '{word}'"
    | none => return 0

/-- A command that is a program of its own. -/
def program (name : String) (arguments : List String) : Option (ShellM Nat) :=
  match name, arguments with
  | "cat", words => some (concatenate words)
  | "ls", words => some (listNames words)
  | "touch", words => some (touchFiles words)
  | "mkdir", words => some (makeFolders words)
  | "rm", words => some (removeFiles words)
  | "rmdir", words => some (removeFolders words)
  | "cp", words => some (transferAll false words)
  | "mv", words => some (transferAll true words)
  | "chmod", words => some (changeMode words)
  | "head", words => some (partsOf "head" headPart words)
  | "tail", words => some (partsOf "tail" tailPart words)
  | "wc", words => some (countTexts words)
  | "sort", words => some (sortTexts words)
  | "uniq", words => some (withOptions "uniq" "cdu" 1 words fun options =>
      filtered "uniq" options.operands (distinct options))
  | "cut", words => some (cutTexts words)
  | "tr", words => some (exchangeText words)
  | "tee", words => some (copyInput words)
  | "grep", words => some (searchTexts words)
  | "sed", words => some (editTexts words)
  | "rev", words => some (filtered "rev" words fun cs => ofLines ((linesOf cs).map List.reverse))
  | "tac", words => some (filtered "tac" words fun cs => ofLines (linesOf cs).reverse)
  | "seq", words => some (countNumbers words)
  | "basename", [] => some (refused "basename" 1 "missing operand")
  | "basename", path :: endings => some do
    write (baseName path (endings.headD "") ++ "\n")
    return 0
  | "dirname", [] => some (refused "dirname" 1 "missing operand")
  | "dirname", paths => some do
    write (String.join (paths.map fun path => folderName path ++ "\n"))
    return 0
  | "expr", [] => some (refused "expr" 2 "missing operand")
  | "expr", [a, sign, b] => some (wordValue a sign b)
  | "sleep", words => some (pause words)
  | _, _ => none

end Scaffold.Shell
