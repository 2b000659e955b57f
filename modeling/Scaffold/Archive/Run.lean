/-
Text runs of office documents.

A run is an element `w:t`, `a:t` or `t` without elements inside. A variable token
may be spread over several runs.

* `segments` cuts a document into runs and the characters between them, and
  `text_segments` says that nothing is lost;
* `mergeRuns` moves the text of runs that together complete a token into the
  first of them and leaves the others empty;
* `substituteRuns` replaces tokens in the text of runs, with values escaped.
-/
import Scaffold.Substitution
import Scaffold.Text.Blank

namespace Scaffold.Archive

open Text Variable

/-- A character as it is written in markup. -/
def escapeChar (c : Char) : List Char :=
  match c with
  | '<' => "&lt;".toList
  | '>' => "&gt;".toList
  | '&' => "&amp;".toList
  | '\'' => "&apos;".toList
  | '"' => "&quot;".toList
  | c => [c]

/-- A text as it is written in markup. -/
def escapeMarkup (cs : List Char) : List Char :=
  cs.flatMap escapeChar

/-! ### Runs -/

/-- A run: its opening tag, its text and its closing tag. -/
structure Run where
  opening : List Char
  text : List Char
  closing : List Char
  deriving Repr, DecidableEq

/-- A part of a document: a run, or one character outside runs. -/
inductive Segment where
  | plain (c : Char)
  | run (r : Run)
  deriving Repr, DecidableEq

/-- The segment as it is written. -/
def Segment.text : Segment → List Char
  | plain c => [c]
  | run r => r.opening ++ r.text ++ r.closing

/-- The names of run elements. -/
def runNames : List (List Char) := ["w:t".toList, "a:t".toList, "t".toList]

/-- The first of some starts that a text has, and what follows it. -/
def firstStart? (starts : List (List Char)) (cs : List Char) : Option (List Char × List Char) :=
  starts.findSome? fun start => (after? start cs).map fun rest => (start, rest)

/-- A start that was found is a start of the text. -/
theorem eq_append_of_firstStart? {starts : List (List Char)} {cs start rest : List Char}
    (h : firstStart? starts cs = some (start, rest)) : cs = start ++ rest := by
  obtain ⟨s, _, hs⟩ := List.exists_of_findSome?_eq_some h
  obtain ⟨r, hr, heq⟩ := Option.map_eq_some_iff.mp hs
  simp only [Prod.mk.injEq] at heq
  obtain ⟨rfl, rfl⟩ := heq
  exact eq_append_of_after? hr

/-- The rest of a tag after the name of its element: nothing or attributes, and the
bracket that closes it. -/
def tagEnd? (cs : List Char) : Option (List Char × List Char) :=
  match cs with
  | '>' :: rest => some (['>'], rest)
  | c :: _ =>
    if isBlank c then
      match cs.dropWhile (· != '>') with
      | close :: rest => some (cs.takeWhile (· != '>') ++ [close], rest)
      | [] => none
    else none
  | [] => none

/-- The end of a tag that was read is a start of the text. -/
theorem eq_append_of_tagEnd? {cs tag rest : List Char} (h : tagEnd? cs = some (tag, rest)) :
    cs = tag ++ rest := by
  unfold tagEnd? at h
  split at h
  · simp only [Option.some.injEq, Prod.mk.injEq] at h
    obtain ⟨rfl, rfl⟩ := h
    rfl
  · rename_i c tail hne
    split at h
    · split at h
      · rename_i close rest' hdrop
        simp only [Option.some.injEq, Prod.mk.injEq] at h
        obtain ⟨rfl, rfl⟩ := h
        have := (List.takeWhile_append_dropWhile (p := (· != '>')) (l := c :: tail)).symm
        rw [hdrop] at this
        simpa using this
      · simp at h
    · simp at h
  · simp at h

/-- A run without its first bracket, at the start of a text, and what follows it. -/
def runAfterBracket? (cs : List Char) : Option (Run × List Char) :=
  match firstStart? runNames cs with
  | none => none
  | some (name, afterName) =>
    match tagEnd? afterName with
    | none => none
    | some (tag, body) =>
      match after? ['<', '/'] (body.dropWhile (· != '<')) with
      | none => none
      | some closing =>
        match firstStart? runNames closing with
        | some (closeName, '>' :: rest) =>
          some (⟨'<' :: name ++ tag, body.takeWhile (· != '<'), '<' :: '/' :: closeName ++ ['>']⟩,
            rest)
        | _ => none

/-- A run that was read is a start of the text. -/
theorem eq_append_of_runAfterBracket? {cs rest : List Char} {r : Run}
    (h : runAfterBracket? cs = some (r, rest)) :
    '<' :: cs = (Segment.run r).text ++ rest := by
  unfold runAfterBracket? at h
  split at h
  · simp at h
  · rename_i name afterName hname
    split at h
    · simp at h
    · rename_i tag body htag
      split at h
      · simp at h
      · rename_i closing hclosing
        split at h
        · rename_i closeName rest' hclose
          simp only [Option.some.injEq, Prod.mk.injEq] at h
          obtain ⟨rfl, rfl⟩ := h
          have hbody := (List.takeWhile_append_dropWhile (p := (· != '<')) (l := body)).symm
          rw [eq_append_of_after? hclosing, eq_append_of_firstStart? hclose] at hbody
          rw [eq_append_of_firstStart? hname, eq_append_of_tagEnd? htag]
          conv => lhs; rw [hbody]
          simp [Segment.text]
        · simp at h

/-- What follows a run is shorter than the text it was read from. -/
theorem length_of_runAfterBracket? {cs rest : List Char} {r : Run}
    (h : runAfterBracket? cs = some (r, rest)) : rest.length ≤ cs.length := by
  have hl := congrArg List.length (eq_append_of_runAfterBracket? h)
  unfold runAfterBracket? at h
  split at h
  · simp at h
  · split at h
    · simp at h
    · split at h
      · simp at h
      · split at h
        · simp only [Option.some.injEq, Prod.mk.injEq] at h
          obtain ⟨rfl, rfl⟩ := h
          simp [Segment.text] at hl ⊢
          omega
        · simp at h

/-- The runs of a document and the characters between them. At each place a run is
read if one starts there, and one character otherwise. -/
def segments (cs : List Char) : List Segment :=
  match cs with
  | [] => []
  | c :: rest =>
    if c == '<' then
      match _h : runAfterBracket? rest with
      | some (r, tail) => .run r :: segments tail
      | none => .plain c :: segments rest
    else .plain c :: segments rest
termination_by cs.length
decreasing_by
  · have := length_of_runAfterBracket? _h; simp; omega
  · simp
  · simp

/-- The segments of a document, written one after the other, give it back. -/
theorem text_segments (cs : List Char) : (segments cs).flatMap Segment.text = cs := by
  fun_induction segments cs with
  | case1 => rfl
  | case2 c rest hc r tail h ih =>
    rw [List.flatMap_cons, ih, ← eq_append_of_runAfterBracket? h, eq_of_beq hc]
  | case3 c rest hc h ih => simp [Segment.text, ih]
  | case4 c rest hc ih => simp [Segment.text, ih]

/-- The texts of the runs of a document. -/
def runTexts (parts : List Segment) : List (List Char) :=
  parts.filterMap fun
    | .run r => some r.text
    | .plain _ => none

/-- A document with new texts in its runs, in order. -/
def withRunTexts : List Segment → List (List Char) → List Segment
  | [], _ => []
  | .plain c :: rest, texts => .plain c :: withRunTexts rest texts
  | .run r :: rest, [] => .run { r with text := [] } :: withRunTexts rest []
  | .run r :: rest, text :: texts => .run { r with text := text } :: withRunTexts rest texts

/-! ### Tokens across runs -/

/-- A complete token without its first percent sign: an identifier, and after a
colon anything without percent signs and opening brackets. -/
def completeAfterPercent? (cs : List Char) : Option (List Char) :=
  if !cs.head?.any isIdentStart then none
  else match cs.dropWhile isIdentRest with
    | '%' :: tail => some tail
    | ':' :: body =>
      match body.dropWhile fun c => c != '%' && c != '<' with
      | '%' :: tail => some tail
      | _ => none
    | _ => none

/-- What follows a complete token is shorter than the text it was read from. -/
theorem length_of_completeAfterPercent? {cs rest : List Char}
    (h : completeAfterPercent? cs = some rest) : rest.length < cs.length := by
  have hd : (cs.dropWhile isIdentRest).length ≤ cs.length := (List.dropWhile_sublist _).length_le
  unfold completeAfterPercent? at h
  split at h
  · simp at h
  · split at h
    · rename_i tail htail
      simp only [Option.some.injEq] at h
      rw [htail] at hd
      rw [← h]
      simp at hd
      omega
    · rename_i body hbody
      split at h
      · rename_i tail htail
        have hb : (body.dropWhile fun c => c != '%' && c != '<').length ≤ body.length :=
          (List.dropWhile_sublist _).length_le
        simp only [Option.some.injEq] at h
        rw [htail] at hb
        rw [hbody] at hd
        rw [← h]
        simp at hb hd
        omega
      · simp at h
    · simp at h

/-- How many complete tokens a text has, and the text without them. -/
def withoutTokens (cs : List Char) : Nat × List Char :=
  match cs with
  | [] => (0, [])
  | c :: rest =>
    if c == '%' then
      match _h : completeAfterPercent? rest with
      | some tail =>
        let (count, others) := withoutTokens tail
        (count + 1, others)
      | none =>
        let (count, others) := withoutTokens rest
        (count, c :: others)
    else
      let (count, others) := withoutTokens rest
      (count, c :: others)
termination_by cs.length
decreasing_by
  · have := length_of_completeAfterPercent? _h; simp; omega
  · simp
  · simp

/-- The number of complete tokens of a text. -/
def tokenCount (cs : List Char) : Nat := (withoutTokens cs).1

/-- What the transforms of an unfinished token consist of. -/
def isChainChar (c : Char) : Bool :=
  isIdentRest c || c == '|' || c == '(' || c == ')' || c == '-'

/-- Whether a text is the start of a token after its percent sign. -/
def isUnfinished (cs : List Char) : Bool :=
  cs.isEmpty || (cs.head?.any isIdentStart && match cs.dropWhile isIdentRest with
    | [] => true
    | ':' :: chain => chain.all isChainChar
    | _ => false)

/-- Whether a text ends inside a token: behind its last percent sign, complete
tokens aside, stands the start of a token. -/
def dangles (cs : List Char) : Bool :=
  let others := (withoutTokens cs).2
  others.contains '%' && isUnfinished (others.reverse.takeWhile (· != '%')).reverse

/-- How many runs are joined to a run at most. -/
def mergeBound : Nat := 16

/-- How many of the following runs a text takes in: one after the other while it
dangles, up to a bound. -/
def reach : Nat → List Char → List (List Char) → Nat
  | bound + 1, merged, text :: texts =>
    if dangles merged then reach bound (merged ++ text) texts + 1 else 0
  | _, _, _ => 0

/-- The texts with each token that is spread over runs moved to its first run. A
run takes in others only if their joined text has more complete tokens than they
have one by one. -/
def mergeRuns (texts : List (List Char)) : List (List Char) :=
  match texts with
  | [] => []
  | text :: rest =>
    let count := reach mergeBound text rest
    let block := text :: rest.take count
    if block.foldl (fun n text => n + tokenCount text) 0 < tokenCount block.flatten then
      block.flatten :: List.replicate (rest.take count).length [] ++ mergeRuns (rest.drop count)
    else text :: mergeRuns rest
termination_by texts.length
decreasing_by
  · simp <;> omega
  · simp

/-- The document with tokens in its runs replaced by escaped values. -/
def substituteRuns (env : Environment) (text : String) : String :=
  let parts := segments text.toList
  let texts := (mergeRuns (runTexts parts)).map (substituteChars env escapeMarkup)
  String.ofList ((withRunTexts parts texts).flatMap Segment.text)

end Scaffold.Archive
