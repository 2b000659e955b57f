/-
Cutting text into pieces, and replacing parts of it.

* `splitOn` cuts at every separator, so a text with `n` separators has `n + 1`
  pieces;
* `splitOnce` cuts at the first separator;
* `after?` removes a given start;
* `replaceAll` replaces every occurrence of a text, from left to right.
-/

namespace Scaffold.Text

/-- The pieces of a text between separators; there is always at least one. -/
def splitBy (isSeparator : Char → Bool) : List Char → List (List Char)
  | [] => [[]]
  | c :: rest =>
    if isSeparator c then [] :: splitBy isSeparator rest
    else match splitBy isSeparator rest with
      | [] => [[c]]
      | piece :: pieces => (c :: piece) :: pieces

/-- The pieces of a text between occurrences of a character. -/
def splitOn (separator : Char) (cs : List Char) : List (List Char) :=
  splitBy (· == separator) cs

/-- The parts before and after the first occurrence of a character. -/
def splitOnce (separator : Char) (cs : List Char) : Option (List Char × List Char) :=
  match cs.dropWhile (· != separator) with
  | [] => none
  | _ :: rest => some (cs.takeWhile (· != separator), rest)

/-- The parts before and after the last occurrence of a character. -/
def splitLast (separator : Char) (cs : List Char) : Option (List Char × List Char) :=
  (splitOnce separator cs.reverse).map fun (tail, head) => (head.reverse, tail.reverse)

/-- What follows a given start of the text, when it has that start. -/
def after? : List Char → List Char → Option (List Char)
  | [], cs => some cs
  | _ :: _, [] => none
  | p :: ps, c :: cs => if p == c then after? ps cs else none

/-- What precedes a given end of the text, when it has that end. -/
def before? (ending cs : List Char) : Option (List Char) :=
  (after? ending.reverse cs.reverse).map List.reverse

/-- Whether a text ends with another. -/
def endsWith (ending cs : List Char) : Bool :=
  (before? ending cs).isSome

/-- Whether a text contains another. -/
def containsText (part : List Char) : List Char → Bool
  | [] => part.isEmpty
  | c :: cs => (after? part (c :: cs)).isSome || containsText part cs

/-- What follows a removed start is that much shorter. -/
theorem after?_length {start cs rest : List Char} (h : after? start cs = some rest) :
    start.length + rest.length = cs.length := by
  induction start generalizing cs with
  | nil => simp_all [after?]
  | cons p ps ih =>
    cases cs with
    | nil => simp [after?] at h
    | cons c cs =>
      simp only [after?] at h
      split at h
      · have := ih h; simp; omega
      · simp at h

/-- Removing a start and putting it back gives the text. -/
theorem eq_append_of_after? {start cs rest : List Char} (h : after? start cs = some rest) :
    cs = start ++ rest := by
  induction start generalizing cs with
  | nil => simp_all [after?]
  | cons p ps ih =>
    cases cs with
    | nil => simp [after?] at h
    | cons c cs =>
      simp only [after?] at h
      split at h
      · rename_i hpc
        simp [ih h, eq_of_beq hpc]
      · simp at h

/-- A start that was put in front can be removed. -/
@[simp]
theorem after?_append (start rest : List Char) : after? start (start ++ rest) = some rest := by
  induction start with
  | nil => rfl
  | cons p ps ih => simp [after?, ih]

/-- Every occurrence of the nonempty text `head :: tail` replaced, left to right. -/
def replaceAll (head : Char) (tail new : List Char) (cs : List Char) : List Char :=
  match cs with
  | [] => []
  | c :: rest =>
    match _h : after? (head :: tail) (c :: rest) with
    | some next => new ++ replaceAll head tail new next
    | none => c :: replaceAll head tail new rest
termination_by cs.length
decreasing_by
  · have := after?_length _h; simp at this ⊢; omega
  · simp

/-- Every occurrence of a character replaced by a text. -/
def replaceChar (old : Char) (new : List Char) (cs : List Char) : List Char :=
  cs.flatMap fun c => if c == old then new else [c]

/-- The texts of a list, with a separator between neighbours. -/
def join (separator : List Char) : List (List Char) → List Char
  | [] => []
  | [piece] => piece
  | piece :: pieces => piece ++ separator ++ join separator pieces

/-- A text as many times as asked. -/
def repeated (times : Nat) (cs : List Char) : List Char :=
  (List.replicate times cs).flatten

/-- Splitting gives at least one piece. -/
theorem splitBy_ne_nil (p : Char → Bool) (cs : List Char) : splitBy p cs ≠ [] := by
  induction cs with
  | nil => simp [splitBy]
  | cons c rest ih =>
    simp only [splitBy]
    split
    · simp
    · split <;> simp

/-- Joining the pieces with the separator gives the text back. -/
theorem join_splitOn (separator : Char) (cs : List Char) :
    join [separator] (splitOn separator cs) = cs := by
  induction cs with
  | nil => rfl
  | cons c rest ih =>
    simp only [splitOn, splitBy] at ih ⊢
    split
    · rename_i h
      have hne := splitBy_ne_nil (fun x => x == separator) rest
      cases hp : splitBy (fun x => x == separator) rest with
      | nil => exact absurd hp hne
      | cons piece pieces =>
        rw [hp] at ih
        simp [join, ih, eq_of_beq h]
    · have hne := splitBy_ne_nil (fun x => x == separator) rest
      cases hp : splitBy (fun x => x == separator) rest with
      | nil => exact absurd hp hne
      | cons piece pieces =>
        rw [hp] at ih
        cases pieces <;> simp_all [join]

end Scaffold.Text
