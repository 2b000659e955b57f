/-
Finding parts of a text from left to right, without overlap.

* `findAll` collects what a reader reads, trying every place in turn and going on
  behind each part that was read;
* `cutAt?` cuts a text at the first occurrence of another.
-/
import Scaffold.Text.Split

namespace Scaffold.Text

/-- What `read` finds in at most `bound` tries. -/
def findWithin {α : Type} (read : List Char → Option (α × List Char)) :
    Nat → List Char → List α
  | bound + 1, c :: cs =>
    match read (c :: cs) with
    | some (found, rest) => found :: findWithin read bound rest
    | none => findWithin read bound cs
  | _, _ => []

/-- What `read` finds in a text. A reader that takes at least one character needs no
more tries than there are characters. -/
def findAll {α : Type} (read : List Char → Option (α × List Char)) (cs : List Char) : List α :=
  findWithin read cs.length cs

/-- The parts of a text before and after the first occurrence of another. -/
def cutAt? (part : List Char) : List Char → Option (List Char × List Char)
  | [] => if part.isEmpty then some ([], []) else none
  | c :: cs =>
    match after? part (c :: cs) with
    | some rest => some ([], rest)
    | none => (cutAt? part cs).map fun (before, rest) => (c :: before, rest)

/-- Putting the parts and the cut text together gives the text. -/
theorem eq_append_of_cutAt? {part cs before rest : List Char}
    (h : cutAt? part cs = some (before, rest)) : cs = before ++ part ++ rest := by
  induction cs generalizing before with
  | nil =>
    simp only [cutAt?] at h
    split at h
    · rename_i hp
      simp_all
    · simp at h
  | cons c cs ih =>
    simp only [cutAt?] at h
    split at h
    · rename_i r hr
      simp only [Option.some.injEq, Prod.mk.injEq] at h
      obtain ⟨rfl, rfl⟩ := h
      simpa using eq_append_of_after? hr
    · obtain ⟨⟨b, r⟩, hb, heq⟩ := Option.map_eq_some_iff.mp h
      simp only [Prod.mk.injEq] at heq
      obtain ⟨rfl, rfl⟩ := heq
      simp [ih hb]

end Scaffold.Text
