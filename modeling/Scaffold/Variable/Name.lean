/-
The names of variables.

A variable may be named in any case, with blanks around it and with or without
percent signs. `bareName` is the name common to all these spellings, and
`canonicalKey` is that name between percent signs.
-/
import Scaffold.Text.Blank
import Scaffold.Text.Case

namespace Scaffold.Variable

open Text

/-- A name in capitals, without surrounding blanks and percent signs. -/
def bareName (name : String) : String :=
  String.ofList (upper (trimBy (· == '%') (trim name.toList)))

/-- A bare name between percent signs. -/
def canonicalKey (name : String) : String :=
  "%" ++ bareName name ++ "%"

/-- Two names have the same key when they have the same bare name. -/
theorem canonicalKey_inj {a b : String} : canonicalKey a = canonicalKey b ↔ bareName a = bareName b := by
  constructor
  · intro h
    have := congrArg String.toList h
    simp only [canonicalKey, String.toList_append] at this
    exact String.toList_inj.mp (List.append_cancel_left (List.append_cancel_right this))
  · intro h
    simp [canonicalKey, h]

end Scaffold.Variable
