/-
Names of files and folders.

A name is one ordinary path component that every common filesystem takes.
* `Name.Fault` lists what can be wrong with a name;
* `Name.fault?` finds the first fault, in a fixed order;
* `Name.check` accepts a name without fault.
-/
import Scaffold.Error
import Scaffold.Text.Blank
import Scaffold.Text.Case
import Scaffold.Text.Split

namespace Scaffold.Name

open Text

/-- The longest name that is accepted, in bytes. -/
def maxLength : Nat := 255

/-- What can be wrong with a name. -/
inductive Fault where
  | blank
  | tooLong
  | relative
  | separator
  | nul
  | control
  | character (c : Char)
  | reserved
  | ending
  deriving Repr, DecidableEq

/-- The reason given for refusing a name. -/
def Fault.reason : Fault → String
  | blank => "name is empty"
  | tooLong => "name is longer than 255 bytes"
  | relative => "relative path components are not allowed"
  | separator => "path separators are not allowed"
  | nul => "null bytes are not allowed"
  | control => "control characters are not allowed"
  | character c => "character '" ++ String.singleton c ++ "' is not allowed"
  | reserved => "reserved device name"
  | ending => "names cannot end with a space or period"

/-- Characters with a meaning of their own on some filesystem. -/
def isIllegal (c : Char) : Bool :=
  "<>:\"|?*".toList.contains c

/-- Names of devices, which no file may have with any extension. -/
def reservedNames : List String :=
  ["CON", "PRN", "AUX", "NUL", "COM1", "COM2", "COM3", "COM4", "COM5", "COM6", "COM7",
   "COM8", "COM9", "LPT1", "LPT2", "LPT3", "LPT4", "LPT5", "LPT6", "LPT7", "LPT8", "LPT9"]

/-- Whether the part before the first period, without blanks at its end, is the
name of a device. -/
def isReserved (cs : List Char) : Bool :=
  let base := trimEnd (cs.takeWhile (· != '.'))
  reservedNames.any fun name => eqIgnoringCase name.toList base

/-- The first fault of a name. -/
def fault? (name : String) : Option Fault :=
  let cs := name.toList
  if (trim cs).isEmpty then some .blank
  else if maxLength < name.utf8ByteSize then some .tooLong
  else if name = "." ∨ name = ".." then some .relative
  else if cs.contains '/' || cs.contains '\\' then some .separator
  else if cs.contains '\x00' then some .nul
  else if cs.any isControl then some .control
  else match cs.find? isIllegal with
    | some c => some (.character c)
    | none =>
      if isReserved cs then some .reserved
      else if cs.getLast? = some ' ' ∨ cs.getLast? = some '.' then some .ending
      else none

/-- The start of a name as it is shown in messages: at most 64 characters, with
a replacement for control characters. -/
def shown (name : String) : String :=
  String.ofList ((name.toList.take 64).map fun c => if isControl c then '\ufffd' else c)

/-- Accepts a name without fault. -/
def check (name : String) : Except Violation String :=
  match fault? name with
  | none => .ok name
  | some fault => .error (.invalidName (shown name) fault.reason)

/-- A name is accepted exactly when it has no fault. -/
theorem check_eq_ok_iff {name accepted : String} :
    check name = .ok accepted ↔ fault? name = none ∧ accepted = name := by
  unfold check
  cases fault? name with
  | none => simp [eq_comm]
  | some fault => simp

/-- A name without fault is one path component. -/
theorem not_mem_separator_of_fault?_eq_none {name : String} (h : fault? name = none) :
    '/' ∉ name.toList ∧ name ≠ "" ∧ name ≠ "." ∧ name ≠ ".." := by
  unfold fault? at h
  dsimp only at h
  split at h
  · simp at h
  · rename_i hblank
    split at h
    · simp at h
    · split at h
      · simp at h
      · rename_i hrel
        split at h
        · simp at h
        · rename_i hsep
          refine ⟨by simp at hsep; exact hsep.1, ?_, fun e => hrel (.inl e),
            fun e => hrel (.inr e)⟩
          rintro rfl
          simp [trim, trimBy, dropEndWhile] at hblank

end Scaffold.Name
