import Mathlib.Tactic
import Scaffold.Proofs.WrittenValues
import Scaffold.Record

/-!
Records are read as they were written.

* `CreatedItem.recovers_reader`: an item is read from any text that writes its value, part by part;
* `Record.load_write`: the bytes of a record give the items that were written, in their order. What
  the record is called does not matter.
-/

namespace Scaffold

open Json Json.Reader

/-- A file that a text was written to has that text. -/
lemma Document.textOf_toUTF8 (path text : String) :
    Document.textOf path text.toUTF8 = .ok text := by
  rw [Document.textOf, String.fromUTF8?, String.toUTF8_eq_toByteArray, dif_pos text.isValidUTF8]
  rfl

namespace CreatedItem

lemma numberless_toValue (i : CreatedItem) : i.toValue.Numberless := by
  refine .object fun m hm => ?_
  fin_cases hm
  · exact .text _
  · exact .text _
  · exact .bool _

lemma recovers_readKind (kind : ItemKind) : Recovers readKind kind (.text kind.name) :=
  recovers_choice (by cases kind <;> rfl)

/-- **An item is read part by part**, from any text that writes its value. -/
theorem recovers_reader (i : CreatedItem) : Recovers reader i i.toValue := by
  have hpath : RecoversPart (readPart "path" {}) ⟨i.path, none, none⟩ (.text i.path) :=
    (recoversPart_part (recovers_textOf _ i.path)).map
  have hkind : RecoversPart (readPart "item_type" ⟨i.path, none, none⟩) ⟨i.path, i.kind, none⟩
      (.text i.kind.name) :=
    (recoversPart_part (recovers_readKind i.kind)).map
  have hflag : RecoversPart (readPart "pre_existed" ⟨i.path, i.kind, none⟩)
      ⟨i.path, i.kind, i.preExisted⟩ (.bool i.preExisted) :=
    (recoversPart_part (recovers_boolean i.preExisted)).map
  exact recovers_record (folds_cons hpath (folds_cons hkind (folds_cons hflag folds_nil)))
    fun x => reads_pure.bind (reads_pure.bind (reads_pure.bind reads_pure))

end CreatedItem

namespace Record

lemma numberless_items (items : List CreatedItem) :
    (Value.array (items.map CreatedItem.toValue)).Numberless := by
  refine .array fun v hv => ?_
  obtain ⟨i, -, rfl⟩ := List.mem_map.mp hv
  exact i.numberless_toValue

/-- The text of a record gives its items. -/
lemma read_write (items : List CreatedItem) : read (write items) = .ok items := by
  have hitems : Recovers (list CreatedItem.reader) items
      (.array (items.map CreatedItem.toValue)) :=
    recovers_list _ fun i _ => i.recovers_reader
  have hspells := (numberless_items items).spells_pretty 0
  exact readJson_of_spells hitems (by rwa [write, Value.pretty, String.toList_ofList])

/-- **A record gives the items that were written**, in their order, whatever characters their paths
have and whatever the record is called. -/
theorem load_write (path : String) (items : List CreatedItem) :
    (Document.textOf path (write items).toUTF8).bind
      (fun text => Document.loaded path (read text)) = .ok items := by
  rw [Document.textOf_toUTF8, Except.bind, read_write, Document.loaded]

end Record

end Scaffold
