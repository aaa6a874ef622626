import Mathlib.Data.List.Basic
import Mathlib.Data.List.Forall2
import TableTalk.Model.Reply
import TableTalk.Proofs.Text.Search

/-!
# Objects and plain records

The items of a reply and the blocks in them may be objects or plain records. What the reply says
depends on the values of their fields only: it is the texts among these values, trimmed, without the
blank ones, in their order. So a record may be put for an object that has the same field, and an
object for a record.
-/

namespace TableTalk.Model.Reply

open Text

/-- An object with a field of the value, or a plain record with this field only. -/
inductive Gives (name : String) (value : Reply) : Reply → Prop
  | object {fields : List (String × Reply)} (h : fields.lookup name = some value) :
      Gives name value (.object fields)
  | record : Gives name value (.record [(name, value)])

def HasTexts (values : List Reply) (item : Reply) : Prop :=
  ∃ blocks, List.Forall₂ (Gives "text") values blocks ∧ Gives "content" (.list blocks) item

/-- A response object without a direct text that is not blank. Its output is a list of items that
have the given values, item by item, as the texts of their blocks. -/
structure Holds (values : List (List Reply)) (fields : List (String × Reply)) : Prop where
  direct : ∀ s, fields.lookup "output_text" = some (.text s) → allBlank s.toList = true
  output : ∃ items, fields.lookup "output" = some (.list items) ∧
    List.Forall₂ HasTexts values items

def text? : Reply → Option String
  | text s => some s
  | _ => none

def trimmedTexts (values : List Reply) : List String :=
  ((values.filterMap text?).map trim).filter (· ≠ "")

theorem attr_object (name : String) (fields : List (String × Reply)) :
    (object fields).attr name = (fields.lookup name).getD null :=
  rfl

theorem trim_eq_empty_iff {s : String} : trim s = "" ↔ allBlank s.toList = true := by
  rw [trim, String.ofList_eq_empty_iff]
  constructor
  · intro h
    obtain ⟨w, w', hw, hw', hs, -, -⟩ := exists_trimChars s.toList
    rw [h, List.nil_append] at hs
    rw [hs, allBlank, List.all_append, ← allBlank, ← allBlank, hw, hw']
    rfl
  · intro h
    rw [trimChars, trimLeft_eq_nil_iff.2 h]
    rfl

theorem filterMap_spoken? (values : List Reply) :
    values.filterMap spoken? = trimmedTexts values := by
  induction values with
  | nil => rfl
  | cons value values ih =>
    unfold trimmedTexts at ih ⊢
    cases value with
    | text s =>
      by_cases hblank : allBlank s.toList = true
      · simp [spoken?, text?, hblank, trim_eq_empty_iff.2 hblank, ih]
      · simp [spoken?, text?, hblank, mt trim_eq_empty_iff.1 hblank, ih]
    | _ => exact ih

/-- A value that counts as nothing says nothing, so null may be put for it. -/
theorem spoken?_orElse_null (value : Reply) : (value.orElse null).spoken? = value.spoken? := by
  unfold orElse
  split
  · next hfalsy =>
    cases value with
    | text s =>
      have hempty : s = "" := by simpa [isFalsy] using hfalsy
      rw [hempty]
      rfl
    | _ => rfl
  · rfl

theorem blockText_of_gives {value block : Reply} (h : Gives "text" value block) :
    blockText block = value.spoken? := by
  cases h with
  | @object fields h =>
    change ((object fields).attr "text").spoken? = value.spoken?
    rw [attr_object, h, Option.getD_some]
  | record => exact spoken?_orElse_null value

theorem filterMap_blockText {values blocks : List Reply}
    (h : List.Forall₂ (Gives "text") values blocks) :
    blocks.filterMap blockText = values.filterMap spoken? := by
  induction h with
  | nil => rfl
  | cons hgives _ ih => rw [List.filterMap_cons, List.filterMap_cons, blockText_of_gives hgives, ih]

theorem content_of_gives {value item : Reply} (h : Gives "content" value item) :
    item.content = value := by
  cases h with
  | @object fields h =>
    change (object fields).attr "content" = value
    rw [attr_object, h, Option.getD_some]
  | record => rfl

theorem filterMap_items {values : List (List Reply)} {items : List Reply}
    (h : List.Forall₂ HasTexts values items) :
    (items.flatMap fun item => item.content.blocks).filterMap blockText =
      values.flatten.filterMap spoken? := by
  induction h with
  | nil => rfl
  | cons hitem _ ih =>
    obtain ⟨blocks, htexts, hcontent⟩ := hitem
    rw [List.flatMap_cons, List.filterMap_append, ih, content_of_gives hcontent, List.flatten_cons,
      List.filterMap_append]
    exact congrArg (· ++ _) (filterMap_blockText htexts)

theorem outputItems_list (items : List Reply) : outputItems (.list items) = .ok items := by
  cases items <;> rfl

theorem spoken_of_holds {values : List (List Reply)} {fields : List (String × Reply)}
    (h : Holds values fields) :
    (object fields).spoken = .ok (String.intercalate "\n" (trimmedTexts values.flatten)) := by
  obtain ⟨items, hitems, hvalues⟩ := h.output
  have hdirect : ((object fields).attr "output_text").spoken? = none := by
    rw [attr_object]
    cases hfield : fields.lookup "output_text" with
    | none => rfl
    | some value =>
      cases value with
      | text s => exact if_pos (h.direct s hfield)
      | _ => rfl
  have hattr : (object fields).attr "output" = .list items := by
    rw [attr_object, hitems]
    rfl
  rw [spoken, hdirect, hattr, outputItems_list]
  simp only [bind, Except.bind]
  rw [filterMap_items hvalues, filterMap_spoken?]
  rfl

/-- What a reply says are the texts in its blocks, trimmed, one to a line and without the blank
ones. A reply with objects and records in other places says the same if it holds the same values. -/
theorem spoken_either {values : List (List Reply)} {fields : List (String × Reply)}
    (h : Holds values fields) :
    (object fields).spoken = .ok (String.intercalate "\n" (trimmedTexts values.flatten)) ∧
      ∀ fields', Holds values fields' → (object fields').spoken = (object fields).spoken :=
  ⟨spoken_of_holds h, fun _ h' => (spoken_of_holds h').trans (spoken_of_holds h).symm⟩

def mixedValues : List (List Reply) :=
  [[.text " a ", .null, .text "b\n"], [.int 7, .text "\t", .text "c", .list [.text "d"]]]

def mixedReply : List (String × Reply) :=
  [("id", .text "r"), ("output_text", .text "  "), ("output", .list [
    .object [("type", .text "message"), ("content", .list [.record [("text", .text " a ")],
      .object [("text", .null)], .object [("text", .text "b\n")]])],
    .record [("content", .list [.record [("text", .int 7)], .record [("text", .text "\t")],
      .object [("text", .text "c"), ("type", .text "t")],
      .record [("text", .list [.text "d"])]])]])]

def turnedReply : List (String × Reply) :=
  [("output", .list [
    .record [("content", .list [.object [("text", .text " a ")],
      .record [("text", .null)], .record [("text", .text "b\n")]])],
    .object [("content", .list [.object [("text", .int 7)], .object [("text", .text "\t")],
      .record [("text", .text "c")], .object [("text", .list [.text "d"])]])]])]

theorem spoken_either_mixed :
    Holds mixedValues mixedReply ∧ Holds mixedValues turnedReply ∧
      (object mixedReply).spoken = .ok "a\nb\nc" ∧
      (object turnedReply).spoken = (object mixedReply).spoken := by
  have hmixed : Holds mixedValues mixedReply := by
    refine ⟨?_, _, rfl, ?_⟩
    · rintro s ⟨⟩
      decide
    · refine .cons ⟨_, ?_, .object rfl⟩ (.cons ⟨_, ?_, .record⟩ .nil)
      · exact .cons .record (.cons (.object rfl) (.cons (.object rfl) .nil))
      · exact .cons .record (.cons .record (.cons (.object rfl) (.cons .record .nil)))
  have hturned : Holds mixedValues turnedReply := by
    refine ⟨nofun, _, rfl, ?_⟩
    refine .cons ⟨_, ?_, .record⟩ (.cons ⟨_, ?_, .object rfl⟩ .nil)
    · exact .cons (.object rfl) (.cons .record (.cons .record .nil))
    · exact .cons (.object rfl) (.cons (.object rfl) (.cons .record (.cons (.object rfl) .nil)))
  obtain ⟨hspoken, hsame⟩ := spoken_either hmixed
  refine ⟨hmixed, hturned, hspoken.trans ?_, hsame turnedReply hturned⟩
  decide +kernel

end TableTalk.Model.Reply
