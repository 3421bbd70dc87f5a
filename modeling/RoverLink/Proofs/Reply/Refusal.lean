import RoverLink.Proofs.Reply.Grammar

/-!
# Refusals

A device refuses a request with a positive status and a text that explains it.
The first closing bracket of a line ends its list, so the text has to be written
without one: then the line is read as the status and the text (`read_refusal`).
A literal with a bracket is cut off there, and what is left is no list
(`read_refusal_of_mem`): the JSON library refuses it, in words of its own.
-/

namespace RoverLink.Reply

open Decimal

/-- The line of a refusal with a code and a text that is written as a literal. -/
def refusal (code : Int32) (literal : List Char) : List Char :=
  '#' :: '[' :: (signed code.toInt ++ ',' :: '"' :: literal ++ ['"', ']'])

/-- What is left of the list of a refusal whose literal is cut off at its first bracket. -/
def cutList (code : Int32) (literal : List Char) : List Char :=
  '[' :: (signed code.toInt ++ ',' :: '"' :: literal.takeWhile (· != ']')) ++ [']']

theorem isItem_status (code : Int32) : Json.IsItem (signed code.toInt) (.whole code.toInt) := by
  have least := code.le_toInt
  have below := code.toInt_lt
  apply Json.isItem_signed
  · omega
  · rw [Word.count64]
    omega

theorem not_mem_status_append
    (code : Int32)
    {quoted : List Char}
    (unclosed : ']' ∉ quoted) :
    ']' ∉ signed code.toInt ++ ',' :: '"' :: quoted := by
  simp [not_mem_of_isDecimal (isDecimal_signed code.toInt), unclosed]

section

variable {literal text : List Char} (isLiteral : Json.IsLiteral literal text)

include isLiteral

/-- A refusal is read as its code and its text. -/
theorem read_refusal (code : Int32) (unclosed : ']' ∉ literal) :
    read (refusal code literal) = .ok ⟨code, [.text (String.ofList text)], none, none⟩ := by
  have quoted : ']' ∉ literal ++ ['"'] := by simp [unclosed]
  have closes := not_mem_status_append code quoted
  have line : refusal code literal = (Layout.plain closes []).text := by
    simp [refusal, Layout.plain, Layout.text]
  have list : (Layout.plain closes []).list =
      '[' :: (Json.joined (signed code.toInt) ['"' :: literal ++ ['"']] ++ [']']) := by
    simp [Layout.plain, Layout.list, Json.joined]
  have items := readList_joined (isItem_status code)
    (.cons (Json.isItem_of_isLiteral isLiteral) .nil)
  rw [line, read_text, ofParts, list, items]
  simp only [readStatus, Word.int32?_toInt, readValues, readValue]
  rfl

/-- A refusal whose literal has a bracket is cut off there and has no list. -/
theorem read_refusal_of_mem (code : Int32) (closed : ']' ∈ literal) :
    read (refusal code literal) = .error (.malformed (.invalidList (cutList code literal))) := by
  rcases List.eq_append_cons_of_mem closed with ⟨front, back, split, unclosed⟩
  have closes := not_mem_status_append code unclosed
  have line : refusal code literal = (Layout.plain closes (back ++ ['"', ']'])).text := by
    simp [refusal, Layout.plain, Layout.text, split]
  have list : (Layout.plain closes (back ++ ['"', ']'])).list =
      '[' :: (signed code.toInt ++ ',' :: '"' :: (front ++ [']'])) := by
    simp [Layout.plain, Layout.list]
  have kept : literal.takeWhile (· != ']') = front := by
    have other : ∀ character ∈ front, (character != ']') = true := by
      intro character member
      simpa using ne_of_mem_of_not_mem member unclosed
    simp [split, List.takeWhile_append_of_pos other]
  have cut : cutList code literal =
      '[' :: (signed code.toInt ++ ',' :: '"' :: (front ++ [']'])) := by
    simp [cutList, kept]
  have unread := Json.read?_of_cut (isItem_status code).toIsToken
    (Json.readText_of_cut isLiteral split)
  rw [line, read_text, ofParts, list, readList, unread, cut]

end

end RoverLink.Reply
