import RoverLink.Proofs.Json.Items
import RoverLink.Proofs.Reply.Layout

/-!
# The grammar of replies

A reply is written as `#`, perhaps an opcode, a list of the status and the
values in brackets, perhaps a colon and four hexadecimal digits, and line ends.
`WrittenReply` is a reply together with one way of writing it.  Every such line
decodes, and to the reply that was written (`decodes_written`), whatever marks
of the grammar stand in its texts.
-/

namespace RoverLink.Reply

open Decimal
open Json (IsHexDigit IsInteger IsItem IsLiteral)

/-! ### Writing -/

/--
A value and how it is written: an integer that is a number without rounding, in
decimal, or a text as a literal.  The first closing bracket ends the list, so a
literal has none; a text can still have one by its code.
-/
inductive WrittenValue where
  | integer (value : Int) (numeral : List Char)
      (written : IsDecimal numeral value)
      (small : value.natAbs ≤ Binary64.greatestWhole)
  | text (value : String) (literal : List Char)
      (written : IsLiteral literal value.toList)
      (unclosed : ']' ∉ literal)

def WrittenValue.spelling : WrittenValue → List Char
  | .integer _ numeral _ _ => numeral
  | .text _ literal _ _ => '"' :: literal ++ ['"']

/-- Two octets, the number of a request and a check, and the digits that they are written in. -/
structure WrittenMetadata where
  id : UInt8
  crc : UInt8
  first : Char
  second : Char
  third : Char
  fourth : Char
  ofFirst : IsHexDigit first (id.toNat / 16)
  ofSecond : IsHexDigit second (id.toNat % 16)
  ofThird : IsHexDigit third (crc.toNat / 16)
  ofFourth : IsHexDigit fourth (crc.toNat % 16)

def WrittenMetadata.spelling (metadata : WrittenMetadata) : List Char :=
  [':', metadata.first, metadata.second, metadata.third, metadata.fourth]

/-- A reply and how it is written. -/
structure WrittenReply where
  opcode : Option Char
  status : Int32
  numeral : List Char
  values : List WrittenValue
  metadata : Option WrittenMetadata
  ending : List Char
  /-- The list begins at the first opening bracket, which no command has as its opcode. -/
  noBracket : opcode ≠ some '['
  ofStatus : IsDecimal numeral status.toInt
  ends : ∀ character ∈ ending, Text.isLineEnd character = true

namespace WrittenReply

/-- What stands in brackets. -/
def inner (written : WrittenReply) : List Char :=
  written.numeral ++ written.values.flatMap fun value => ',' :: value.spelling

/-- What stands behind the brackets. -/
def tail (written : WrittenReply) : List Char :=
  (written.metadata.elim [] WrittenMetadata.spelling) ++ written.ending

def line (written : WrittenReply) : List Char :=
  '#' :: (written.opcode.toList ++ '[' :: (written.inner ++ ']' :: written.tail))

end WrittenReply

/-! ### Values -/

/-- What a value is read as, wherever it stands. -/
def WrittenValue.Stands : WrittenValue → ReplyValue → Prop
  | .integer value _ _ _, read => ∃ number, read = .number number ∧ number.toInt? = some value
  | .text value _ _ _, read => read = .text value

theorem readValue_of_isInteger
    {document : Document}
    {integer : Int}
    (isInteger : IsInteger document integer)
    (small : integer.natAbs ≤ Binary64.greatestWhole) :
    ∃ number, readValue document = .ok (.number number) ∧ number.toInt? = some integer := by
  cases isInteger with
  | whole => exact ⟨_, rfl, Binary64.toInt?_ofInt small⟩
  | negativeZero => exact ⟨_, rfl, Binary64.toInt?_ofRatio_zero true⟩

/-- A value is an item of a list and is read as what was written. -/
theorem WrittenValue.exists_isItem (value : WrittenValue) :
    ∃ document, IsItem value.spelling document ∧
      ∃ read, readValue document = .ok read ∧ value.Stands read := by
  cases value with
  | integer value numeral written small =>
    rcases Json.exists_isItem_of_isDecimal written small with ⟨document, item, isInteger⟩
    rcases readValue_of_isInteger isInteger small with ⟨number, reads, same⟩
    exact ⟨document, item, _, reads, number, rfl, same⟩
  | text value literal written unclosed =>
    refine ⟨_, Json.isItem_of_isLiteral written, _, rfl, ?_⟩
    exact congrArg ReplyValue.text String.ofList_toList

theorem exists_items (values : List WrittenValue) :
    ∃ documents, List.Forall₂ IsItem (values.map WrittenValue.spelling) documents ∧
      ∃ reads, readValues documents = .ok reads ∧
        List.Forall₂ WrittenValue.Stands values reads := by
  induction values with
  | nil => exact ⟨[], .nil, [], rfl, .nil⟩
  | cons value values induction =>
    rcases value.exists_isItem with ⟨document, item, read, readsFirst, stands⟩
    rcases induction with ⟨documents, items, reads, readsRest, standing⟩
    refine ⟨document :: documents, .cons item items, read :: reads, ?_, .cons stands standing⟩
    rw [readValues, readsFirst, readsRest]

theorem readStatus_of_isInteger
    {document : Document}
    {status : Int32}
    (isInteger : IsInteger document status.toInt) :
    readStatus document = .ok status := by
  generalize written : status.toInt = integer at isInteger
  have fits : Word.int32? integer = some status := by rw [← written, Word.int32?_toInt]
  cases isInteger with
  | whole => rw [readStatus, fits]
  | negativeZero => rw [readStatus, Binary64.toInt?_ofRatio_zero, Option.bind_some, fits]

/-- A list of items is not too deep, and none of it is unreadable. -/
theorem readList_joined
    {text : List Char}
    {document : Document}
    (item : IsItem text document)
    {texts : List (List Char)}
    {documents : List Document}
    (items : List.Forall₂ IsItem texts documents) :
    readList ('[' :: (Json.joined text texts ++ [']'])) = some (document :: documents) := by
  have all : List.Forall₂ IsItem (text :: texts) (document :: documents) := .cons item items
  have readable : (Document.list (document :: documents)).isReadable = true :=
    Json.areReadable_of_forall₂ all
  have depth : (Document.list (document :: documents)).depth = 1 :=
    congrArg (· + 1) (Json.depthOfItems_of_forall₂ all)
  rw [readList, Json.read?_list item.toIsToken (items.imp fun _ _ => IsItem.toIsToken)]
  simp [readable, depth, maximumDepth]

/-! ### Metadata -/

theorem WrittenMetadata.trim_spelling (metadata : WrittenMetadata) :
    Text.trim metadata.spelling = metadata.spelling := by
  apply Text.trim_of_all_not_blank
  intro character member
  simp only [spelling, List.mem_cons, List.not_mem_nil, or_false] at member
  rcases member with rfl | rfl | rfl | rfl | rfl
  · decide
  · exact (isHex_of_isHexDigit metadata.ofFirst).isBlank_eq_false
  · exact (isHex_of_isHexDigit metadata.ofSecond).isBlank_eq_false
  · exact (isHex_of_isHexDigit metadata.ofThird).isBlank_eq_false
  · exact (isHex_of_isHexDigit metadata.ofFourth).isBlank_eq_false

/-- Both octets are read, whatever line ends follow. -/
theorem WrittenMetadata.readMetadata_append
    (metadata : WrittenMetadata)
    {ending : List Char}
    (ends : ∀ character ∈ ending, Text.isLineEnd character = true) :
    readMetadata (metadata.spelling ++ ending) = (some metadata.id, some metadata.crc) := by
  have trimmed := Text.trim_append_of_all_blank metadata.spelling
    fun character member => Text.isBlank_of_isLineEnd (ends character member)
  rw [readMetadata, trimmed, metadata.trim_spelling]
  simp only [spelling, hexOctet?_of_isHexDigit metadata.ofFirst metadata.ofSecond,
    hexOctet?_of_isHexDigit metadata.ofThird metadata.ofFourth]

/-- Both octets are read, or none of them is there. -/
theorem WrittenReply.readMetadata_tail (written : WrittenReply) :
    readMetadata written.tail =
      (written.metadata.map (·.id), written.metadata.map (·.crc)) := by
  rw [tail]
  cases written.metadata with
  | none =>
    have trimmed := Text.trim_append_of_all_blank []
      fun character member => Text.isBlank_of_isLineEnd (written.ends character member)
    rw [readMetadata, Option.elim_none, trimmed]
    rfl
  | some metadata => exact metadata.readMetadata_append written.ends

/-! ### Lines -/

theorem not_mem_of_isDecimal
    {numeral : List Char}
    {integer : Int}
    (written : IsDecimal numeral integer) :
    ']' ∉ numeral := by
  have digits : ∀ number, ']' ∉ Decimal.digits number := fun number member =>
    absurd (isDigit_of_mem_digits member) (by decide)
  cases written with
  | unsigned magnitude => exact digits magnitude
  | negative magnitude => simpa using digits magnitude

theorem WrittenValue.not_mem_spelling (value : WrittenValue) : ']' ∉ value.spelling := by
  cases value with
  | integer _ _ written _ => exact not_mem_of_isDecimal written
  | text _ _ _ unclosed => simpa [spelling] using unclosed

/-- The brackets around the list are where the line is cut. -/
def WrittenReply.layout (written : WrittenReply) : Layout where
  lead := written.opcode.toList
  inner := written.inner
  tail := written.tail
  opens := by
    simpa using written.noBracket
  closes := by
    have values := fun value : WrittenValue => value.not_mem_spelling
    simp [inner, not_mem_of_isDecimal written.ofStatus, values]

/-- What asking for the value at a place gives. -/
def WrittenValue.IsAt (value : WrittenValue) (reply : Reply) (index : Nat) : Prop :=
  match value with
  | .integer value _ _ _ => ∃ word, reply.integer index = .ok word ∧ word.toInt = value
  | .text value _ _ _ => reply.text index = .ok value

/-- An integer that is a number without rounding fits in 64 bits. -/
theorem WrittenValue.Stands.isAt
    {value : WrittenValue}
    {read : ReplyValue}
    (stands : value.Stands read)
    {reply : Reply}
    {index : Nat}
    (place : reply.values[index]? = some read) :
    value.IsAt reply index := by
  cases value with
  | integer value numeral written small =>
    rcases stands with ⟨number, rfl, whole⟩
    have fits : Word.int64? value = some (Int64.ofInt value) := by
      rw [Binary64.greatestWhole] at small
      rw [Word.int64?, if_pos (by omega)]
    refine ⟨Int64.ofInt value, ?_, Word.toInt_of_int64? fits⟩
    simp [Reply.integer, Reply.number, place, ReplyValue.number?, whole, fits]
  | text value literal written unclosed =>
    cases stands
    simp [IsAt, Reply.text, place, ReplyValue.text?]

/-- What a reply keeps of how it was written. -/
structure WrittenReply.IsKept (written : WrittenReply) (reply : Reply) : Prop where
  status : reply.status = written.status
  count : reply.values.length = written.values.length
  values : ∀ (index : Nat) (value : WrittenValue),
    written.values[index]? = some value → value.IsAt reply index
  id : reply.id = written.metadata.map (·.id)
  crc : reply.crc = written.metadata.map (·.crc)

/-- A line of the grammar decodes to what was written. -/
theorem decodes_written (written : WrittenReply) :
    ∃ reply, read written.line = .ok reply ∧ written.IsKept reply := by
  have small : written.status.toInt.natAbs ≤ Binary64.greatestWhole := by
    have low := written.status.le_toInt
    have high := written.status.toInt_lt
    rw [Binary64.greatestWhole]
    omega
  rcases Json.exists_isItem_of_isDecimal written.ofStatus small with ⟨document, item, isInteger⟩
  rcases exists_items written.values with ⟨documents, items, reads, readsValues, standing⟩
  have list : written.layout.list =
      '[' :: (Json.joined written.numeral (written.values.map WrittenValue.spelling) ++ [']']) := by
    simp [Layout.list, WrittenReply.layout, WrittenReply.inner, Json.joined, List.flatMap_map]
  have decoded : read written.line = .ok ⟨written.status, reads,
      written.metadata.map (·.id), written.metadata.map (·.crc)⟩ := by
    rw [show written.line = written.layout.text from rfl, read_text, list, ofParts,
      readList_joined item items]
    simp only [readStatus_of_isInteger isInteger, readsValues]
    rw [show written.layout.tail = written.tail from rfl, written.readMetadata_tail]
  refine ⟨_, decoded, ⟨rfl, standing.length_eq.symm, ?_, rfl, rfl⟩⟩
  intro index value place
  rcases List.getElem?_eq_some_iff.mp place with ⟨inside, rfl⟩
  have standsAt := standing.get inside (standing.length_eq ▸ inside)
  exact standsAt.isAt (List.getElem?_eq_getElem _)

example :
    read ['#', 'E', '[', '-', '3', ',', '"', '[', ':', ',', '\\', 'u', '0', '0', '5', 'D', '"',
      ']', ':', '0', 'a', 'F', '5', '\r', '\n'] =
      .ok ⟨-3, [.text "[:,]"], some 0x0a, some 0xf5⟩ := by
  decide +kernel

end RoverLink.Reply
