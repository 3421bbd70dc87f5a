import RoverLink.Proofs.Reply.Layout
import RoverLink.Proofs.Text.Slicing
import RoverLink.Reply.Offsets

/-!
# Offsets in a reply

Brackets and hexadecimal digits are single octets, so the offsets at which a
reply is cut out of its line are places between characters, whatever else the
line holds.  Reading by offsets never fails to cut, and reads the same
(`readAt?_eq_some`).
-/

namespace RoverLink.Reply

/-! ### Metadata -/

theorem isHexDigit_eq_true_iff {character : Char} :
    isHexDigit character = true ↔ IsHex character :=
  Option.isSome_iff_exists

theorem IsHex.utf8Size_eq
    {character : Char}
    (hex : IsHex character) :
    character.utf8Size = 1 := by
  apply Char.utf8Size_eq_one_iff.mpr
  rw [UInt32.le_iff_toNat_le]
  exact Nat.le_of_lt_succ hex.toNat_lt

theorem octetCount_of_isHex
    {digits : List Char}
    (hex : ∀ digit ∈ digits, IsHex digit) :
    Text.octetCount digits = digits.length := by
  induction digits with
  | nil => rfl
  | cons first rest induction =>
    rw [List.forall_mem_cons] at hex
    rw [Text.octetCount_cons, hex.1.utf8Size_eq, induction hex.2, List.length_cons, Nat.add_comm]

theorem exists_hexOctet?_eq_some
    {high low : Char}
    (highHex : IsHex high)
    (lowHex : IsHex low) :
    ∃ octet, hexOctet? high low = some octet := by
  rcases highHex with ⟨upper, ofHigh⟩
  rcases lowHex with ⟨lower, ofLow⟩
  exact ⟨_, by rw [hexOctet?, ofHigh, ofLow]; rfl⟩

/-- Four digits are cut in the middle. -/
theorem slices_of_isHex
    {first second third fourth : Char}
    (hex : ∀ digit ∈ [first, second, third, fourth], IsHex digit) :
    Text.slice? 0 2 [first, second, third, fourth] = some [first, second] ∧
      Text.slice? 2 4 [first, second, third, fourth] = some [third, fourth] := by
  simp only [List.forall_mem_cons] at hex
  have front : Text.octetCount [first, second] = 2 :=
    octetCount_of_isHex (by simp [hex])
  have back : Text.octetCount [first, second, third, fourth] = 4 :=
    octetCount_of_isHex (by simp [hex])
  constructor
  · have cut := Text.slice?_append [] [first, second] [third, fourth]
    rw [Text.octetCount_nil, List.nil_append, front] at cut
    exact cut
  · have cut := Text.slice?_append [first, second] [third, fourth] []
    rw [front, List.append_nil] at cut
    rwa [List.cons_append, List.cons_append, List.nil_append, back] at cut

/-- What is cut out of four digits is what they are read as. -/
theorem metadataAt?_of_isHex
    {tail : List Char}
    {first second third fourth : Char}
    (trimmed : Text.trim tail = [':', first, second, third, fourth])
    (hex : ∀ digit ∈ [first, second, third, fourth], IsHex digit) :
    metadataAt? tail = some (readMetadata tail) := by
  have all : [first, second, third, fourth].all isHexDigit = true :=
    List.all_eq_true.mpr fun digit member => isHexDigit_eq_true_iff.mpr (hex digit member)
  rcases slices_of_isHex hex with ⟨front, back⟩
  rcases exists_hexOctet?_eq_some (hex first (by simp)) (hex second (by simp)) with ⟨id, isId⟩
  rcases exists_hexOctet?_eq_some (hex third (by simp)) (hex fourth (by simp)) with ⟨crc, isCrc⟩
  rw [metadataAt?, readMetadata, trimmed]
  simp only [isId, isCrc]
  rw [if_pos ⟨octetCount_of_isHex hex, all⟩, front, back]
  simp [octet?, isId, isCrc]

/-- A tail without metadata is not cut. -/
theorem metadataAt?_of_not_isHex
    {tail : List Char}
    (other : ∀ first second third fourth,
      Text.trim tail = [':', first, second, third, fourth] →
        ¬ ∀ digit ∈ [first, second, third, fourth], IsHex digit) :
    metadataAt? tail = some (none, none) := by
  rw [metadataAt?]
  split
  next digits trimmed =>
    apply if_neg
    rintro ⟨count, all⟩
    have hex : ∀ digit ∈ digits, IsHex digit := fun digit member =>
      isHexDigit_eq_true_iff.mp (List.all_eq_true.mp all digit member)
    rw [octetCount_of_isHex hex] at count
    rcases List.length_eq_four.mp count with ⟨first, second, third, fourth, rfl⟩
    exact other first second third fourth trimmed hex
  next => rfl

/-- The metadata of every tail is cut out where it stands. -/
theorem metadataAt?_eq_some (tail : List Char) :
    metadataAt? tail = some (readMetadata tail) := by
  by_cases digits : ∃ first second third fourth,
      Text.trim tail = [':', first, second, third, fourth] ∧
        ∀ digit ∈ [first, second, third, fourth], IsHex digit
  · rcases digits with ⟨first, second, third, fourth, trimmed, hex⟩
    exact metadataAt?_of_isHex trimmed hex
  · rw [metadataAt?_of_not_isHex fun first second third fourth trimmed hex =>
      digits ⟨first, second, third, fourth, trimmed, hex⟩]
    cases metadata : readMetadata tail with
    | mk id crc =>
      rw [readMetadata] at metadata
      split at metadata
      next first second third fourth trimmed =>
        split at metadata
        next isId isCrc =>
          have front := isHex_of_hexOctet? isId
          have back := isHex_of_hexOctet? isCrc
          refine absurd ⟨first, second, third, fourth, trimmed, ?_⟩ digits
          simp [front, back]
        next => rw [metadata]
      next => rw [metadata]

/-! ### Lines -/

/-- The forms of a line without line ends: what it lacks of a frame, or its layout. -/
inductive Form : List Char → Prop where
  | unmarked {line : List Char} (start : line.head? ≠ some '#') : Form line
  | unopened {lead : List Char} (opens : '[' ∉ lead) : Form ('#' :: lead)
  | unclosed {lead opened : List Char} (opens : '[' ∉ lead) (unclosed : ']' ∉ opened) :
      Form ('#' :: (lead ++ '[' :: opened))
  | laidOut (layout : Layout) : Form layout.text

theorem form (line : List Char) : Form line := by
  cases line with
  | nil => exact .unmarked (by simp)
  | cons mark rest =>
    by_cases marked : mark = '#'
    · subst marked
      by_cases opening : '[' ∈ rest
      · rcases List.eq_append_cons_of_mem opening with ⟨lead, opened, rfl, opens⟩
        by_cases closing : ']' ∈ opened
        · rcases List.eq_append_cons_of_mem closing with ⟨inner, tail, rfl, closes⟩
          exact .laidOut ⟨lead, inner, tail, opens, closes⟩
        · exact .unclosed opens closing
      · exact .unopened opening
    · exact .unmarked (by simpa using marked)

section

variable {lead : List Char} (opens : '[' ∉ lead)

include opens

theorem bracketsAt?_of_opened (opened : List Char) :
    bracketsAt? ('#' :: (lead ++ '[' :: opened)) =
      match Text.offsetOf? ']' ('[' :: opened) with
      | none => some (.error .truncated)
      | some width =>
        some (.ok (Text.octetCount ('#' :: lead), Text.octetCount ('#' :: lead) + width)) := by
  have absent : '[' ∉ '#' :: lead := by simpa using opens
  have found := Text.offsetOf?_append_cons absent opened
  have cut := Text.sliceFrom?_append ('#' :: lead) ('[' :: opened)
  rw [List.cons_append] at found cut
  rw [bracketsAt?, if_pos List.head?_cons, found]
  cases width : Text.offsetOf? ']' ('[' :: opened) <;>
    simp only [cut, width, Option.bind_eq_bind, Option.bind_some]

/-- The brackets of a list that is closed are found where they stand. -/
theorem bracketsAt?_of_closed
    {inner : List Char}
    (closes : ']' ∉ inner)
    (tail : List Char) :
    bracketsAt? ('#' :: (lead ++ '[' :: (inner ++ ']' :: tail))) =
      some (.ok (Text.octetCount ('#' :: lead),
        Text.octetCount ('#' :: (lead ++ '[' :: inner)))) := by
  have absent : ']' ∉ '[' :: inner := by simpa using closes
  have found := Text.offsetOf?_append_cons absent tail
  rw [List.cons_append] at found
  rw [bracketsAt?_of_opened opens, found]
  simp only [Text.octetCount_cons, Text.octetCount_append, Nat.add_assoc]

theorem bracketsAt?_of_unclosed
    {opened : List Char}
    (unclosed : ']' ∉ opened) :
    bracketsAt? ('#' :: (lead ++ '[' :: opened)) = some (.error .truncated) := by
  rw [bracketsAt?_of_opened opens, Text.offsetOf?_of_not_mem (by simpa using unclosed)]

theorem bracketsAt?_of_unopened :
    bracketsAt? ('#' :: lead) = some (.error (.malformed .missingBracket)) := by
  rw [bracketsAt?, if_pos List.head?_cons, Text.offsetOf?_of_not_mem (by simpa using opens)]

end

/-- What a laid out line is cut into. -/
theorem slices_text (layout : Layout) :
    Text.slice? (Text.octetCount ('#' :: layout.lead))
        (Text.octetCount ('#' :: (layout.lead ++ '[' :: layout.inner)) + 1) layout.text =
          some layout.list ∧
      Text.sliceFrom? (Text.octetCount ('#' :: (layout.lead ++ '[' :: layout.inner)) + 1)
        layout.text = some layout.tail := by
  have stop : Text.octetCount ('#' :: (layout.lead ++ '[' :: layout.inner)) + 1 =
      Text.octetCount ('#' :: layout.lead ++ layout.list) := by
    simp only [Layout.list, List.cons_append, Text.octetCount_cons, Text.octetCount_append,
      Text.octetCount_nil]
    rw [show (']' : Char).utf8Size = 1 from rfl]
    omega
  have text : layout.text = '#' :: layout.lead ++ layout.list ++ layout.tail := by
    simp [Layout.text, Layout.list]
  rw [stop, text]
  exact ⟨Text.slice?_append _ _ _, Text.sliceFrom?_append _ _⟩

/-- Reading by offsets never fails to cut, and reads the same. -/
theorem readAt?_eq_some (line : List Char) : readAt? line = some (read line) := by
  rw [← read_dropEndWhile, readAt?]
  generalize Text.dropEndWhile Text.isLineEnd line = text
  cases form text with
  | unmarked start =>
    have noMarker : bracketsAt? text = some (.error (.malformed .missingStartMarker)) :=
      if_neg start
    rw [read_of_unmarked start, noMarker]
    rfl
  | unopened opens =>
    rw [read_of_unopened opens, bracketsAt?_of_unopened opens]
    rfl
  | unclosed opens unclosed =>
    rw [read_of_unclosed opens unclosed, bracketsAt?_of_unclosed opens unclosed]
    rfl
  | laidOut layout =>
    have brackets := bracketsAt?_of_closed layout.opens layout.closes layout.tail
    rcases slices_text layout with ⟨list, tail⟩
    rw [← Layout.text] at brackets
    rw [read_text, ofParts_eq_map, brackets]
    simp only [Option.bind_eq_bind, Option.bind_some, list]
    cases ofParts layout.list [] with
    | error error => rfl
    | ok reply =>
      simp only [tail, metadataAt?_eq_some, Option.bind_some]
      rfl

end RoverLink.Reply
