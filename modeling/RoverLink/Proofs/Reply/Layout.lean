import RoverLink.Proofs.Json.Literal
import RoverLink.Proofs.Text.Cutting
import RoverLink.Reply.Reading

/-!
# The layout of a frame

A frame that decodes has a first opening bracket and a closing bracket behind
it.  `Layout` cuts the line at these two, and reading the line is reading the
list between them and the metadata in the tail (`read_text`).  Metadata is a
colon and four hexadecimal digits, so a tail with anything else than these and
blanks has none.
-/

namespace RoverLink.Reply

/-- A line, cut at the brackets of its list. -/
structure Layout where
  lead : List Char
  inner : List Char
  tail : List Char
  /-- The list begins at the first opening bracket. -/
  opens : '[' ∉ lead
  /-- The list ends at the first closing bracket in it. -/
  closes : ']' ∉ inner

namespace Layout

/-- The list with its brackets. -/
def list (layout : Layout) : List Char :=
  '[' :: layout.inner ++ [']']

/-- The whole line. -/
def text (layout : Layout) : List Char :=
  '#' :: (layout.lead ++ '[' :: (layout.inner ++ ']' :: layout.tail))

/-- A line whose list follows its marker. -/
def plain {inner : List Char} (closes : ']' ∉ inner) (tail : List Char) : Layout where
  lead := []
  inner
  tail
  opens := List.not_mem_nil
  closes

end Layout

/-! ### Places of a line -/

/-- Where a character of a line stands: the text before it, the character, and the text after it. -/
inductive Layout.Place (layout : Layout) : List Char → Char → List Char → Prop where
  | marker :
      Place layout [] '#' (layout.lead ++ '[' :: (layout.inner ++ ']' :: layout.tail))
  | lead {front back : List Char} {character : Char}
      (split : layout.lead = front ++ character :: back) :
      Place layout ('#' :: front) character
        (back ++ '[' :: (layout.inner ++ ']' :: layout.tail))
  | opening :
      Place layout ('#' :: layout.lead) '[' (layout.inner ++ ']' :: layout.tail)
  | inner {front back : List Char} {character : Char}
      (split : layout.inner = front ++ character :: back) :
      Place layout ('#' :: (layout.lead ++ '[' :: front)) character
        (back ++ ']' :: layout.tail)
  | closing :
      Place layout ('#' :: (layout.lead ++ '[' :: layout.inner)) ']' layout.tail
  | tail {front back : List Char} {character : Char}
      (split : layout.tail = front ++ character :: back) :
      Place layout ('#' :: (layout.lead ++ '[' :: (layout.inner ++ ']' :: front))) character back

/-- A character of a text with a marked one stands before it, is it, or stands behind it. -/
theorem append_cons_eq_append_cons
    {left right before after : List Char}
    {mark character : Char}
    (split : left ++ mark :: right = before ++ character :: after) :
    (∃ back, left = before ++ character :: back ∧ after = back ++ mark :: right) ∨
      (before = left ∧ character = mark ∧ after = right) ∨
      ∃ front, before = left ++ mark :: front ∧ right = front ++ character :: after := by
  rcases List.append_eq_append_iff.mp split with ⟨rest, longer, ends⟩ | ⟨rest, shorter, ends⟩
  · cases rest with
    | nil =>
      cases ends
      exact Or.inr (Or.inl ⟨by simpa using longer, rfl, rfl⟩)
    | cons first front =>
      cases ends
      exact Or.inr (Or.inr ⟨front, longer, rfl⟩)
  · cases rest with
    | nil =>
      cases ends
      exact Or.inr (Or.inl ⟨by simpa using shorter.symm, rfl, rfl⟩)
    | cons first back =>
      cases ends
      exact Or.inl ⟨back, shorter, rfl⟩

/-- Every character of a line has one of the places. -/
theorem Layout.place
    (layout : Layout)
    {before after : List Char}
    {character : Char}
    (split : layout.text = before ++ character :: after) :
    layout.Place before character after := by
  cases before with
  | nil =>
    cases split
    exact .marker
  | cons first before =>
    injection split with same split
    subst same
    rcases append_cons_eq_append_cons split with
      ⟨back, inLead, rfl⟩ | ⟨rfl, rfl, rfl⟩ | ⟨front, rfl, behind⟩
    · exact .lead inLead
    · exact .opening
    · rcases append_cons_eq_append_cons behind with
        ⟨back, inInner, rfl⟩ | ⟨rfl, rfl, rfl⟩ | ⟨front, rfl, inTail⟩
      · exact .inner inInner
      · exact .closing
      · exact .tail inTail

/-! ### Reading what is laid out -/

/-- Blanks behind the metadata do not count. -/
theorem readMetadata_dropEndWhile (tail : List Char) :
    readMetadata (Text.dropEndWhile Text.isLineEnd tail) = readMetadata tail := by
  rcases Text.exists_eq_dropEndWhile_append Text.isLineEnd tail with ⟨gone, split, ends⟩
  have same : Text.trim (Text.dropEndWhile Text.isLineEnd tail ++ gone) =
      Text.trim (Text.dropEndWhile Text.isLineEnd tail) :=
    Text.trim_append_of_all_blank _ fun character member =>
      Text.isBlank_of_isLineEnd (ends character member)
  rw [← split] at same
  simp only [readMetadata]
  rw [same]

theorem ofParts_dropEndWhile (list tail : List Char) :
    ofParts list (Text.dropEndWhile Text.isLineEnd tail) = ofParts list tail := by
  simp only [ofParts]
  rw [readMetadata_dropEndWhile]

/-- Line ends at the end of a line do not count. -/
theorem read_dropEndWhile (line : List Char) :
    read (Text.dropEndWhile Text.isLineEnd line) = read line := by
  rw [read, read, Text.dropEndWhile_dropEndWhile]

/-- Reading a line is reading its list and its tail. -/
theorem read_text (layout : Layout) :
    read layout.text = ofParts layout.list layout.tail := by
  rcases layout with ⟨lead, inner, tail, opens, closes⟩
  have stripped : Text.dropEndWhile Text.isLineEnd
      ('#' :: (lead ++ '[' :: (inner ++ ']' :: tail))) =
        '#' :: (lead ++ '[' :: (inner ++ ']' :: Text.dropEndWhile Text.isLineEnd tail)) := by
    have kept := Text.dropEndWhile_append_cons_of_not Text.isLineEnd
      ('#' :: (lead ++ '[' :: inner)) tail (show Text.isLineEnd ']' = false from rfl)
    simpa using kept
  have closing : ']' ∉ '[' :: inner := by simpa using closes
  have after := Text.dropWhile_ne_append closing (Text.dropEndWhile Text.isLineEnd tail)
  have before := Text.takeWhile_ne_append closing (Text.dropEndWhile Text.isLineEnd tail)
  simp only [List.cons_append] at after before
  rw [read, Layout.text, stripped]
  simp only [fromBracket, Text.dropWhile_ne_append opens, after, before]
  exact ofParts_dropEndWhile _ _

/-- A frame whose list is not closed is truncated. -/
theorem read_of_unclosed
    {lead opened : List Char}
    (opens : '[' ∉ lead)
    (unclosed : ']' ∉ opened) :
    read ('#' :: (lead ++ '[' :: opened)) = .error .truncated := by
  rcases Text.exists_eq_dropEndWhile_append Text.isLineEnd opened with ⟨gone, split, _⟩
  have stripped : Text.dropEndWhile Text.isLineEnd ('#' :: (lead ++ '[' :: opened)) =
      '#' :: (lead ++ '[' :: Text.dropEndWhile Text.isLineEnd opened) :=
    Text.dropEndWhile_append_cons_of_not Text.isLineEnd ('#' :: lead) opened
      (show Text.isLineEnd '[' = false from rfl)
  have absent : ']' ∉ '[' :: Text.dropEndWhile Text.isLineEnd opened := by
    intro member
    rcases List.mem_cons.mp member with same | inside
    · simp at same
    · exact unclosed (split ▸ List.mem_append_left gone inside)
  rw [read, stripped]
  simp [fromBracket, Text.dropWhile_ne_append opens, Text.dropWhile_ne_eq_nil absent]

/-- A line without a marker is no frame. -/
theorem read_of_unmarked
    {line : List Char}
    (start : line.head? ≠ some '#') :
    read line = .error (.malformed .missingStartMarker) := by
  rcases Text.exists_eq_dropEndWhile_append Text.isLineEnd line with ⟨gone, split, _⟩
  rw [read]
  split
  next rest marked =>
    rw [marked] at split
    refine absurd ?_ start
    rw [split]
    rfl
  next => rfl

/-- A frame without an opening bracket has no list. -/
theorem read_of_unopened
    {lead : List Char}
    (opens : '[' ∉ lead) :
    read ('#' :: lead) = .error (.malformed .missingBracket) := by
  rcases Text.exists_eq_dropEndWhile_append Text.isLineEnd lead with ⟨gone, split, _⟩
  have stripped : Text.dropEndWhile Text.isLineEnd ('#' :: lead) =
      '#' :: Text.dropEndWhile Text.isLineEnd lead :=
    Text.dropEndWhile_append_cons_of_not Text.isLineEnd [] lead
      (show Text.isLineEnd '#' = false from rfl)
  have absent : '[' ∉ Text.dropEndWhile Text.isLineEnd lead := by
    intro member
    exact opens (split ▸ List.mem_append_left gone member)
  rw [read, stripped]
  simp [fromBracket, Text.dropWhile_ne_eq_nil absent]

/-- Every line that gives a reply is laid out. -/
theorem exists_layout_of_read_eq_ok
    {line : List Char}
    {reply : Reply}
    (decoded : read line = .ok reply) :
    ∃ layout : Layout, line = layout.text := by
  rcases Text.exists_eq_dropEndWhile_append Text.isLineEnd line with ⟨gone, split, _⟩
  rw [read] at decoded
  split at decoded
  next rest marked =>
    have opening : '[' ∈ rest := by
      refine Decidable.byContradiction fun absent => ?_
      simp [fromBracket, Text.dropWhile_ne_eq_nil absent] at decoded
    rcases List.eq_append_cons_of_mem opening with ⟨lead, opened, restSplit, opens⟩
    rw [restSplit, fromBracket, Text.dropWhile_ne_append opens] at decoded
    have closing : ']' ∈ opened := by
      refine Decidable.byContradiction fun absent => ?_
      simp [Text.dropWhile_ne_eq_nil absent] at decoded
    rcases List.eq_append_cons_of_mem closing with ⟨inner, tail, openedSplit, closes⟩
    refine ⟨⟨lead, inner, tail ++ gone, opens, closes⟩, ?_⟩
    rw [split, marked, restSplit, openedSplit]
    simp [Layout.text]
  · simp at decoded

/-- A list gives a status and values, and its tail the number and the check. -/
theorem ofParts_eq_map (list tail : List Char) :
    ofParts list tail = (ofParts list []).map fun reply =>
      { reply with id := (readMetadata tail).1, crc := (readMetadata tail).2 } := by
  simp only [ofParts]
  split
  · rfl
  · rfl
  · split
    · rfl
    · split <;> rfl

/-- A list that gives a reply gives one whatever follows it. -/
theorem exists_ofParts_eq_ok
    {list tail : List Char}
    {reply : Reply}
    (decoded : ofParts list tail = .ok reply)
    (other : List Char) :
    ∃ changed, ofParts list other = .ok changed := by
  rw [ofParts_eq_map] at decoded ⊢
  cases read : ofParts list [] with
  | error error => simp [read, Except.map] at decoded
  | ok bare => exact ⟨_, rfl⟩

/-- A list that gives a reply gives the same status and values whatever follows it. -/
theorem eq_of_ofParts_eq_ok
    {list tail other : List Char}
    {reply changed : Reply}
    (decoded : ofParts list tail = .ok reply)
    (decodedOther : ofParts list other = .ok changed) :
    changed.status = reply.status ∧ changed.values = reply.values := by
  rw [ofParts] at decoded decodedOther
  split at decoded
  · simp at decoded
  · simp at decoded
  next first rest items =>
    rw [items] at decodedOther
    simp only at decodedOther
    cases status : readStatus first with
    | error fault => simp [status] at decoded
    | ok status' =>
      cases values : readValues rest with
      | error fault => simp [status, values] at decoded
      | ok values' =>
        simp only [status, values, Except.ok.injEq] at decoded decodedOther
        simp [← decoded, ← decodedOther]

/-- The number and the check of a reply are what the tail says. -/
theorem metadata_of_ofParts_eq_ok
    {list tail : List Char}
    {reply : Reply}
    (decoded : ofParts list tail = .ok reply) :
    readMetadata tail = (reply.id, reply.crc) := by
  rw [ofParts] at decoded
  split at decoded
  · simp at decoded
  · simp at decoded
  · split at decoded
    · simp at decoded
    · split at decoded
      · simp at decoded
      · cases decoded
        rfl

/-- Two lines with the same list give the same status and values. -/
theorem eq_of_read_text
    {layout other : Layout}
    (same : other.list = layout.list)
    {reply changed : Reply}
    (decoded : read layout.text = .ok reply)
    (decodedOther : read other.text = .ok changed) :
    changed.status = reply.status ∧ changed.values = reply.values := by
  rw [read_text] at decoded decodedOther
  rw [same] at decodedOther
  exact eq_of_ofParts_eq_ok decoded decodedOther

theorem metadata_of_read_text
    {layout : Layout}
    {reply : Reply}
    (decoded : read layout.text = .ok reply) :
    readMetadata layout.tail = (reply.id, reply.crc) := by
  rw [read_text] at decoded
  exact metadata_of_ofParts_eq_ok decoded

/-! ### Metadata -/

theorem toNat_of_hexDigit?
    {character : Char}
    {value : Nat}
    (digit : Json.hexDigit? character = some value) :
    (48 ≤ character.toNat ∧ character.toNat ≤ 57) ∨
      (97 ≤ character.toNat ∧ character.toNat ≤ 102) ∨
      (65 ≤ character.toNat ∧ character.toNat ≤ 70) := by
  rw [Json.hexDigit?] at digit
  split at digit
  next decimal => exact Or.inl decimal
  next =>
    split at digit
    next lower => exact Or.inr (Or.inl lower)
    next =>
      split at digit
      next upper => exact Or.inr (Or.inr upper)
      next => simp at digit

def IsHex (character : Char) : Prop :=
  ∃ value, Json.hexDigit? character = some value

theorem isHex_of_isHexDigit
    {digit : Char}
    {value : Nat}
    (written : Json.IsHexDigit digit value) :
    IsHex digit :=
  ⟨value, Json.hexDigit?_of_isHexDigit written⟩

theorem IsHex.toNat_lt
    {character : Char}
    (hex : IsHex character) :
    character.toNat < 128 := by
  rcases hex with ⟨value, digit⟩
  have := toNat_of_hexDigit? digit
  omega

theorem IsHex.isBlank_eq_false
    {character : Char}
    (hex : IsHex character) :
    Text.isBlank character = false := by
  rcases hex with ⟨value, digit⟩
  have := toNat_of_hexDigit? digit
  simp only [Text.isBlank, Bool.or_eq_false_iff, Bool.and_eq_false_iff, decide_eq_false_iff_not,
    beq_eq_false_iff_ne]
  omega

/-- Characters of a tail with metadata. -/
def IsMetadata (character : Char) : Prop :=
  Text.isBlank character = true ∨ character = ':' ∨ IsHex character

theorem isMetadata_ne_bracket
    {character : Char}
    (metadata : IsMetadata character) :
    character ≠ '[' ∧ character ≠ ']' := by
  rcases metadata with blank | rfl | ⟨value, digit⟩
  · constructor
    · rintro rfl
      simp [Text.isBlank] at blank
    · rintro rfl
      simp [Text.isBlank] at blank
  · decide
  · constructor
    · rintro rfl
      simp [Json.hexDigit?] at digit
    · rintro rfl
      simp [Json.hexDigit?] at digit

/-- An octet that is written in hexadecimal digits, in either case, reads back. -/
theorem hexOctet?_of_isHexDigit
    {octet : UInt8}
    {high low : Char}
    (ofHigh : Json.IsHexDigit high (octet.toNat / 16))
    (ofLow : Json.IsHexDigit low (octet.toNat % 16)) :
    hexOctet? high low = some octet := by
  rw [hexOctet?, Json.hexDigit?_of_isHexDigit ofHigh, Json.hexDigit?_of_isHexDigit ofLow]
  refine congrArg some ?_
  rw [Nat.div_add_mod', UInt8.ofNat_toNat]

theorem isHexDigit_high (octet : UInt8) :
    Json.IsHexDigit (Nat.digitChar (octet.toNat / 16)) (octet.toNat / 16) :=
  ⟨(Nat.div_lt_iff_lt_mul (by decide)).mpr octet.toNat_lt, .inl rfl⟩

theorem isHexDigit_low (octet : UInt8) :
    Json.IsHexDigit (Nat.digitChar (octet.toNat % 16)) (octet.toNat % 16) :=
  ⟨Nat.mod_lt _ (by decide), .inl rfl⟩

theorem hexOctet?_digitChar (octet : UInt8) :
    hexOctet? (Nat.digitChar (octet.toNat / 16)) (Nat.digitChar (octet.toNat % 16)) =
      some octet :=
  hexOctet?_of_isHexDigit (isHexDigit_high octet) (isHexDigit_low octet)

theorem isHex_of_hexOctet?
    {high low : Char}
    {octet : UInt8}
    (octets : hexOctet? high low = some octet) :
    IsHex high ∧ IsHex low := by
  rw [hexOctet?] at octets
  cases first : Json.hexDigit? high with
  | none => simp [first] at octets
  | some upper =>
    cases second : Json.hexDigit? low with
    | none => simp [first, second] at octets
    | some lower => exact ⟨⟨upper, first⟩, ⟨lower, second⟩⟩

/-- A tail either has no metadata or consists of a colon and four digits between blanks. -/
theorem readMetadata_cases (tail : List Char) :
    readMetadata tail = (none, none) ∨
      ∃ front high low back id crc,
        tail = front ++ high :: low :: back ∧ readMetadata tail = (some id, some crc) ∧
          IsHex high ∧ IsHex low ∧ (∀ character ∈ back, Text.isBlank character = true) ∧
          ∀ character ∈ tail, IsMetadata character := by
  rcases Text.exists_eq_append_trim_append tail with ⟨front, back, split, blankFront, blankBack⟩
  cases metadata : readMetadata tail with
  | mk id crc =>
    rw [readMetadata] at metadata
    split at metadata
    next first second third fourth trimmed =>
      split at metadata
      next id' crc' firstOctet secondOctet =>
        cases metadata
        have number := isHex_of_hexOctet? firstOctet
        have check := isHex_of_hexOctet? secondOctet
        refine Or.inr ⟨front ++ [':', first, second], third, fourth, back, id', crc', ?_, rfl,
          check.1, check.2, blankBack, ?_⟩
        · rw [split, trimmed]
          simp
        · intro character member
          rw [split, trimmed] at member
          simp only [List.mem_append, List.mem_cons, List.not_mem_nil, or_false] at member
          rcases member with (inFront | rfl | rfl | rfl | rfl | rfl) | inBack
          · exact Or.inl (blankFront character inFront)
          · exact Or.inr (Or.inl rfl)
          · exact Or.inr (Or.inr number.1)
          · exact Or.inr (Or.inr number.2)
          · exact Or.inr (Or.inr check.1)
          · exact Or.inr (Or.inr check.2)
          · exact Or.inl (blankBack character inBack)
      · exact Or.inl metadata.symm
    · exact Or.inl metadata.symm

/-- A tail with a bracket has no metadata. -/
theorem readMetadata_of_bracket
    {tail : List Char}
    (bracket : '[' ∈ tail ∨ ']' ∈ tail) :
    readMetadata tail = (none, none) := by
  rcases readMetadata_cases tail with none | ⟨_, _, _, _, _, _, _, _, _, _, _, metadata⟩
  · exact none
  · rcases bracket with opening | closing
    · exact absurd rfl (isMetadata_ne_bracket (metadata _ opening)).1
    · exact absurd rfl (isMetadata_ne_bracket (metadata _ closing)).2

end RoverLink.Reply
