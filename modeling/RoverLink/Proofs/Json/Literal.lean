import RoverLink.Json.Reader

/-!
# How texts are written in JSON

A JSON text can be written in many ways: a character may stand for itself, be
named by a letter behind a backslash, or be given by the digits of its code, as
a pair of surrogates if the code has more than four digits.  `IsLiteral` has one
constructor for each of these, and every such literal is read back as its text
(`readText_of_isLiteral`).  A literal that is cut off before a bracket in it has
lost its closing quote and is not read (`readText_of_cut`).
-/

namespace RoverLink.Json

/-! ### Hexadecimal digits -/

/-- Whether a character is the hexadecimal digit of a number, in either case. -/
def IsHexDigit (digit : Char) (value : Nat) : Prop :=
  value < 16 ∧ (digit = Nat.digitChar value ∨ digit = (Nat.digitChar value).toUpper)

theorem hexDigit?_of_isHexDigit
    {digit : Char}
    {value : Nat}
    (written : IsHexDigit digit value) :
    hexDigit? digit = some value := by
  have all : ∀ value < 16,
      hexDigit? (Nat.digitChar value) = some value ∧
        hexDigit? (Nat.digitChar value).toUpper = some value := by
    decide
  rcases written with ⟨small, rfl | rfl⟩
  · exact (all value small).1
  · exact (all value small).2

/-- Whether four hexadecimal digits stand for a number. -/
inductive IsCode (first second third fourth : Char) : Nat → Prop where
  | ofDigits {highest higher lower lowest : Nat}
      (ofFirst : IsHexDigit first highest)
      (ofSecond : IsHexDigit second higher)
      (ofThird : IsHexDigit third lower)
      (ofFourth : IsHexDigit fourth lowest) :
      IsCode first second third fourth
        (((highest * 16 + higher) * 16 + lower) * 16 + lowest)

section

variable {first second third fourth : Char} {code : Nat}

theorem hexPiece?_of_isCode (written : IsCode first second third fourth code) :
    hexPiece? first second third fourth =
      some (if 0xd800 ≤ code ∧ code < 0xe000 then .surrogate code
        else .character (Char.ofNat code)) := by
  cases written with
  | ofDigits ofFirst ofSecond ofThird ofFourth =>
    simp only [hexPiece?, hexDigit?_of_isHexDigit ofFirst, hexDigit?_of_isHexDigit ofSecond,
      hexDigit?_of_isHexDigit ofThird, hexDigit?_of_isHexDigit ofFourth, Option.bind_eq_bind,
      Option.bind_some]
    rfl

/-- The code of a character is no surrogate. -/
theorem hexPiece?_of_character
    {character : Char}
    (written : IsCode first second third fourth character.toNat) :
    hexPiece? first second third fourth = some (.character character) := by
  have scalar : character.toNat < 0xd800 ∨
      0xdfff < character.toNat ∧ character.toNat < 0x110000 := character.valid
  rw [hexPiece?_of_isCode written, if_neg (by omega), Char.ofNat_toNat]

theorem hexPiece?_of_surrogate
    (written : IsCode first second third fourth code)
    (surrogate : 0xd800 ≤ code ∧ code < 0xe000) :
    hexPiece? first second third fourth = some (.surrogate code) := by
  rw [hexPiece?_of_isCode written, if_pos surrogate]

end

/-! ### Literals -/

/-- The letters that name a character behind a backslash. -/
def shortEscapes : List (Char × Char) :=
  [('"', '"'), ('\\', '\\'), ('/', '/'), ('b', '\x08'), ('f', '\x0c'), ('n', '\n'), ('r', '\r'),
    ('t', '\t')]

/-- The first of the two surrogates of a character beyond four digits. -/
def highSurrogate (character : Char) : Nat :=
  0xd800 + (character.toNat - 0x10000) / 0x400

/-- The second of the two surrogates of a character beyond four digits. -/
def lowSurrogate (character : Char) : Nat :=
  0xdc00 + (character.toNat - 0x10000) % 0x400

/-- How a text is written between quotes. -/
inductive IsLiteral : List Char → List Char → Prop where
  | nil : IsLiteral [] []
  | plain {character : Char} {literal text : List Char}
      (visible : 0x20 ≤ character.toNat)
      (noQuote : character ≠ '"')
      (noBackslash : character ≠ '\\')
      (rest : IsLiteral literal text) :
      IsLiteral (character :: literal) (character :: text)
  | named {letter character : Char} {literal text : List Char}
      (listed : (letter, character) ∈ shortEscapes)
      (rest : IsLiteral literal text) :
      IsLiteral ('\\' :: letter :: literal) (character :: text)
  | coded {character first second third fourth : Char} {literal text : List Char}
      (code : IsCode first second third fourth character.toNat)
      (rest : IsLiteral literal text) :
      IsLiteral ('\\' :: 'u' :: first :: second :: third :: fourth :: literal) (character :: text)
  /-- A character beyond four digits is given by two surrogates. -/
  | paired {character : Char}
      {high₁ high₂ high₃ high₄ low₁ low₂ low₃ low₄ : Char}
      {literal text : List Char}
      (beyond : 0x10000 ≤ character.toNat)
      (high : IsCode high₁ high₂ high₃ high₄ (highSurrogate character))
      (low : IsCode low₁ low₂ low₃ low₄ (lowSurrogate character))
      (rest : IsLiteral literal text) :
      IsLiteral
        ('\\' :: 'u' :: high₁ :: high₂ :: high₃ :: high₄ ::
          '\\' :: 'u' :: low₁ :: low₂ :: low₃ :: low₄ :: literal)
        (character :: text)

theorem readPieces_plain
    {character : Char}
    (visible : 0x20 ≤ character.toNat)
    (noQuote : character ≠ '"')
    (noBackslash : character ≠ '\\')
    (text : List Char) :
    readPieces (character :: text) =
      (readPieces text).map fun (pieces, rest) => (.character character :: pieces, rest) := by
  rw [readPieces, if_neg (by omega)]
  · cases readPieces text <;> rfl
  · exact noQuote
  · exact fun _ _ _ _ _ same _ => noBackslash same
  · exact fun _ _ same _ => noBackslash same

theorem readPieces_named
    {letter character : Char}
    (listed : (letter, character) ∈ shortEscapes)
    (text : List Char) :
    readPieces ('\\' :: letter :: text) =
      (readPieces text).map fun (pieces, rest) => (.character character :: pieces, rest) := by
  have reads : escaped? letter = some character ∧ letter ≠ 'u' := by
    have all : ∀ escape ∈ shortEscapes, escaped? escape.1 = some escape.2 ∧ escape.1 ≠ 'u' := by
      decide
    exact all _ listed
  rw [readPieces]
  · rw [reads.1]
    cases readPieces text <;> rfl
  · exact fun _ _ _ _ _ same _ => reads.2 same

theorem readPieces_coded
    {first second third fourth : Char}
    {piece : Piece}
    (given : hexPiece? first second third fourth = some piece)
    (text : List Char) :
    readPieces ('\\' :: 'u' :: first :: second :: third :: fourth :: text) =
      (readPieces text).map fun (pieces, rest) => (piece :: pieces, rest) := by
  rw [readPieces, given]
  cases readPieces text <;> rfl

theorem surrogates_of_beyond
    {character : Char}
    (beyond : 0x10000 ≤ character.toNat) :
    (0xd800 ≤ highSurrogate character ∧ highSurrogate character < 0xe000) ∧
      (0xd800 ≤ lowSurrogate character ∧ lowSurrogate character < 0xe000) ∧
        highSurrogate character < 0xdc00 ∧ 0xdc00 ≤ lowSurrogate character := by
  have scalar : character.toNat < 0xd800 ∨
      0xdfff < character.toNat ∧ character.toNat < 0x110000 := character.valid
  simp only [highSurrogate, lowSurrogate]
  omega

/-- The two surrogates of a character are joined to the character. -/
theorem joinPieces_surrogates
    {character : Char}
    (beyond : 0x10000 ≤ character.toNat)
    (pieces : List Piece) :
    joinPieces (.surrogate (highSurrogate character) ::
        .surrogate (lowSurrogate character) :: pieces) =
      (joinPieces pieces).map (character :: ·) := by
  have whole : 0x10000 + (highSurrogate character - 0xd800) * 0x400 +
      (lowSurrogate character - 0xdc00) = character.toNat := by
    simp only [highSurrogate, lowSurrogate]
    omega
  rw [joinPieces, if_pos (surrogates_of_beyond beyond).2.2, whole, Char.ofNat_toNat]

/-- The parts of a literal are read before what follows it, and give the text that is written. -/
theorem readPieces_append_of_isLiteral
    {literal text : List Char}
    (written : IsLiteral literal text) :
    ∃ pieces, joinPieces pieces = some text ∧
      ∀ rest, readPieces (literal ++ rest) =
        (readPieces rest).map fun (more, behind) => (pieces ++ more, behind) := by
  induction written with
  | nil =>
    refine ⟨[], rfl, ?_⟩
    intro rest
    rw [List.nil_append]
    cases readPieces rest <;> rfl
  | @plain character _ _ visible noQuote noBackslash _ induction =>
    rcases induction with ⟨pieces, joins, reads⟩
    refine ⟨.character character :: pieces, by rw [joinPieces, joins]; rfl, ?_⟩
    intro rest
    rw [List.cons_append, readPieces_plain visible noQuote noBackslash, reads, Option.map_map]
    rfl
  | @named _ character _ _ listed _ induction =>
    rcases induction with ⟨pieces, joins, reads⟩
    refine ⟨.character character :: pieces, by rw [joinPieces, joins]; rfl, ?_⟩
    intro rest
    rw [List.cons_append, List.cons_append, readPieces_named listed, reads, Option.map_map]
    rfl
  | @coded character _ _ _ _ _ _ code _ induction =>
    rcases induction with ⟨pieces, joins, reads⟩
    refine ⟨.character character :: pieces, by rw [joinPieces, joins]; rfl, ?_⟩
    intro rest
    simp only [List.cons_append]
    rw [readPieces_coded (hexPiece?_of_character code), reads, Option.map_map]
    rfl
  | @paired character _ _ _ _ _ _ _ _ _ _ beyond high low _ induction =>
    rcases induction with ⟨pieces, joins, reads⟩
    rcases surrogates_of_beyond beyond with ⟨isHigh, isLow, _⟩
    refine ⟨.surrogate (highSurrogate character) :: .surrogate (lowSurrogate character) :: pieces,
      by rw [joinPieces_surrogates beyond, joins]; rfl, ?_⟩
    intro rest
    simp only [List.cons_append]
    rw [readPieces_coded (hexPiece?_of_surrogate high isHigh),
      readPieces_coded (hexPiece?_of_surrogate low isLow), reads, Option.map_map, Option.map_map]
    rfl

/-- A literal in quotes is read as its text. -/
theorem readText_of_isLiteral
    {literal text : List Char}
    (written : IsLiteral literal text)
    (rest : List Char) :
    readText (literal ++ '"' :: rest) = some (some (String.ofList text), rest) := by
  rcases readPieces_append_of_isLiteral written with ⟨pieces, joins, reads⟩
  simp [readText, reads, readPieces, joins]

/-! ### A literal that is cut off -/

theorem IsHexDigit.ne_bracket
    {digit : Char}
    {value : Nat}
    (written : IsHexDigit digit value) :
    digit ≠ ']' := by
  have all : ∀ value < 16, Nat.digitChar value ≠ ']' ∧ (Nat.digitChar value).toUpper ≠ ']' := by
    decide
  rcases written with ⟨small, rfl | rfl⟩
  · exact (all value small).1
  · exact (all value small).2

theorem IsCode.not_mem
    {first second third fourth : Char}
    {code : Nat}
    (written : IsCode first second third fourth code) :
    ']' ∉ ['\\', 'u', first, second, third, fourth] := by
  cases written with
  | ofDigits ofFirst ofSecond ofThird ofFourth =>
    simp [ofFirst.ne_bracket.symm, ofSecond.ne_bracket.symm, ofThird.ne_bracket.symm,
      ofFourth.ne_bracket.symm]

/-- A text that has a mark only behind its first part can be cut behind that part. -/
theorem exists_eq_append_of_not_mem
    {part rest front back : List Char}
    {mark : Char}
    (absent : mark ∉ part)
    (split : part ++ rest = front ++ mark :: back) :
    ∃ behind, front = part ++ behind ∧ rest = behind ++ mark :: back := by
  rcases List.append_eq_append_iff.mp split with longer | ⟨others, shorter, ends⟩
  · exact longer
  · cases others with
    | nil => exact ⟨[], by simpa using shorter.symm, ends.symm⟩
    | cons first others =>
      cases ends
      exact (absent (by simp [shorter])).elim

/-- A closing bracket is never a part of a character, so a literal can be cut before it. -/
theorem IsLiteral.exists_front
    {literal text : List Char}
    (written : IsLiteral literal text)
    {front back : List Char}
    (split : literal = front ++ ']' :: back) :
    ∃ content, IsLiteral front content := by
  induction written generalizing front with
  | nil => simp at split
  | @plain character literal _ visible noQuote noBackslash _ induction =>
    cases front with
    | nil => exact ⟨[], .nil⟩
    | cons first front =>
      injection split with same split
      subst same
      rcases induction split with ⟨content, isLiteral⟩
      exact ⟨_, .plain visible noQuote noBackslash isLiteral⟩
  | @named letter character literal _ listed _ induction =>
    have absent : ']' ∉ ['\\', letter] := by
      have all : ∀ escape ∈ shortEscapes, ']' ∉ ['\\', escape.1] := by decide
      exact all _ listed
    rcases exists_eq_append_of_not_mem absent split with ⟨behind, rfl, rest⟩
    rcases induction rest with ⟨content, isLiteral⟩
    exact ⟨_, .named listed isLiteral⟩
  | coded code _ induction =>
    rcases exists_eq_append_of_not_mem code.not_mem split with ⟨behind, rfl, rest⟩
    rcases induction rest with ⟨content, isLiteral⟩
    exact ⟨_, .coded code isLiteral⟩
  | paired beyond high low _ induction =>
    rcases exists_eq_append_of_not_mem high.not_mem split with ⟨middle, rfl, rest⟩
    rcases exists_eq_append_of_not_mem low.not_mem rest with ⟨behind, rfl, others⟩
    rcases induction others with ⟨content, isLiteral⟩
    exact ⟨_, .paired beyond high low isLiteral⟩

/-- A literal that is cut off before a closing bracket is not read. -/
theorem readText_of_cut
    {literal text front back : List Char}
    (written : IsLiteral literal text)
    (split : literal = front ++ ']' :: back) :
    readText (front ++ [']']) = none := by
  rcases written.exists_front split with ⟨content, isLiteral⟩
  rcases readPieces_append_of_isLiteral isLiteral with ⟨pieces, _, reads⟩
  rw [readText, reads]
  rfl

end RoverLink.Json
