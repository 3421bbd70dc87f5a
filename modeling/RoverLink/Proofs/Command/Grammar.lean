import Mathlib.Data.List.Forall2
import RoverLink.Proofs.Command.Reading

/-!
# The grammar of requests

A request that is read need not be one that a codec would write: blanks may
stand around an argument, a plus sign or zeros before its digits, and the suffix
may be any text without a colon.  `IsForm` is this grammar.  Reading a text
follows it in both directions (`reads_forms`): a text of the grammar is read as
its opcode and arguments, which make a command or are refused, and every other
text is malformed.
-/

namespace RoverLink

namespace Decimal

/-- Whether a text stands for an integer: at least one digit, perhaps after a sign. -/
inductive Denotes : List Char → Int → Prop where
  | unsigned {digits : List Char}
      (nonempty : digits ≠ [])
      (isDigit : ∀ character ∈ digits, character.isDigit = true) :
      Denotes digits (ofDigits digits)
  | positive {digits : List Char}
      (nonempty : digits ≠ [])
      (isDigit : ∀ character ∈ digits, character.isDigit = true) :
      Denotes ('+' :: digits) (ofDigits digits)
  | negative {digits : List Char}
      (nonempty : digits ≠ [])
      (isDigit : ∀ character ∈ digits, character.isDigit = true) :
      Denotes ('-' :: digits) (-(ofDigits digits : Int))

/-- The characters of a text that stands for an integer. -/
theorem Denotes.mem
    {text : List Char}
    {integer : Int}
    (denotes : Denotes text integer)
    {character : Char}
    (member : character ∈ text) :
    character.isDigit = true ∨ character = '+' ∨ character = '-' := by
  cases denotes with
  | unsigned _ isDigit => exact .inl (isDigit character member)
  | positive _ isDigit =>
    rcases List.mem_cons.mp member with sign | digit
    · exact .inr (.inl sign)
    · exact .inl (isDigit character digit)
  | negative _ isDigit =>
    rcases List.mem_cons.mp member with sign | digit
    · exact .inr (.inr sign)
    · exact .inl (isDigit character digit)

theorem Denotes.ne_nil
    {text : List Char}
    {integer : Int}
    (denotes : Denotes text integer) :
    text ≠ [] := by
  cases denotes with
  | unsigned nonempty _ => exact nonempty
  | positive _ _ => exact List.cons_ne_nil _ _
  | negative _ _ => exact List.cons_ne_nil _ _

theorem integer?_eq_some_iff
    {text : List Char}
    {integer : Int} :
    integer? text = some integer ↔ Denotes text integer := by
  constructor
  · intro reads
    rw [integer?.eq_def] at reads
    split at reads
    next negative body signed =>
      split at reads
      next valid =>
        have isDigit := List.all_eq_true.mp valid.2
        cases reads
        split at signed
        next =>
          cases signed
          exact .positive valid.1 isDigit
        next =>
          cases signed
          exact .negative valid.1 isDigit
        next =>
          cases signed
          exact .unsigned valid.1 isDigit
      next => simp at reads
  · intro denotes
    cases denotes with
    | unsigned nonempty isDigit => exact integer?_of_isDigit nonempty isDigit
    | positive nonempty isDigit =>
      exact if_pos ⟨nonempty, List.all_eq_true.mpr isDigit⟩
    | negative nonempty isDigit =>
      exact if_pos ⟨nonempty, List.all_eq_true.mpr isDigit⟩

end Decimal

namespace Request

/-! ### Arguments -/

/-- Whether a piece of the list is an argument: an integer of 64 bits, perhaps between blanks. -/
inductive IsArgument : List Char → Int64 → Prop where
  | intro {front numeral back : List Char} {argument : Int64}
      (blankFront : ∀ character ∈ front, Text.isBlank character = true)
      (denotes : Decimal.Denotes numeral argument.toInt)
      (blankBack : ∀ character ∈ back, Text.isBlank character = true) :
      IsArgument (front ++ numeral ++ back) argument

theorem isBlank_of_mem_numeral
    {numeral : List Char}
    {integer : Int}
    (denotes : Decimal.Denotes numeral integer) :
    ∀ character ∈ numeral, Text.isBlank character = false := by
  intro character member
  rcases denotes.mem member with digit | rfl | rfl
  · have alphanumeric : character.isAlphanum = true := by simp [Char.isAlphanum, digit]
    have bounds := toNat_of_isAlphanum alphanumeric
    exact Text.isBlank_of_toNat (by omega) (by omega)
  · decide
  · decide

/-- A comma is neither a blank nor part of an integer. -/
theorem IsArgument.not_mem
    {piece : List Char}
    {argument : Int64}
    (isArgument : IsArgument piece argument) :
    ',' ∉ piece := by
  have solid : Text.isBlank ',' ≠ true := by decide
  rcases isArgument with ⟨blankFront, denotes, blankBack⟩
  intro member
  rw [List.mem_append, List.mem_append] at member
  rcases member with (inFront | inNumeral) | inBack
  · exact solid (blankFront ',' inFront)
  · have other := denotes.mem inNumeral
    simp [Char.isDigit] at other
  · exact solid (blankBack ',' inBack)

theorem IsArgument.ne_nil
    {piece : List Char}
    {argument : Int64}
    (isArgument : IsArgument piece argument) :
    piece ≠ [] := by
  rcases isArgument with ⟨_, denotes, _⟩
  simp [denotes.ne_nil]

theorem argument?_eq_some_iff
    {piece : List Char}
    {argument : Int64} :
    argument? piece = some argument ↔ IsArgument piece argument := by
  rw [argument?, Option.bind_eq_some_iff]
  constructor
  · rintro ⟨integer, reads, fits⟩
    rcases Text.exists_eq_append_trim_append piece with ⟨front, back, split, blankFront, blankBack⟩
    rw [split]
    refine .intro blankFront ?_ blankBack
    rw [Word.toInt_of_int64? fits]
    exact Decimal.integer?_eq_some_iff.mp reads
  · rintro ⟨blankFront, denotes, blankBack⟩
    refine ⟨argument.toInt, ?_, Word.int64?_toInt argument⟩
    rw [Text.trim_append_append blankFront _ blankBack,
      Text.trim_of_all_not_blank (isBlank_of_mem_numeral denotes)]
    exact Decimal.integer?_eq_some_iff.mpr denotes

/-! ### The list of arguments -/

/-- Whether a text is a list of arguments: nothing, or arguments with commas between them. -/
inductive IsList : List Char → List Int64 → Prop where
  | none : IsList [] []
  | some {pieces : List (List Char)} {arguments : List Int64}
      (nonempty : pieces ≠ [])
      (each : List.Forall₂ IsArgument pieces arguments) :
      IsList ([','].intercalate pieces) arguments

theorem mapM_argument?_eq_some_iff
    {pieces : List (List Char)}
    {arguments : List Int64} :
    pieces.mapM argument? = some arguments ↔ List.Forall₂ IsArgument pieces arguments := by
  induction pieces generalizing arguments with
  | nil => simp [eq_comm]
  | cons piece pieces induction =>
    simp only [List.mapM_cons, Option.bind_eq_bind, Option.bind_eq_some_iff, Option.pure_def,
      Option.some.injEq, argument?_eq_some_iff, induction, List.forall₂_cons_left_iff]
    grind

/-- Where every piece is an argument, the comma-joined text is cut into these pieces again. -/
theorem splitEvery_of_forall₂
    {pieces : List (List Char)}
    {arguments : List Int64}
    (nonempty : pieces ≠ [])
    (each : List.Forall₂ IsArgument pieces arguments) :
    Text.splitEvery ',' ([','].intercalate pieces) = pieces := by
  apply Text.splitEvery_intercalate nonempty
  have absent := each.imp fun _ _ isArgument => And.intro isArgument.not_mem isArgument
  exact ((List.forall₂_and_left pieces arguments).mp absent).1

theorem arguments?_eq_some_iff
    {list : List Char}
    {arguments : List Int64} :
    arguments? list = some arguments ↔ IsList list arguments := by
  rw [arguments?]
  constructor
  · intro reads
    split at reads
    next empty =>
      cases empty
      cases reads
      exact .none
    next =>
      rw [← Text.intercalate_splitEvery ',' list]
      exact .some (Text.splitEvery_ne_nil ',' list) (mapM_argument?_eq_some_iff.mp reads)
  · intro isList
    cases isList with
    | none => rfl
    | @some pieces _ nonempty each =>
      have pieces_again := splitEvery_of_forall₂ nonempty each
      -- A list of one empty piece would be the empty text, but an argument has a digit.
      have joined : [','].intercalate pieces ≠ [] := by
        intro empty
        rw [empty] at pieces_again
        cases pieces_again
        cases each with
        | cons first _ => exact first.ne_nil rfl
      rw [if_neg joined, pieces_again]
      exact mapM_argument?_eq_some_iff.mpr each

/-! ### The parts of a request -/

/--
Whether a text, without carriage returns at its end, has the form of a request with an opcode and
arguments.  Whether a device accepts them is another question.
-/
inductive IsForm (opcode : Char) (arguments : List Int64) : List Char → Prop where
  | intro {list suffix : List Char}
      (isList : IsList list arguments)
      (colon : ':' ∉ suffix) :
      IsForm opcode arguments ('#' :: opcode :: '[' :: list ++ ']' :: ':' :: suffix)

theorem betweenBrackets?_eq_some_iff
    {text inner : List Char} :
    betweenBrackets? text = some inner ↔ text = '[' :: inner ++ [']'] := by
  constructor
  · intro found
    rw [betweenBrackets?.eq_def] at found
    split at found
    next rest =>
      split at found
      next last =>
        cases found
        rcases List.getLast?_eq_some_iff.mp last with ⟨inner, rfl⟩
        simp
      next => simp at found
    next => simp at found
  · rintro rfl
    simp [betweenBrackets?]

section

variable {text : List Char}

/-- The opcode and the arguments of a text of the right form make a command or are refused. -/
theorem read_of_isForm
    {opcode : Char}
    {arguments : List Int64}
    (isForm : IsForm opcode arguments (Text.dropEndWhile (· == '\r') text)) :
    read text = (Command.make opcode arguments).mapError .refused := by
  rw [read]
  generalize Text.dropEndWhile (· == '\r') text = kept at isForm
  rcases isForm with @⟨list, suffix, isList, colon⟩
  have body : Text.splitLast? ':' (opcode :: '[' :: list ++ ']' :: ':' :: suffix) =
      some (opcode :: ('[' :: list ++ [']']), suffix) := by
    rw [← Text.splitLast?_append_cons _ colon]
    simp
  have inner : betweenBrackets? ('[' :: (list ++ [']'])) = some list :=
    betweenBrackets?_eq_some_iff.mpr rfl
  simp only [List.cons_append] at body ⊢
  simp only [body, readBody, inner, arguments?_eq_some_iff.mpr isList]

/-- A body that is not malformed has an opcode and a list of arguments. -/
theorem exists_of_readBody
    {body : List Char}
    (wellFormed : ∀ fault, readBody body ≠ .error (.malformed fault)) :
    ∃ opcode list arguments,
      body = opcode :: '[' :: list ++ [']'] ∧ IsList list arguments := by
  rw [readBody.eq_def] at wellFormed
  split at wellFormed
  next => exact (wellFormed _ rfl).elim
  next opcode rest =>
    split at wellFormed
    next => exact (wellFormed _ rfl).elim
    next inner found =>
      split at wellFormed
      next => exact (wellFormed _ rfl).elim
      next arguments reads =>
        rw [betweenBrackets?_eq_some_iff.mp found]
        exact ⟨opcode, inner, arguments, rfl, arguments?_eq_some_iff.mp reads⟩

/-- A text that is not malformed has the form of a request. -/
theorem exists_isForm_of_read
    (wellFormed : ∀ fault, read text ≠ .error (.malformed fault)) :
    ∃ opcode arguments, IsForm opcode arguments (Text.dropEndWhile (· == '\r') text) := by
  rw [read] at wellFormed
  split at wellFormed
  next rest kept =>
    split at wellFormed
    next body suffix cut =>
      rcases exists_of_readBody wellFormed with ⟨opcode, list, arguments, rfl, isList⟩
      refine ⟨opcode, arguments, ?_⟩
      rw [kept, Text.splitLast?_eq_some cut]
      simpa using IsForm.intro isList (Text.not_mem_of_splitLast?_eq_some cut)
    next => exact (wellFormed _ rfl).elim
  next => exact (wellFormed _ rfl).elim

end

/-! ### Reading and the grammar -/

/-- How the reading of a text follows the grammar of requests. -/
structure ReadsForms (text : List Char) : Prop where
  /--
  A text is read as a command exactly if it has the form of a request with its opcode and its
  arguments, the opcode is valid, and the body as it is written has at most 58 octets.
  -/
  accepts : ∀ opcode arguments,
    (∃ command,
      read text = .ok command ∧ command.opcode = opcode ∧ command.arguments = arguments) ↔
      IsForm opcode arguments (Text.dropEndWhile (· == '\r') text) ∧
        isOpcode opcode = true ∧
        (Text.Utf8.encode (Command.bodyOf opcode arguments)).length ≤ 58
  /-- Written anew, the command is read as the same one. -/
  normalises : ∀ command, read text = .ok command → read (plain command) = .ok command
  /-- Where only the opcode is wrong, or else the length, the command is what is invalid. -/
  wrongOpcode : ∀ opcode arguments,
    IsForm opcode arguments (Text.dropEndWhile (· == '\r') text) → isOpcode opcode = false →
    (read text).mapError (RequestError.toError text) =
      .error (.invalidCommand (CommandError.invalidOpcode opcode).message)
  tooLong : ∀ opcode arguments length,
    IsForm opcode arguments (Text.dropEndWhile (· == '\r') text) → isOpcode opcode = true →
    (Text.Utf8.encode (Command.bodyOf opcode arguments)).length = length → 58 < length →
    (read text).mapError (RequestError.toError text) =
      .error (.invalidCommand (CommandError.tooLong length).message)
  /-- Every other text is malformed. -/
  malformed :
    (∀ opcode arguments, ¬ IsForm opcode arguments (Text.dropEndWhile (· == '\r') text)) →
    ∃ fault : RequestFault,
      (read text).mapError (RequestError.toError text) =
        .error (.malformedReply (String.ofList text) fault.message)

/-- Exactly the texts of the grammar are read, and each as the command that it stands for. -/
theorem reads_forms (text : List Char) : ReadsForms text := by
  constructor
  case accepts =>
    intro opcode arguments
    constructor
    · rintro ⟨command, reads, rfl, rfl⟩
      have wellFormed : ∀ fault, read text ≠ .error (.malformed fault) := by simp [reads]
      rcases exists_isForm_of_read wellFormed with ⟨opcode, arguments, isForm⟩
      rw [read_of_isForm isForm] at reads
      rcases Command.of_mapError_make_eq_ok reads with ⟨rfl, rfl⟩
      exact ⟨isForm, command.opcode_valid, command.length_encode_body_le⟩
    · rintro ⟨isForm, opcode_valid, short⟩
      rw [Command.length_encode_bodyOf opcode_valid] at short
      refine ⟨⟨opcode, arguments, opcode_valid, short⟩, ?_, rfl, rfl⟩
      rw [read_of_isForm isForm, Command.make_eq_ok ⟨opcode, arguments, opcode_valid, short⟩]
      rfl
  case normalises =>
    intro command _
    exact read_withSuffix command (by decide) (by decide)
  case wrongOpcode =>
    intro opcode arguments isForm invalid
    rw [read_of_isForm isForm, Command.make, dif_neg (by simp [invalid])]
    rfl
  case tooLong =>
    rintro opcode arguments _ isForm opcode_valid rfl long
    rw [Command.length_encode_bodyOf opcode_valid] at long ⊢
    have refused : ¬ (Command.bodyOf opcode arguments).length ≤ Command.maximumLength :=
      Nat.not_le.mpr long
    rw [read_of_isForm isForm, Command.make, dif_pos opcode_valid, dif_neg refused]
    rfl
  case malformed =>
    intro noForm
    by_contra other
    have wellFormed : ∀ fault, read text ≠ .error (.malformed fault) :=
      fun fault reads => other ⟨fault, by rw [reads]; rfl⟩
    rcases exists_isForm_of_read wellFormed with ⟨opcode, arguments, isForm⟩
    exact noForm opcode arguments isForm

/-- Blanks, signs and zeros in front do not count, and the suffix is not looked at. -/
example :
    (read "#M[ +007 ,-2]:]!".toList).toOption.map plain = some "#M[7,-2]:xxxx\r".toList := by
  decide +kernel

end Request

end RoverLink
