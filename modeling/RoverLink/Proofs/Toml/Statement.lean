import RoverLink.Proofs.Toml.Scalar
import RoverLink.Proofs.Toml.Text

/-!
# Lines that are read back

A line that gives a value to a key adds the value to the table that was opened
last (`reads_assignment`), and a header opens a table (`reads_header`).  Lines
are read one after another, and lines that are read from one progress to the
next can be joined (`Reads.append`).
-/

namespace RoverLink.Toml

open Decimal

/-! ### Values -/

/-- The document that the text of a scalar is read as. -/
def rereadScalar : Document → Document
  | .real number => .real (rereadReal number)
  | other => other

/-- Whether a text that ends its line is read as a value. -/
structure IsValue (text : List Char) (document : Document) : Prop where
  solid : ∀ rest, skipWhite (text ++ rest) = text ++ rest
  reads : ∀ nesting rest,
    readValue (nesting + 1) (text ++ '\n' :: rest) = some (document, '\n' :: rest)

theorem skipWhite_of_not_isWhite
    {first : Char}
    (solid : isWhite first = false)
    (rest : List Char) :
    skipWhite (first :: rest) = first :: rest := by
  simp [skipWhite, solid]

theorem isWhite_of_isScalarChar
    {character : Char}
    (ofScalar : isScalarChar character = true) :
    isWhite character = false := by
  simp only [isWhite, Bool.or_eq_false_iff, beq_eq_false_iff_ne]
  constructor
  · rintro rfl
    exact absurd ofScalar (by decide)
  · rintro rfl
    exact absurd ofScalar (by decide)

theorem IsBare.isValue
    {text : List Char}
    {document : Document}
    (bare : IsBare text document) :
    IsValue text document where
  solid rest := by
    cases text with
    | nil => exact (bare.nonempty rfl).elim
    | cons first others =>
      have ofScalar := bare.ofScalar first List.mem_cons_self
      exact skipWhite_of_not_isWhite (isWhite_of_isScalarChar ofScalar) (others ++ rest)
  reads nesting rest := readValue_of_isBare bare nesting rest

/-- A text starts with a quote. -/
theorem exists_text_eq_cons (content : List Char) :
    ∃ mark rest, text content = mark :: rest ∧ (mark = '"' ∨ mark = '\'') := by
  have double (long hasLines : Bool) :
      ∃ rest, doubleQuoted long hasLines content = '"' :: rest := by
    cases long <;> exact ⟨_, rfl⟩
  have single (long hasLines : Bool) :
      ∃ rest, singleQuoted long hasLines content = '\'' :: rest := by
    cases long <;> exact ⟨_, rfl⟩
  simp only [text]
  split
  next => exact (double _ _).elim fun rest same => ⟨_, rest, same, .inl rfl⟩
  split
  next => exact (single _ _).elim fun rest same => ⟨_, rest, same, .inr rfl⟩
  split
  next => exact (double _ _).elim fun rest same => ⟨_, rest, same, .inl rfl⟩
  split
  next => exact (single _ _).elim fun rest same => ⟨_, rest, same, .inr rfl⟩
  next => exact (double _ _).elim fun rest same => ⟨_, rest, same, .inl rfl⟩

theorem isValue_text (content : String) : IsValue (text content.toList) (.text content) := by
  rcases exists_text_eq_cons content.toList with ⟨mark, others, split, quote⟩
  have reads := readText_text content.toList
  rw [split] at reads ⊢
  refine ⟨?solid, ?reads⟩
  case solid =>
    intro rest
    refine skipWhite_of_not_isWhite ?_ (others ++ rest)
    rcases quote with rfl | rfl <;> decide
  case reads =>
    intro nesting rest
    have noList : mark ≠ '[' := by rcases quote with rfl | rfl <;> decide
    have noRecord : mark ≠ '{' := by rcases quote with rfl | rfl <;> decide
    specialize reads rest
    rw [List.cons_append] at reads ⊢
    rw [readValue, if_pos quote, reads]
    · simp
    · exact noList
    · exact noRecord

/-- What a scalar is written as is read as one value. -/
theorem isValue_of_scalarText?
    {document : Document}
    {text : List Char}
    (written : scalarText? document = some text) :
    IsValue text (rereadScalar document) := by
  cases document with
  | flag value =>
    have bare := isBare_flag value
    cases value <;> cases written <;> exact bare.isValue
  | whole value =>
    rcases Option.map_eq_some_iff.mp written with ⟨word, fits, rfl⟩
    exact (isBare_signed (by rw [fits]; rfl)).isValue
  | real number =>
    cases written
    exact (isBare_pointed number).isValue
  | text content =>
    cases written
    exact isValue_text content
  | null | list | record | unreadable => cases written

/-! ### Keys -/

/-- Whether a name may be part of a key without quotes. -/
structure IsBareName (name : String) : Prop where
  nonempty : name.toList ≠ []
  ofBare : ∀ character ∈ name.toList, isBareChar character = true

theorem isScalarChar_of_isBareChar
    {character : Char}
    (isBare : isBareChar character = true) :
    isScalarChar character = true := by
  simp only [isBareChar, Bool.or_eq_true] at isBare
  simp only [isScalarChar, Bool.or_eq_true]
  tauto

def isBareName (name : String) : Bool :=
  !name.toList.isEmpty && name.toList.all isBareChar

theorem isBareName_iff {name : String} : isBareName name = true ↔ IsBareName name := by
  simp only [isBareName, Bool.and_eq_true, Bool.not_eq_true', List.isEmpty_eq_false_iff,
    List.all_eq_true]
  exact ⟨fun bare => ⟨bare.1, bare.2⟩, fun bare => ⟨bare.nonempty, bare.ofBare⟩⟩

/-- Whether a text does not go on with a name. -/
def EndsName (rest : List Char) : Prop :=
  ∀ character ∈ rest.head?, isBareChar character = false

section

variable {name : String} (bare : IsBareName name)

include bare

theorem IsBareName.exists_eq_cons :
    ∃ first others, name.toList = first :: others ∧ isBareChar first = true := by
  cases split : name.toList with
  | nil => exact (bare.nonempty split).elim
  | cons first others => exact ⟨first, others, rfl, bare.ofBare first (by simp [split])⟩

theorem IsBareName.skipWhite (rest : List Char) :
    Toml.skipWhite (name.toList ++ rest) = name.toList ++ rest := by
  rcases bare.exists_eq_cons with ⟨first, others, split, isBare⟩
  rw [split]
  exact skipWhite_of_not_isWhite (isWhite_of_isScalarChar (isScalarChar_of_isBareChar isBare))
    (others ++ rest)

theorem readKeyPart_name
    {rest : List Char}
    (ends : EndsName rest) :
    readKeyPart (name.toList ++ rest) = some (name, rest) := by
  have part := Text.takeWhile_append_of_stops bare.ofBare ends
  have behind := Text.dropWhile_append_of_stops bare.ofBare ends
  have unquoted : readKeyPart (name.toList ++ rest) =
      if (name.toList ++ rest).takeWhile isBareChar = [] then none
      else some (String.ofList ((name.toList ++ rest).takeWhile isBareChar),
        (name.toList ++ rest).dropWhile isBareChar) := by
    rcases bare.exists_eq_cons with ⟨first, others, split, isBare⟩
    rw [split, List.cons_append, readKeyPart]
    · rintro _ ⟨⟩
      exact absurd isBare (by decide)
    · rintro _ ⟨⟩
      exact absurd isBare (by decide)
  rw [unquoted, part, behind, if_neg bare.nonempty, String.ofList_toList]

end

/-- A key starts with its first name. -/
theorem exists_intercalate_eq_append (name : String) (others : List String) :
    ∃ behind, (String.intercalate "." (name :: others)).toList = name.toList ++ behind := by
  cases others with
  | nil => exact ⟨[], by simp⟩
  | cons next others =>
    exact ⟨'.' :: (String.intercalate "." (next :: others)).toList, by simp [List.intercalate]⟩

/-- A key of several names is read as its names. -/
theorem readKeyParts_intercalate
    {path : List String}
    (bare : ∀ name ∈ path, IsBareName name)
    (nonempty : path ≠ [])
    {rest : List Char}
    (ends : EndsName rest)
    (noPoint : ∀ behind, skipWhite rest ≠ '.' :: behind)
    {fuel : Nat}
    (enough : path.length ≤ fuel) :
    readKeyParts fuel ((String.intercalate "." path).toList ++ rest) =
      some (path, skipWhite rest) := by
  induction path generalizing fuel with
  | nil => exact (nonempty rfl).elim
  | cons name others induction =>
    rcases List.forall_mem_cons.mp bare with ⟨first, behind⟩
    cases fuel with
    | zero => simp at enough
    | succ fuel =>
      cases others with
      | nil =>
        have single : (String.intercalate "." [name]).toList = name.toList := by simp
        rw [single, readKeyParts, first.skipWhite, readKeyPart_name first ends]
        simp only
      | cons next others =>
        have several : (String.intercalate "." (name :: next :: others)).toList ++ rest =
            name.toList ++ '.' :: ((String.intercalate "." (next :: others)).toList ++ rest) := by
          simp [List.intercalate]
        have point (text : List Char) : skipWhite ('.' :: text) = '.' :: text :=
          skipWhite_of_not_isWhite (by decide) text
        have reads := induction behind (List.cons_ne_nil next others)
          (Nat.le_of_succ_le_succ enough)
        rw [several, readKeyParts, first.skipWhite, readKeyPart_name first (by rintro _ ⟨⟩; decide)]
        simp only [point, reads, Option.map_some]

/-! ### Statements -/

/-- The text that gives a value to a key. -/
def assignment (name : String) (value : List Char) : List Char :=
  name.toList ++ " = ".toList ++ value

/-- The text that opens a table. -/
def header (path : List String) : List Char :=
  '[' :: (String.intercalate "." path).toList ++ [']']

theorem readAssignment_name
    {name : String}
    (bare : IsBareName name)
    {value : List Char}
    {document : Document}
    (isValue : IsValue value document)
    (nesting : Nat)
    (rest : List Char) :
    readAssignment (readValue (nesting + 1)) (assignment name value ++ '\n' :: rest) =
      some (([name], document), '\n' :: rest) := by
  have ends : EndsName (' ' :: '=' :: ' ' :: (value ++ '\n' :: rest)) := by
    rintro character ⟨⟩
    decide
  have key := @readKeyParts_intercalate [name] (by simpa using bare) (by simp) _ ends nofun 79
    (Nat.succ_le_succ (Nat.zero_le 78))
  have layout : assignment name value ++ '\n' :: rest =
      (String.intercalate "." [name]).toList ++ ' ' :: '=' :: ' ' :: (value ++ '\n' :: rest) := by
    simp [assignment]
  have equals : skipWhite (' ' :: '=' :: ' ' :: (value ++ '\n' :: rest)) =
      '=' :: ' ' :: (value ++ '\n' :: rest) := rfl
  have behind : skipWhite (' ' :: (value ++ '\n' :: rest)) = value ++ '\n' :: rest :=
    isValue.solid ('\n' :: rest)
  rw [layout, readAssignment, readKey, key, equals]
  simp only [behind, isValue.reads nesting rest, Option.map_some]

/-- The progress after a line that gives a value to a key. -/
theorem readLine_assignment
    {name : String}
    (bare : IsBareName name)
    {value : List Char}
    {document : Document}
    (isValue : IsValue value document)
    (progress : Progress)
    (rest : List Char) :
    readLine progress (assignment name value ++ '\n' :: rest) =
      (progress.assign [name] document).map (·, '\n' :: rest) := by
  have reads := readAssignment_name bare isValue 79 rest
  rcases bare.exists_eq_cons with ⟨first, others, split, isBare⟩
  have noHeader (behind : List Char) : assignment name value ++ '\n' :: rest ≠ '[' :: behind := by
    rw [assignment, split]
    rintro ⟨⟩
    exact absurd isBare (by decide)
  rw [readLine, reads]
  · exact fun behind => noHeader _
  · exact fun behind => noHeader _

/-- The progress after a header. -/
theorem readLine_header
    {path : List String}
    (bare : ∀ name ∈ path, IsBareName name)
    (nonempty : path ≠ [])
    (short : path.length ≤ 79)
    (progress : Progress)
    (rest : List Char) :
    readLine progress (header path ++ rest) = (progress.enter false path).map (·, rest) := by
  have ends : EndsName (']' :: rest) := by
    rintro character ⟨⟩
    decide
  have key := @readKeyParts_intercalate path bare nonempty _ ends nofun 79 short
  have layout : header path ++ rest =
      '[' :: ((String.intercalate "." path).toList ++ ']' :: rest) := by
    simp [header]
  have single (behind : List Char) :
      (String.intercalate "." path).toList ++ ']' :: rest ≠ '[' :: behind := by
    cases path with
    | nil => exact (nonempty rfl).elim
    | cons name others =>
      rcases exists_intercalate_eq_append name others with ⟨more, starts⟩
      rcases (bare name List.mem_cons_self).exists_eq_cons with ⟨first, tail, split, isBare⟩
      rw [starts, split]
      rintro ⟨⟩
      exact absurd isBare (by decide)
  rw [layout, readLine, readKey, key]
  · rfl
  · exact single

/-! ### Runs of lines -/

/-- Whether the reader takes a text from one progress to another, with two characters a line. -/
def Reads (written : List Char) (before after : Progress) : Prop :=
  ∃ count, 2 * count ≤ written.length ∧
    ∀ fuel rest, readLines (fuel + count) before (written ++ rest) = readLines fuel after rest

theorem Reads.nil (progress : Progress) : Reads [] progress progress :=
  ⟨0, Nat.le_refl 0, fun _ _ => rfl⟩

theorem Reads.append
    {first second : List Char}
    {before between after : Progress}
    (readsFirst : Reads first before between)
    (readsSecond : Reads second between after) :
    Reads (first ++ second) before after := by
  rcases readsFirst with ⟨firstCount, firstFits, ofFirst⟩
  rcases readsSecond with ⟨secondCount, secondFits, ofSecond⟩
  refine ⟨secondCount + firstCount, ?_, fun fuel rest => ?_⟩
  · rw [List.length_append]
    omega
  · rw [List.append_assoc, ← Nat.add_assoc, ofFirst, ofSecond]

/-- An empty line is passed over. -/
theorem readLines_lineEnd (fuel : Nat) (progress : Progress) (text : List Char) :
    readLines fuel progress ('\n' :: text) = readLines fuel progress text := by
  cases fuel with
  | zero => rfl
  | succ fuel =>
    have passed : skipLines ('\n' :: text).length ('\n' :: text) = skipLines text.length text := rfl
    rw [readLines, readLines, passed]

theorem Reads.of_lineEnd
    {written : List Char}
    {before after : Progress}
    (reads : Reads written before after) :
    Reads ('\n' :: written) before after := by
  rcases reads with ⟨count, fits, ofWritten⟩
  refine ⟨count, by rw [List.length_cons]; omega, fun fuel rest => ?_⟩
  rw [List.cons_append, readLines_lineEnd, ofWritten]

/-- Nothing is skipped before a key or a header. -/
theorem skipLines_of_starts
    {first : Char}
    (starts : isBareChar first = true ∨ first = '[')
    (fuel : Nat)
    (rest : List Char) :
    skipLines fuel (first :: rest) = first :: rest := by
  have other {mark : Char} (noName : isBareChar mark = false) (noHeader : mark ≠ '[') :
      first ≠ mark := by
    rintro rfl
    rcases starts with isBare | rfl
    · simp [isBare] at noName
    · exact noHeader rfl
  have solid : isWhite first = false := by
    simp only [isWhite, Bool.or_eq_false_iff, beq_eq_false_iff_ne]
    exact ⟨other (by decide) (by decide), other (by decide) (by decide)⟩
  have noComment : skipComment (first :: rest) = first :: rest := by
    rw [skipComment]
    rintro behind ⟨⟩
    exact other (by decide) (by decide) rfl
  have noEnd := afterLineEnd?_of_ne (other (by decide) (by decide) : first ≠ '\n')
    (other (by decide) (by decide) : first ≠ '\r') rest
  cases fuel with
  | zero => rfl
  | succ fuel =>
    simp only [skipLines, skipWhite_of_not_isWhite solid, noComment, noEnd]

/-- A line is read together with its end. -/
theorem Reads.of_readLine
    {first : Char}
    {others : List Char}
    (starts : isBareChar first = true ∨ first = '[')
    {before after : Progress}
    (reads : ∀ rest,
      readLine before (first :: (others ++ '\n' :: rest)) = some (after, '\n' :: rest)) :
    Reads (first :: others ++ ['\n']) before after := by
  refine ⟨1, by simp, fun fuel rest => ?_⟩
  have layout : first :: others ++ ['\n'] ++ rest = first :: (others ++ '\n' :: rest) := by
    simp
  rw [layout, readLines, skipLines_of_starts starts]
  simp only [reads rest]
  rfl

theorem reads_assignment
    {name : String}
    (bare : IsBareName name)
    {value : List Char}
    {document : Document}
    (isValue : IsValue value document)
    {before after : Progress}
    (assigns : before.assign [name] document = some after) :
    Reads (assignment name value ++ ['\n']) before after := by
  have reads := readLine_assignment bare isValue before
  rw [assigns] at reads
  rcases bare.exists_eq_cons with ⟨first, others, split, isBare⟩
  rw [assignment, split] at reads ⊢
  exact .of_readLine (.inl isBare) reads

theorem reads_header
    {path : List String}
    (bare : ∀ name ∈ path, IsBareName name)
    (nonempty : path ≠ [])
    (short : path.length ≤ 79)
    {before after : Progress}
    (enters : before.enter false path = some after) :
    Reads (header path ++ ['\n']) before after := by
  have reads rest := readLine_header bare nonempty short before ('\n' :: rest)
  rw [enters] at reads
  exact .of_readLine (.inr rfl) reads

/-- No line starts with a byte order mark. -/
theorem readLines_byteOrderMark
    (fuel : Nat)
    (progress : Progress)
    (rest : List Char) :
    readLines fuel progress ('\ufeff' :: rest) = none := by
  cases fuel with
  | zero => rfl
  | succ fuel => rfl

/-- A text that is read completely, behind an empty line, gives what has been read of it. -/
theorem read?_of_reads
    {written : List Char}
    {after : Progress}
    (reads : Reads ('\n' :: written) ⟨[], []⟩ after) :
    read? written = some (.record (entryDocuments after.entries)) := by
  rcases reads with ⟨count, fits, ofWritten⟩
  rw [List.length_cons] at fits
  have complete : readLines (written.length + 1) ⟨[], []⟩ written = some after := by
    have all := ofWritten (written.length + 1 - count) []
    rw [Nat.sub_add_cancel (by omega), List.append_nil, readLines_lineEnd] at all
    rw [all, show written.length + 1 - count = written.length - count + 1 by omega]
    rfl
  have noMark (rest : List Char) : written ≠ '\ufeff' :: rest := by
    rintro rfl
    rw [readLines_byteOrderMark] at complete
    cases complete
  rw [read?]
  · simp only [complete, Option.map_some]
  · exact noMark

end RoverLink.Toml
