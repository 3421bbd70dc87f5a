import RoverLink.Proofs.Json.Literal
import RoverLink.Toml.Printer
import RoverLink.Toml.Reader

/-!
# Texts that are read back

Every text is read back from the form in which it is written (`readText_text`).
Between double quotes each character is written in a way of its own; over
several lines, quotes may stand for themselves as long as three of them do not
meet, and up to two may stand before the closing ones.
-/

namespace RoverLink.Toml

/-! ### Single characters -/

theorem isOrdinary_of_not_isControl
    {character : Char}
    (noControl : isControl character = false)
    (noLine : character ≠ '\n') :
    isOrdinary character = true := by
  by_cases tab : character = '\t'
  · subst tab
    rfl
  · simp [isControl, noLine, tab] at noControl
    simp [isOrdinary, noControl]

/-- How a character may be written between double quotes, but for bare quotes. -/
inductive IsWritten (long : Bool) : Char → List Char → Prop where
  | plain {character : Char}
      (ordinary : isOrdinary character = true)
      (noQuote : character ≠ '"')
      (noBackslash : character ≠ '\\') :
      IsWritten long character [character]
  | escaped {character mark : Char} {escape : List Char}
      (solid : ∀ rest, afterLineEnd? (skipWhite (mark :: rest)) = none)
      (reads : ∀ rest, readEscape (mark :: (escape ++ rest)) = some (character, rest)) :
      IsWritten long character ('\\' :: mark :: escape)
  | line (several : long = true) : IsWritten long '\n' ['\n']

theorem isWritten_quote (long : Bool) : IsWritten long '"' ['\\', '"'] :=
  .escaped (fun _ => rfl) (fun _ => rfl)

open Json in
theorem hexDigit?_upperDigit {value : Nat} (small : value < 16) :
    hexDigit? (upperDigit value) = some value :=
  hexDigit?_of_isHexDigit ⟨small, .inr rfl⟩

theorem hexChar?_upperDigit
    {character : Char}
    (ascii : character.toNat < 0x80) :
    hexChar? ['0', '0', upperDigit (character.toNat / 16), upperDigit (character.toNat % 16)] =
      some character := by
  have zero : Json.hexDigit? '0' = some 0 := by decide
  have higher := hexDigit?_upperDigit (show character.toNat / 16 < 16 by omega)
  have lower := hexDigit?_upperDigit (show character.toNat % 16 < 16 by omega)
  have code : character.toNat / 16 * 16 + character.toNat % 16 = character.toNat := by omega
  have small : character.toNat < 0xd800 := by omega
  simp [hexChar?, zero, higher, lower, code, small]

theorem isWritten_escapedChar
    (long : Bool)
    {character : Char}
    (noQuote : character ≠ '"') :
    IsWritten long character (escapedChar long character) := by
  rw [escapedChar.eq_def]
  split
  iterate 5 next => exact .escaped (fun _ => rfl) (fun _ => rfl)
  next =>
    cases long with
    | true => exact .line rfl
    | false => exact .escaped (fun _ => rfl) (fun _ => rfl)
  next _ _ _ _ noBackslash noLine =>
    split
    next control =>
      have ascii : character.toNat < 0x80 := by
        simp only [isControl, Bool.and_eq_true, Bool.or_eq_true, decide_eq_true_eq] at control
        omega
      refine .escaped (fun _ => rfl) fun rest => ?_
      simp [readEscape, hexChar?_upperDigit ascii]
    next noControl =>
      exact .plain (isOrdinary_of_not_isControl (by simpa using noControl) noLine) noQuote
        noBackslash

/-! ### Bodies -/

/-- The reader of a text from behind its opening quotes, which takes at most `fuel` characters. -/
abbrev BodyReader := Nat → List Char → Option (List Char × List Char)

/-- Whether a reader takes a written character for the character. -/
structure IsPiece (read : BodyReader) (quote character : Char) (written : List Char) : Prop where
  starts : ∃ first rest, written = first :: rest ∧ first ≠ quote
  reads : ∀ {fuel rest content after}, read fuel rest = some (content, after) →
    read (fuel + 1) (written ++ rest) = some (character :: content, after)

/-- How a text is written in pieces behind a run of quotes, with bare quotes up to a longest run. -/
inductive IsBody (read : BodyReader) (quote : Char) (longest : Nat) :
    Nat → List Char → List Char → Prop where
  | nil {run : Nat} : IsBody read quote longest run [] []
  | quote {run : Nat} {content written : List Char}
      (short : run < longest)
      (rest : IsBody read quote longest (run + 1) content written) :
      IsBody read quote longest run (quote :: content) (quote :: written)
  | piece {run : Nat} {character : Char} {first content written : List Char}
      (isPiece : IsPiece read quote character first)
      (rest : IsBody read quote longest 0 content written) :
      IsBody read quote longest run (character :: content) (first ++ written)

section

variable {read : BodyReader} {quote : Char} {longest run : Nat} {content written : List Char}

theorem IsBody.length_le (body : IsBody read quote longest run content written) :
    content.length ≤ written.length := by
  induction body with
  | nil => exact Nat.le_refl 0
  | quote _ _ induction => exact Nat.succ_le_succ induction
  | piece isPiece _ induction =>
    rcases isPiece.starts with ⟨first, rest, split, _⟩
    simp only [split, List.length_append, List.length_cons]
    omega

/-- What is between double quotes is written in pieces. -/
theorem isBody_escapedFrom
    {long : Bool}
    (piece : ∀ {character written}, IsWritten long character written →
      IsPiece read '"' character written)
    (run : Nat)
    (content : List Char) :
    IsBody read '"' (if long then 2 else 0) run content (escapedFrom long run content) := by
  induction content generalizing run with
  | nil => exact .nil
  | cons character rest induction =>
    rw [escapedFrom]
    by_cases same : character = '"'
    · subst same
      rw [if_pos rfl]
      by_cases short : run < if long then 2 else 0
      · rw [if_pos short]
        exact .quote short (induction (run + 1))
      · rw [if_neg short]
        exact .piece (piece (isWritten_quote long)) (induction 0)
    · rw [if_neg same]
      exact .piece (piece (isWritten_escapedChar long same)) (induction 0)

end

/-! ### Between double quotes on one line -/

theorem IsWritten.isPiece_basic
    {character : Char}
    {written : List Char}
    (isWritten : IsWritten false character written) :
    IsPiece readBasic '"' character written := by
  cases isWritten with
  | plain ordinary noQuote noBackslash =>
    refine ⟨⟨character, [], rfl, noQuote⟩, ?_⟩
    intro fuel rest content after reads
    simp [readBasic, noQuote, noBackslash, ordinary, reads]
  | escaped _ meant =>
    refine ⟨⟨'\\', _, rfl, by decide⟩, ?_⟩
    intro fuel rest content after reads
    simp [readBasic, meant, reads]
  | line several => cases several

/-- A body without bare quotes is read up to the closing quote. -/
theorem read_of_isBody_zero
    {read : BodyReader}
    {quote : Char}
    (closes : ∀ fuel rest, read (fuel + 1) (quote :: rest) = some ([], rest))
    {run : Nat}
    {content written : List Char}
    (body : IsBody read quote 0 run content written)
    (rest : List Char)
    {fuel : Nat}
    (enough : content.length < fuel) :
    read fuel (written ++ quote :: rest) = some (content, rest) := by
  induction body generalizing fuel with
  | nil =>
    cases fuel with
    | zero => simp at enough
    | succ fuel => exact closes fuel rest
  | quote short => simp at short
  | piece isPiece _ induction =>
    cases fuel with
    | zero => simp at enough
    | succ fuel =>
      rw [List.append_assoc]
      exact isPiece.reads (induction (Nat.lt_of_succ_lt_succ enough))

/-! ### Over several lines -/

/-- How a reader of several lines deals with quotes. -/
structure IsLongReader (read : BodyReader) (quote : Char) : Prop where
  closes : ∀ {fuel text found}, closing? quote text = some found → read (fuel + 1) text = some found
  continues : ∀ {fuel rest content after}, closing? quote (quote :: rest) = none →
    read fuel rest = some (content, after) →
    read (fuel + 1) (quote :: rest) = some (quote :: content, after)

section

variable {read : BodyReader} {quote : Char} {run : Nat} {content written : List Char}

/--
Behind a run of quotes a body either has nothing but quotes, or has another
character before the third quote of the run.
-/
theorem IsBody.exists_leading
    (body : IsBody read quote 2 run content written)
    (short : run ≤ 2) :
    ∃ count, run + count ≤ 2 ∧
      ((content = List.replicate count quote ∧ written = List.replicate count quote) ∨
        ∀ rest, ((written ++ rest).takeWhile (· == quote)).length = count) := by
  induction body with
  | nil => exact ⟨0, short, .inl ⟨rfl, rfl⟩⟩
  | quote less _ induction =>
    rcases induction less with ⟨count, within, bare | stops⟩
    · refine ⟨count + 1, by omega, .inl ⟨?_, ?_⟩⟩
      · rw [bare.1, List.replicate_succ]
      · rw [bare.2, List.replicate_succ]
    · refine ⟨count + 1, by omega, .inr fun rest => ?_⟩
      simp [stops rest]
  | piece isPiece _ _ =>
    rcases isPiece.starts with ⟨first, others, split, other⟩
    refine ⟨0, short, .inr fun rest => ?_⟩
    simp [split, other]

variable (reader : IsLongReader read quote) (noLine : quote ≠ '\n')

include noLine

theorem closing?_replicate
    {count : Nat}
    (few : count ≤ 2)
    (rest : List Char) :
    closing? quote (List.replicate count quote ++ (quote :: quote :: quote :: '\n' :: rest)) =
      some (List.replicate count quote, '\n' :: rest) := by
  have stops : ('\n' == quote) = false := by simpa using noLine.symm
  rcases (by omega : count = 0 ∨ count = 1 ∨ count = 2) with rfl | rfl | rfl <;>
    simp [closing?, stops, List.replicate_succ]

include reader

/-- A body over several lines is read up to the closing quotes. -/
theorem read_of_isBody
    (body : IsBody read quote 2 run content written)
    (short : run ≤ 2)
    (rest : List Char)
    {fuel : Nat}
    (enough : content.length < fuel) :
    read fuel (written ++ (quote :: quote :: quote :: '\n' :: rest)) =
      some (content, '\n' :: rest) := by
  induction body generalizing fuel with
  | nil =>
    cases fuel with
    | zero => simp at enough
    | succ fuel => exact reader.closes (closing?_replicate noLine (Nat.zero_le 2) rest)
  | quote less tail induction =>
    cases fuel with
    | zero => simp at enough
    | succ fuel =>
      rcases tail.exists_leading less with ⟨count, within, bare | stops⟩
      · have closes := closing?_replicate noLine (show count + 1 ≤ 2 by omega) rest
        rw [bare.1, bare.2]
        exact reader.closes closes
      · refine reader.continues ?_ (induction less (Nat.lt_of_succ_lt_succ enough))
        simp [closing?, stops, show count + 1 < 3 by omega]
  | piece isPiece _ induction =>
    cases fuel with
    | zero => simp at enough
    | succ fuel =>
      rw [List.append_assoc]
      exact isPiece.reads (induction (Nat.zero_le 2) (Nat.lt_of_succ_lt_succ enough))

end

theorem afterLineEnd?_of_ne
    {first : Char}
    (noLine : first ≠ '\n')
    (noReturn : first ≠ '\r')
    (rest : List Char) :
    afterLineEnd? (first :: rest) = none := by
  rw [afterLineEnd?]
  · rintro behind ⟨⟩
    exact noLine rfl
  · rintro behind ⟨⟩
    exact noReturn rfl

theorem afterLineEnd?_of_isOrdinary
    {first : Char}
    (ordinary : isOrdinary first = true)
    (rest : List Char) :
    afterLineEnd? (first :: rest) = none := by
  refine afterLineEnd?_of_ne ?_ ?_ rest
  · rintro rfl
    simp [isOrdinary] at ordinary
  · rintro rfl
    simp [isOrdinary] at ordinary

theorem closing?_of_ne
    {quote first : Char}
    (other : first ≠ quote)
    (rest : List Char) :
    closing? quote (first :: rest) = none := by
  simp [closing?, other]

/-! ### Over several lines in double quotes -/

theorem isLongReader_basic : IsLongReader readLongBasic '"' where
  closes closes := by
    rw [readLongBasic.eq_def]
    simp only [closes]
  continues bare reads := by
    rw [readLongBasic.eq_def]
    simp [bare, afterLineEnd?_of_ne, isOrdinary, reads]

theorem IsWritten.isPiece_longBasic
    {character : Char}
    {written : List Char}
    (isWritten : IsWritten true character written) :
    IsPiece readLongBasic '"' character written := by
  cases isWritten with
  | plain ordinary noQuote noBackslash =>
    refine ⟨⟨character, [], rfl, noQuote⟩, ?_⟩
    intro fuel rest content after reads
    have noEnd := afterLineEnd?_of_isOrdinary ordinary rest
    rw [List.singleton_append, readLongBasic.eq_def]
    simp [closing?_of_ne noQuote, noEnd, ordinary, reads]
  | escaped solid meant =>
    refine ⟨⟨'\\', _, rfl, by decide⟩, ?_⟩
    intro fuel rest content after reads
    rw [List.cons_append, List.cons_append, readLongBasic.eq_def]
    simp [closing?_of_ne, afterLineEnd?_of_ne, solid, meant, reads]
  | line _ =>
    refine ⟨⟨'\n', [], rfl, by decide⟩, ?_⟩
    intro fuel rest content after reads
    rw [List.singleton_append, readLongBasic.eq_def]
    simp [closing?_of_ne, afterLineEnd?, reads]

/-! ### In single quotes -/

theorem isLongReader_literal : IsLongReader readLongLiteral '\'' where
  closes closes := by
    rw [readLongLiteral.eq_def]
    simp only [closes]
  continues bare reads := by
    rw [readLongLiteral.eq_def]
    simp [bare, afterLineEnd?_of_ne, isOrdinary, reads]

theorem isPiece_longLiteral
    {character : Char}
    (noControl : isControl character = false)
    (noQuote : character ≠ '\'') :
    IsPiece readLongLiteral '\'' character [character] := by
  refine ⟨⟨character, [], rfl, noQuote⟩, ?_⟩
  intro fuel rest content after reads
  rw [List.singleton_append, readLongLiteral, closing?_of_ne noQuote]
  by_cases line : character = '\n'
  · subst line
    simp [afterLineEnd?, reads]
  · have noReturn : character ≠ '\r' := by
      rintro rfl
      simp [isControl] at noControl
    have noEnd := afterLineEnd?_of_ne line noReturn rest
    simp [noEnd, isOrdinary_of_not_isControl noControl line, reads]

theorem isPiece_literal
    {character : Char}
    (noControl : isControl character = false)
    (noLine : character ≠ '\n')
    (noQuote : character ≠ '\'') :
    IsPiece (fun _ => readLiteral) '\'' character [character] := by
  refine ⟨⟨character, [], rfl, noQuote⟩, ?_⟩
  intro fuel rest content after reads
  simp [readLiteral, noQuote, isOrdinary_of_not_isControl noControl noLine, reads]

/-- The longest run so far and the one that reaches up to here, after one more character. -/
def runStep (sought : Char) (runs : Nat × Nat) (character : Char) : Nat × Nat :=
  if character = sought then (max runs.1 (runs.2 + 1), runs.2 + 1) else (runs.1, 0)

theorem le_foldl_runStep (sought : Char) (content : List Char) (runs : Nat × Nat) :
    runs.1 ≤ (content.foldl (runStep sought) runs).1 := by
  induction content generalizing runs with
  | nil => exact Nat.le_refl _
  | cons character rest induction =>
    refine Nat.le_trans ?_ (induction (runStep sought runs character))
    rw [runStep]
    split
    · exact Nat.le_max_left _ _
    · exact Nat.le_refl _

section

variable {read : BodyReader} {quote : Char} {longest : Nat} {content : List Char}
  (piece : ∀ character ∈ content, character ≠ quote → IsPiece read quote character [character])

include piece

theorem isBody_of_foldl_runStep
    {best run : Nat}
    (short : (content.foldl (runStep quote) (best, run)).1 ≤ longest) :
    IsBody read quote longest run content content := by
  induction content generalizing best run with
  | nil => exact .nil
  | cons character rest induction =>
    rcases List.forall_mem_cons.mp piece with ⟨first, others⟩
    rw [List.foldl_cons, runStep] at short
    by_cases same : character = quote
    · subst same
      rw [if_pos rfl] at short
      have within := Nat.le_trans (le_foldl_runStep character rest _) short
      exact .quote (Nat.le_trans (Nat.le_max_right best (run + 1)) within) (induction others short)
    · rw [if_neg same] at short
      exact .piece (first same) (induction others short)

/-- A text without long runs of quotes is its own body. -/
theorem isBody_of_longestRun (short : longestRun quote content ≤ longest) :
    IsBody read quote longest 0 content content := by
  have fold : longestRun quote content = (content.foldl (runStep quote) (0, 0)).1 := rfl
  rw [fold] at short
  exact isBody_of_foldl_runStep piece short

end

/-! ### All forms -/

theorem dropLineEnd_of_isOrdinary
    {first : Char}
    (ordinary : isOrdinary first = true)
    (rest : List Char) :
    dropLineEnd (first :: rest) = first :: rest := by
  rw [dropLineEnd, afterLineEnd?_of_isOrdinary ordinary]
  rfl

/-- The line end behind the opening quotes does not count. -/
theorem dropLineEnd_lead
    (hasLines : Bool)
    {body : List Char}
    (starts : hasLines = false → ∃ first rest, body = first :: rest ∧ isOrdinary first = true) :
    dropLineEnd ((if hasLines then ['\n'] else []) ++ body) = body := by
  cases hasLines with
  | true => rfl
  | false =>
    rcases starts rfl with ⟨first, rest, rfl, ordinary⟩
    exact dropLineEnd_of_isOrdinary ordinary rest

/-- Behind an opening quote, a body without bare quotes does not make two more. -/
theorem IsBody.ne_quotes
    {read : BodyReader}
    {quote : Char}
    {run : Nat}
    {content written : List Char}
    (body : IsBody read quote 0 run content written)
    (noLine : quote ≠ '\n')
    (rest behind : List Char) :
    written ++ quote :: '\n' :: rest ≠ quote :: quote :: behind := by
  cases body with
  | nil =>
    intro same
    simp only [List.nil_append, List.cons.injEq] at same
    exact noLine same.2.1.symm
  | quote short => simp at short
  | piece isPiece _ =>
    rcases isPiece.starts with ⟨first, others, rfl, other⟩
    intro same
    exact other (List.cons.inj same).1

/-- The text between double quotes starts with no line end if it has none. -/
theorem exists_escapedFrom_eq_cons
    {content : List Char}
    (noLine : '\n' ∉ content)
    (rest : List Char) :
    ∃ first others, escapedFrom true 0 content ++ '"' :: rest = first :: others ∧
      isOrdinary first = true := by
  cases content with
  | nil => exact ⟨'"', rest, rfl, by decide⟩
  | cons character behind =>
    rw [escapedFrom]
    by_cases quote : character = '"'
    · rw [if_pos quote]
      exact ⟨'"', _, rfl, by decide⟩
    · rw [if_neg quote]
      have written := isWritten_escapedChar true quote
      generalize escapedChar true character = first at written
      cases written with
      | plain ordinary => exact ⟨character, _, rfl, ordinary⟩
      | escaped => exact ⟨'\\', _, rfl, by decide⟩
      | line => simp at noLine

section

variable (content rest : List Char)

theorem readText_basic :
    readText (doubleQuoted false false content ++ '\n' :: rest) =
      some (content, '\n' :: rest) := by
  have body := isBody_escapedFrom IsWritten.isPiece_basic 0 content
  have layout : doubleQuoted false false content ++ '\n' :: rest =
      '"' :: (escapedFrom false 0 content ++ '"' :: '\n' :: rest) := by
    simp [doubleQuoted]
  have enough := body.length_le
  rw [layout, readText]
  · refine read_of_isBody_zero (fun _ _ => rfl) body _ ?_
    rw [List.length_append]
    omega
  · exact body.ne_quotes (by decide) rest

theorem readText_longBasic
    {hasLines : Bool}
    (lines : hasLines = false → '\n' ∉ content) :
    readText (doubleQuoted true hasLines content ++ '\n' :: rest) =
      some (content, '\n' :: rest) := by
  have body := isBody_escapedFrom IsWritten.isPiece_longBasic 0 content
  have layout : doubleQuoted true hasLines content ++ '\n' :: rest =
      '"' :: '"' :: '"' :: ((if hasLines then ['\n'] else []) ++
        (escapedFrom true 0 content ++ '"' :: '"' :: '"' :: '\n' :: rest)) := by
    simp [doubleQuoted]
  have enough := body.length_le
  rw [layout, readText, dropLineEnd_lead]
  · refine read_of_isBody isLongReader_basic (by decide) body (Nat.zero_le 2) rest ?_
    rw [List.length_append, List.length_append]
    omega
  · exact fun single => exists_escapedFrom_eq_cons (lines single) _

variable (noControl : ∀ character ∈ content, isControl character = false)

include noControl

theorem readText_literal
    (noLine : '\n' ∉ content)
    (noQuote : longestRun '\'' content = 0) :
    readText (singleQuoted false false content ++ '\n' :: rest) =
      some (content, '\n' :: rest) := by
  have body := isBody_of_longestRun (fun character inside => isPiece_literal
    (noControl character inside) (by rintro rfl; exact noLine inside)) (Nat.le_of_eq noQuote)
  have layout : singleQuoted false false content ++ '\n' :: rest =
      '\'' :: (content ++ '\'' :: '\n' :: rest) := by
    simp [singleQuoted]
  rw [layout, readText]
  · exact read_of_isBody_zero (fun _ _ => rfl) body _ (Nat.lt_succ_self _)
  · exact body.ne_quotes (by decide) rest

theorem readText_longLiteral
    {hasLines : Bool}
    (lines : hasLines = false → '\n' ∉ content)
    (short : longestRun '\'' content ≤ 2) :
    readText (singleQuoted true hasLines content ++ '\n' :: rest) =
      some (content, '\n' :: rest) := by
  have body := isBody_of_longestRun (fun character inside => isPiece_longLiteral
    (noControl character inside)) short
  have layout : singleQuoted true hasLines content ++ '\n' :: rest =
      '\'' :: '\'' :: '\'' :: ((if hasLines then ['\n'] else []) ++
        (content ++ '\'' :: '\'' :: '\'' :: '\n' :: rest)) := by
    simp [singleQuoted]
  rw [layout, readText, dropLineEnd_lead]
  · refine read_of_isBody isLongReader_literal (by decide) body (Nat.zero_le 2) rest ?_
    rw [List.length_append, List.length_append]
    omega
  · intro single
    cases content with
    | nil => exact ⟨'\'', _, rfl, by decide⟩
    | cons character behind =>
      have noLine : character ≠ '\n' := by
        rintro rfl
        exact lines single List.mem_cons_self
      exact ⟨character, _, rfl,
        isOrdinary_of_not_isControl (noControl character List.mem_cons_self) noLine⟩

omit noControl

/-- Every text is read back from the form that is chosen for it. -/
theorem readText_text :
    readText (text content ++ '\n' :: rest) = some (content, '\n' :: rest) := by
  have lines : content.contains '\n' = false → '\n' ∉ content := by simp
  have controls : content.any isControl = false →
      ∀ character ∈ content, isControl character = false := by simp
  simp only [text]
  split
  next => exact readText_basic content rest
  split
  next choice =>
    simp only [Bool.and_eq_true, Bool.not_eq_true', decide_eq_true_eq] at choice
    exact readText_literal content rest (controls choice.1.1) (lines choice.1.2) choice.2
  split
  next => exact readText_longBasic content rest lines
  split
  next choice =>
    simp only [Bool.and_eq_true, Bool.not_eq_true', decide_eq_true_eq] at choice
    exact readText_longLiteral content rest (controls choice.1) lines choice.2
  cases content.contains '\n' with
  | true => exact readText_longBasic content rest nofun
  | false => exact readText_basic content rest

end

end RoverLink.Toml
