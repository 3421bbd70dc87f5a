import RoverLink.Proofs.Json.Real
import RoverLink.Proofs.Json.Token

/-!
# Reading what was printed

A document that is printed over several lines is read part by part: records and
lists as they are, and every scalar as its own text is read alone
(`read?_pretty`).  Truth values, texts and the integers of a word are read as
they are (`reread_flag`, `reread_text`, `reread_whole`); what is not finite is
read as null, and a finite number as whatever its digits are taken for.
-/

namespace RoverLink.Json

open Decimal

/-! ### Texts -/

theorem isCode_controlDigits {code : Nat} (control : code < 0x20) :
    IsCode '0' '0' (Nat.digitChar (code / 16)) (Nat.digitChar (code % 16)) code := by
  have zero : IsHexDigit '0' 0 := ⟨by decide, .inl rfl⟩
  have higher : IsHexDigit (Nat.digitChar (code / 16)) (code / 16) := ⟨by omega, .inl rfl⟩
  have lower : IsHexDigit (Nat.digitChar (code % 16)) (code % 16) := ⟨by omega, .inl rfl⟩
  have written := IsCode.ofDigits zero zero higher lower
  rwa [show ((0 * 16 + 0) * 16 + code / 16) * 16 + code % 16 = code by omega] at written

/-- Every character is printed in one of the ways in which it may be written. -/
theorem isLiteral_textChar
    (character : Char)
    {literal text : List Char}
    (rest : IsLiteral literal text) :
    IsLiteral (textChar character ++ literal) (character :: text) := by
  rw [textChar.eq_def]
  split
  -- The characters that have a letter behind a backslash.
  iterate 7 next => exact .named (by decide) rest
  next noQuote noBackslash _ _ _ _ _ =>
    split
    next control => exact .coded (isCode_controlDigits control) rest
    next visible => exact .plain (Nat.le_of_not_lt visible) noQuote noBackslash rest

theorem isLiteral_flatMap_textChar (content : List Char) :
    IsLiteral (content.flatMap textChar) content := by
  induction content with
  | nil => exact .nil
  | cons character rest induction => exact isLiteral_textChar character induction

theorem isToken_text (content : List Char) :
    IsToken (text content) (.text (String.ofList content)) :=
  isToken_of_isLiteral (isLiteral_flatMap_textChar content)

/-! ### Scalars -/

theorem isToken_null : IsToken "null".toList .null where
  starts := ⟨'n', "ull".toList, rfl, by decide, by decide⟩
  reads _ _ _ := rfl

theorem isToken_true : IsToken "true".toList (.flag true) where
  starts := ⟨'t', "rue".toList, rfl, by decide, by decide⟩
  reads _ _ _ := rfl

theorem isToken_false : IsToken "false".toList (.flag false) where
  starts := ⟨'f', "alse".toList, rfl, by decide, by decide⟩
  reads _ _ _ := rfl

theorem exists_isToken_of_isReal
    {text : List Char}
    {numeral : Json.Numeral}
    (real : IsReal text numeral) :
    IsToken text numeral.toDocument := by
  rcases real.exists_eq_cons with ⟨first, rest, split, begins⟩
  subst split
  apply isToken_of_number begins
  intro after ends
  exact readNumeral_of_isReal real ends

theorem exists_isToken_scalar (document : Document) :
    ∃ again, IsToken (scalar document) again := by
  cases document with
  | flag value =>
    cases value with
    | true => exact ⟨_, isToken_true⟩
    | false => exact ⟨_, isToken_false⟩
  | whole value =>
    rcases exists_isToken_signed value with ⟨numeral, token, _⟩
    exact ⟨_, token⟩
  | real value =>
    rw [scalar]
    cases printed : value.scientific? with
    | none => exact ⟨_, isToken_null⟩
    | some text =>
      rcases isReal_scientific? printed with ⟨numeral, real⟩
      exact ⟨_, exists_isToken_of_isReal real⟩
  | text content => exact ⟨_, isToken_text content.toList⟩
  | null | list | record | unreadable => exact ⟨_, isToken_null⟩

theorem endsNumber_nil : EndsNumber [] := by
  rintro character ⟨⟩

/-- The document that the text of a scalar is read as. -/
def rereadScalar (document : Document) : Document :=
  (read? (scalar document)).getD .null

theorem IsToken.read?
    {text : List Char}
    {document : Document}
    (token : IsToken text document) :
    Json.read? text = some document := by
  have reads := token.reads text.length endsNumber_nil
  have solid := token.skipSpace_append []
  rw [List.append_nil] at reads solid
  rw [Json.read?, solid, reads]
  rfl

theorem rereadScalar_of_isToken
    {document again : Document}
    (token : IsToken (scalar document) again) :
    rereadScalar document = again := by
  rw [rereadScalar, token.read?]
  rfl

theorem isToken_scalar (document : Document) :
    IsToken (scalar document) (rereadScalar document) := by
  rcases exists_isToken_scalar document with ⟨again, token⟩
  rw [rereadScalar_of_isToken token]
  exact token

/-! ### Documents -/

mutual

/-- The document that is read where a document was printed. -/
def reread : Document → Document
  | .list items => .list (rereadItems items)
  | .record fields => .record (rereadFields fields)
  | other => rereadScalar other

def rereadItems : List Document → List Document
  | [] => []
  | item :: rest => reread item :: rereadItems rest

def rereadFields : List (String × Document) → List (String × Document)
  | [] => []
  | (name, field) :: rest => (name, reread field) :: rereadFields rest

end

theorem skipSpace_lineBreak (indent : Nat) (text : List Char) :
    skipSpace (lineBreak indent ++ text) = skipSpace text := by
  have space : (lineBreak indent).all isSpace = true := by
    simp [lineBreak, isSpace]
  rw [skipSpace, List.dropWhile_append_of_pos (List.all_eq_true.mp space), skipSpace]

theorem endsNumber_lineBreak (indent : Nat) (rest : List Char) :
    EndsNumber (lineBreak indent ++ rest) := by
  rintro character ⟨⟩
  decide

theorem endsNumber_comma (rest : List Char) : EndsNumber (',' :: rest) := by
  rintro character ⟨⟩
  decide

/-- The text of a document starts neither with a space nor with a closing bracket. -/
theorem exists_prettyFrom_eq_cons (indent : Nat) (document : Document) :
    ∃ first rest, prettyFrom indent document = first :: rest ∧ isSpace first = false ∧
      first ≠ ']' := by
  have scalar := (isToken_scalar document).starts
  cases document with
  | list items =>
    cases items with
    | nil => exact ⟨'[', _, by rw [prettyFrom], by decide, by decide⟩
    | cons => exact ⟨'[', _, by rw [prettyFrom]; rfl, by decide, by decide⟩
  | record fields =>
    cases fields with
    | nil => exact ⟨'{', _, by rw [prettyFrom], by decide, by decide⟩
    | cons => exact ⟨'{', _, by rw [prettyFrom]; rfl, by decide, by decide⟩
  | _ => exact scalar

theorem recordOf_named (fields : List (String × Document)) :
    recordOf (fields.map fun field => (some field.1, field.2)) = .record fields := by
  have named : (fields.map fun field => (some field.1, field.2)).mapM
      (fun field => field.1.map fun name => (name, field.2)) = some fields := by
    induction fields with
    | nil => rfl
    | cons field rest induction =>
      rw [List.map_cons, List.mapM_cons, induction]
      rfl
  rw [recordOf]
  split
  next again same => rw [Option.some.inj (same.symm.trans named)]
  next same => cases same.symm.trans named

/-- Whether a reader reads a printed document as the document that is expected for it. -/
def Rereads (value : ValueReader) (document : Document) : Prop :=
  ∀ indent {rest}, EndsNumber rest →
    value (prettyFrom indent document ++ rest) = some (reread document, rest)

theorem skipSpace_prettyFrom (indent : Nat) (document : Document) (rest : List Char) :
    skipSpace (prettyFrom indent document ++ rest) = prettyFrom indent document ++ rest := by
  rcases exists_prettyFrom_eq_cons indent document with ⟨first, others, split, solid, _⟩
  rw [split, List.cons_append, skipSpace_cons solid]

theorem readItems_prettyItems
    {value : ValueReader}
    {items : List Document}
    (each : ∀ item ∈ items, Rereads value item)
    (nonempty : items ≠ [])
    (indent outer : Nat)
    {fuel : Nat}
    (enough : items.length ≤ fuel)
    (after : List Char) :
    readItems value fuel (prettyItems indent items ++ (lineBreak outer ++ ']' :: after)) =
      some (rereadItems items, after) := by
  induction items generalizing fuel with
  | nil => exact (nonempty rfl).elim
  | cons item rest induction =>
    rcases List.forall_mem_cons.mp each with ⟨first, others⟩
    cases fuel with
    | zero => simp at enough
    | succ fuel =>
      cases rest with
      | nil =>
        rw [prettyItems, List.append_assoc, readItems, skipSpace_lineBreak, skipSpace_prettyFrom,
          first indent (endsNumber_lineBreak _ _)]
        simp only [skipSpace_lineBreak, skipSpace_cons (show isSpace ']' = false by decide)]
        rfl
      | cons next rest =>
        rw [prettyItems, List.append_assoc, List.append_assoc, List.cons_append, readItems,
          skipSpace_lineBreak, skipSpace_prettyFrom, first indent (endsNumber_comma _)]
        simp only [skipSpace_cons (show isSpace ',' = false by decide),
          induction others (List.cons_ne_nil next rest) (Nat.le_of_succ_le_succ enough),
          Option.map_some]
        rfl

theorem readField_printed
    {value : ValueReader}
    {document : Document}
    (reads : Rereads value document)
    (indent : Nat)
    (name : String)
    {rest : List Char}
    (ends : EndsNumber rest) :
    readField value (text name.toList ++ ':' :: ' ' :: (prettyFrom indent document ++ rest)) =
      some ((some name, reread document), rest) := by
  have readsName := readText_of_isLiteral (isLiteral_flatMap_textChar name.toList)
    (':' :: ' ' :: (prettyFrom indent document ++ rest))
  rw [String.ofList_toList] at readsName
  rw [text, List.cons_append, List.cons_append, List.append_assoc, List.singleton_append,
    readField, readsName]
  simp only [skipSpace_cons (show isSpace ':' = false by decide)]
  rw [show skipSpace (' ' :: (prettyFrom indent document ++ rest)) =
    prettyFrom indent document ++ rest from skipSpace_prettyFrom indent document rest,
    reads indent ends]
  rfl

theorem skipSpace_text (content rest : List Char) :
    skipSpace (text content ++ rest) = text content ++ rest :=
  skipSpace_cons (by decide) _

theorem readFields_prettyFields
    {value : ValueReader}
    {fields : List (String × Document)}
    (each : ∀ field ∈ fields, Rereads value field.2)
    (nonempty : fields ≠ [])
    (indent outer : Nat)
    {fuel : Nat}
    (enough : fields.length ≤ fuel)
    (after : List Char) :
    readFields value fuel (prettyFields indent fields ++ (lineBreak outer ++ '}' :: after)) =
      some ((rereadFields fields).map fun field => (some field.1, field.2), after) := by
  induction fields generalizing fuel with
  | nil => exact (nonempty rfl).elim
  | cons field rest induction =>
    rcases field with ⟨name, document⟩
    rcases List.forall_mem_cons.mp each with ⟨first, others⟩
    cases fuel with
    | zero => simp at enough
    | succ fuel =>
      cases rest with
      | nil =>
        have reads := readField_printed first indent name
          (endsNumber_lineBreak outer ('}' :: after))
        rw [prettyFields, readFields]
        simp only [List.append_assoc, List.cons_append, skipSpace_lineBreak, skipSpace_text, reads,
          skipSpace_cons (show isSpace '}' = false by decide)]
        rfl
      | cons next rest =>
        have reads := readField_printed first indent name
          (endsNumber_comma (prettyFields indent (next :: rest) ++
            (lineBreak outer ++ '}' :: after)))
        rw [prettyFields, readFields]
        simp only [List.append_assoc, List.cons_append, skipSpace_lineBreak, skipSpace_text, reads,
          skipSpace_cons (show isSpace ',' = false by decide),
          induction others (List.cons_ne_nil next rest) (Nat.le_of_succ_le_succ enough),
          Option.map_some]
        rfl

theorem length_le_length_prettyItems (indent : Nat) (items : List Document) :
    items.length ≤ (prettyItems indent items).length := by
  induction items with
  | nil => exact Nat.zero_le _
  | cons item rest induction =>
    cases rest with
    | nil =>
      simp only [prettyItems, lineBreak, List.length_append, List.length_cons, List.length_nil]
      omega
    | cons next rest =>
      simp only [prettyItems, lineBreak, List.length_append, List.length_cons] at induction ⊢
      omega

theorem length_le_length_prettyFields (indent : Nat) (fields : List (String × Document)) :
    fields.length ≤ (prettyFields indent fields).length := by
  induction fields with
  | nil => exact Nat.zero_le _
  | cons field rest induction =>
    rcases field with ⟨name, document⟩
    cases rest with
    | nil =>
      simp only [prettyFields, lineBreak, List.length_append, List.length_cons, List.length_nil]
      omega
    | cons next rest =>
      simp only [prettyFields, lineBreak, List.length_append, List.length_cons] at induction ⊢
      omega

/-- The items of a printed list begin with one that is not its end. -/
theorem skipSpace_prettyItems_ne
    {items : List Document}
    (nonempty : items ≠ [])
    (indent : Nat)
    (rest behind : List Char) :
    skipSpace (prettyItems indent items ++ rest) ≠ ']' :: behind := by
  cases items with
  | nil => exact (nonempty rfl).elim
  | cons item others =>
    rcases exists_prettyFrom_eq_cons indent item with ⟨first, more, split, solid, other⟩
    cases others <;>
      simp only [prettyItems, List.append_assoc, skipSpace_lineBreak, split, List.cons_append,
        skipSpace_cons solid] <;>
      exact fun same => other (List.cons.inj same).1

theorem skipSpace_prettyFields_ne
    {fields : List (String × Document)}
    (nonempty : fields ≠ [])
    (indent : Nat)
    (rest behind : List Char) :
    skipSpace (prettyFields indent fields ++ rest) ≠ '}' :: behind := by
  cases fields with
  | nil => exact (nonempty rfl).elim
  | cons field others =>
    rcases field with ⟨name, document⟩
    cases others <;>
      simp only [prettyFields, List.append_assoc, skipSpace_lineBreak, skipSpace_text] <;>
      exact nofun

theorem rereads_list
    {nesting : Nat}
    {items : List Document}
    (each : ∀ item ∈ items, Rereads (readValue nesting) item) :
    Rereads (readValue (nesting + 1)) (.list items) := by
  intro indent rest _
  cases items with
  | nil =>
    rw [prettyFrom]
    rfl
  | cons item others =>
    have nonempty := List.cons_ne_nil item others
    have enough := length_le_length_prettyItems (indent + 1) (item :: others)
    have layout : prettyFrom indent (.list (item :: others)) ++ rest =
        '[' :: (prettyItems (indent + 1) (item :: others) ++
          (lineBreak indent ++ ']' :: rest)) := by
      simp [prettyFrom]
    rw [layout, readValue_list (skipSpace_prettyItems_ne nonempty _ _),
      readItems_prettyItems each nonempty _ _ (by rw [List.length_append]; omega)]
    rfl

theorem rereads_record
    {nesting : Nat}
    {fields : List (String × Document)}
    (each : ∀ field ∈ fields, Rereads (readValue nesting) field.2) :
    Rereads (readValue (nesting + 1)) (.record fields) := by
  intro indent rest _
  cases fields with
  | nil =>
    rw [prettyFrom]
    rfl
  | cons field others =>
    have nonempty := List.cons_ne_nil field others
    have enough := length_le_length_prettyFields (indent + 1) (field :: others)
    have layout : prettyFrom indent (.record (field :: others)) ++ rest =
        '{' :: (prettyFields (indent + 1) (field :: others) ++
          (lineBreak indent ++ '}' :: rest)) := by
      simp [prettyFrom]
    rw [layout, readValue_record (skipSpace_prettyFields_ne nonempty _ _),
      readFields_prettyFields each nonempty _ _ (by rw [List.length_append]; omega)]
    exact congrArg (fun document => some (document, rest)) (recordOf_named _)

theorem rereads_scalar
    (nesting : Nat)
    {document : Document}
    (prints : ∀ indent, prettyFrom indent document = scalar document)
    (rereads : reread document = rereadScalar document) :
    Rereads (readValue (nesting + 1)) document := by
  intro indent rest ends
  rw [prints, rereads]
  exact (isToken_scalar document).reads nesting ends

mutual

/-- What was printed is read where the nesting is deep enough. -/
theorem rereads_readValue :
    ∀ (document : Document) {nesting : Nat}, document.depth < nesting →
      Rereads (readValue nesting) document
  | .list items, _ + 1, deep =>
    rereads_list (rereads_items items (Nat.lt_of_succ_lt_succ deep))
  | .record fields, _ + 1, deep =>
    rereads_record (rereads_fields fields (Nat.lt_of_succ_lt_succ deep))
  | .null, nesting + 1, _ => rereads_scalar nesting (fun _ => rfl) rfl
  | .flag _, nesting + 1, _ => rereads_scalar nesting (fun _ => rfl) rfl
  | .whole _, nesting + 1, _ => rereads_scalar nesting (fun _ => rfl) rfl
  | .real _, nesting + 1, _ => rereads_scalar nesting (fun _ => rfl) rfl
  | .text _, nesting + 1, _ => rereads_scalar nesting (fun _ => rfl) rfl
  | .unreadable, nesting + 1, _ => rereads_scalar nesting (fun _ => rfl) rfl

theorem rereads_items :
    ∀ (items : List Document) {nesting : Nat}, Document.depthOfItems items < nesting →
      ∀ item ∈ items, Rereads (readValue nesting) item
  | [], _, _ => nofun
  | item :: rest, _, deep => List.forall_mem_cons.mpr
      ⟨rereads_readValue item (Nat.lt_of_le_of_lt (Nat.le_max_left _ _) deep),
        rereads_items rest (Nat.lt_of_le_of_lt (Nat.le_max_right _ _) deep)⟩

theorem rereads_fields :
    ∀ (fields : List (String × Document)) {nesting : Nat}, Document.depthOfFields fields < nesting →
      ∀ field ∈ fields, Rereads (readValue nesting) field.2
  | [], _, _ => nofun
  | (_, document) :: rest, _, deep => List.forall_mem_cons.mpr
      ⟨rereads_readValue document (Nat.lt_of_le_of_lt (Nat.le_max_left _ _) deep),
        rereads_fields rest (Nat.lt_of_le_of_lt (Nat.le_max_right _ _) deep)⟩

end

mutual

/-- Every level of a document is printed with a bracket of its own. -/
theorem depth_le_length_prettyFrom :
    ∀ (document : Document) (indent : Nat), document.depth ≤ (prettyFrom indent document).length
  | .list [], indent => by simp [Document.depth, Document.depthOfItems, prettyFrom]
  | .list (item :: rest), indent => by
    have inner := depthOfItems_le_length_prettyItems (item :: rest) (indent + 1)
    simp only [Document.depth, prettyFrom, List.length_append, List.length_cons]
    omega
  | .record [], indent => by simp [Document.depth, Document.depthOfFields, prettyFrom]
  | .record (field :: rest), indent => by
    have inner := depthOfFields_le_length_prettyFields (field :: rest) (indent + 1)
    simp only [Document.depth, prettyFrom, List.length_append, List.length_cons]
    omega
  | .null, _ | .flag _, _ | .whole _, _ | .real _, _ | .text _, _ | .unreadable, _ =>
    Nat.zero_le _

theorem depthOfItems_le_length_prettyItems :
    ∀ (items : List Document) (indent : Nat),
      Document.depthOfItems items ≤ (prettyItems indent items).length
  | [], _ => Nat.zero_le _
  | [item], indent => by
    have first := depth_le_length_prettyFrom item indent
    simp only [Document.depthOfItems, prettyItems, List.length_append]
    omega
  | item :: next :: rest, indent => by
    have first := depth_le_length_prettyFrom item indent
    have others := depthOfItems_le_length_prettyItems (next :: rest) indent
    rw [Document.depthOfItems, prettyItems, List.length_append, List.length_append,
      List.length_cons]
    omega

theorem depthOfFields_le_length_prettyFields :
    ∀ (fields : List (String × Document)) (indent : Nat),
      Document.depthOfFields fields ≤ (prettyFields indent fields).length
  | [], _ => Nat.zero_le _
  | [(_, document)], indent => by
    have first := depth_le_length_prettyFrom document indent
    simp only [Document.depthOfFields, prettyFields, List.length_append, List.length_cons]
    omega
  | (_, document) :: next :: rest, indent => by
    have first := depth_le_length_prettyFrom document indent
    have others := depthOfFields_le_length_prettyFields (next :: rest) indent
    rw [Document.depthOfFields, prettyFields, List.length_append, List.length_append,
      List.length_append, List.length_cons, List.length_cons, List.length_cons]
    omega

end

/-- What is printed over several lines is read part by part. -/
theorem read?_pretty (document : Document) : read? (pretty document) = some (reread document) := by
  have deep := depth_le_length_prettyFrom document 0
  have solid := skipSpace_prettyFrom 0 document []
  have reads := rereads_readValue document (Nat.lt_succ_of_le deep) 0 endsNumber_nil
  rw [List.append_nil] at solid reads
  rw [read?, pretty, solid, reads]
  rfl

/-! ### Scalars that are kept -/

theorem reread_flag (value : Bool) : reread (.flag value) = .flag value := by
  cases value with
  | true => exact rereadScalar_of_isToken isToken_true
  | false => exact rereadScalar_of_isToken isToken_false

theorem reread_text (content : String) : reread (.text content) = .text content := by
  have token := isToken_text content.toList
  rw [String.ofList_toList] at token
  exact rereadScalar_of_isToken token

theorem reread_whole
    {value : Int}
    (least : -0x8000000000000000 ≤ value)
    (small : value < Word.count64) :
    reread (.whole value) = .whole value := by
  rcases exists_isToken_signed value with ⟨numeral, token, kept⟩
  rw [kept least small] at token
  exact rereadScalar_of_isToken token

/-- The number that is read where a number was printed, if one is. -/
def rereadReal? (number : Binary64) : Option Binary64 :=
  (reread (.real number)).real?

/-- What is not finite is read as null. -/
theorem rereadReal?_of_isFinite_eq_false
    {number : Binary64}
    (infinite : number.isFinite = false) :
    rereadReal? number = none := by
  have unwritten : number.scientific? = none := by
    rw [Binary64.scientific?]
    split
    next negative units view =>
      rw [number.isFinite_iff.mpr ⟨negative, units, view⟩] at infinite
      cases infinite
    next => rfl
  have token : IsToken (scalar (.real number)) .null := by
    rw [scalar, unwritten]
    exact isToken_null
  have same : reread (.real number) = .null := rereadScalar_of_isToken token
  rw [rereadReal?, same]
  rfl

end RoverLink.Json
