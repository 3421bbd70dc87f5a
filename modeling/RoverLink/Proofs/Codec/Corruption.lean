import RoverLink.Proofs.Checksum.Detection
import RoverLink.Proofs.Codec.Verdict

/-!
# Replies with one damaged character

A reply with a check is taken for what the device sent although one of its
characters was changed on the way.  Where the character stands decides what
happens.  Before the list, in it, or as one of its brackets, the change is
covered by the check, as long as the line still has one.  Behind the list it
changes neither status nor values.

A new bracket can move the end of the list.  The text behind that end is then
no metadata, and a line without metadata is accepted without a check.  This is
the one way in which a damaged reply gives other values (`accepts_damaged`).
-/

namespace RoverLink.Codec

open Reply (Layout readMetadata)

/-- The check tells a line from one with another character in one place before the metadata. -/
theorem eq_of_verify?
    {codec : Codec}
    (checking : codec.mode = .crc8)
    {before between tail : List Char}
    {old new : Char}
    (oldAscii : old.toNat < 128)
    (newAscii : new.toNat < 128)
    {reply other : Reply}
    {crc : UInt8}
    (carried : (readMetadata tail).2 = some crc)
    (carries : reply.crc = some crc)
    (otherCarries : other.crc = some crc)
    (verified : codec.verify? (before ++ old :: (between ++ tail)) reply = some true)
    (otherVerified : codec.verify? (before ++ new :: (between ++ tail)) other = some true) :
    old = new := by
  rcases verify?_append_tail checking carried with ⟨front, check⟩
  have checked : ∀ (character : Char) (reply : Reply), character.toNat < 128 →
      reply.crc = some crc →
      codec.verify? (before ++ character :: (between ++ tail)) reply = some true →
      Checksum.crc8 (Text.Utf8.encode before ++
        character.val.toUInt8 :: Text.Utf8.encode (between ++ front)) = crc := by
    intro character reply ascii carries verified
    have covers := check (before ++ character :: between) reply carries
    simp only [List.append_assoc, List.cons_append] at covers
    rw [verified] at covers
    simpa [Text.Utf8.utf8EncodeChar_of_lt ascii] using covers
  have same := (checked old reply oldAscii carries verified).trans
    (checked new other newAscii otherCarries otherVerified).symm
  exact Text.Utf8.eq_of_toUInt8_eq oldAscii newAscii (Checksum.eq_of_crc8_eq same)

/-! ### One damaged character -/

/-- A bracket in the place of another character that makes the list of a line end sooner. -/
inductive CutsShort : List Char → Char → List Char → Prop where
  /-- A closing bracket stands in the list. -/
  | closing {lead inner others tail : List Char}
      (opens : '[' ∉ lead)
      (closes : ']' ∉ inner ++ others) :
      CutsShort ('#' :: (lead ++ '[' :: inner)) ']' (others ++ ']' :: tail)
  /-- An opening bracket stands before the list, with a closing bracket between the two. -/
  | opening {lead inner others tail : List Char}
      (opens : '[' ∉ lead ++ inner ++ others)
      (closes : ']' ∉ inner) :
      CutsShort ('#' :: lead) '[' (inner ++ ']' :: (others ++ '[' :: tail))

/-- What a line is like after one of its characters was changed. -/
inductive Damage
    (layout : Layout)
    (before : List Char)
    (new : Char)
    (after : List Char) : Prop where
  /-- The line has the same list as before. -/
  | outside (damaged : Layout)
      (line : before ++ new :: after = damaged.text)
      (list : damaged.list = layout.list)
  /-- The line has another list, and the tail from before behind it. -/
  | covered (damaged : Layout) (between : List Char)
      (line : before ++ new :: after = damaged.text)
      (behind : after = between ++ layout.tail)
      (tail : damaged.tail = layout.tail)
  /-- The list ends sooner, and a bracket is left behind it. -/
  | cut (damaged : Layout)
      (line : before ++ new :: after = damaged.text)
      (short : CutsShort before new after)
      (bracket : '[' ∈ damaged.tail ∨ ']' ∈ damaged.tail)

theorem damage_lead
    (layout : Layout)
    {front back : List Char}
    {old : Char}
    (split : layout.lead = front ++ old :: back)
    (new : Char) :
    Damage layout ('#' :: front) new (back ++ '[' :: (layout.inner ++ ']' :: layout.tail)) := by
  have opens : '[' ∉ front ∧ '[' ∉ back := by
    have opens := layout.opens
    simp only [split, List.mem_append, List.mem_cons, not_or] at opens
    exact ⟨opens.1, opens.2.2⟩
  by_cases bracket : new = '['
  · subst bracket
    by_cases closed : ']' ∈ back
    · rcases List.eq_append_cons_of_mem closed with ⟨inner, others, rfl, closes⟩
      have bare : '[' ∉ front ++ inner ++ others := by
        simp_all
      refine .cut ⟨front, inner, others ++ '[' :: (layout.inner ++ ']' :: layout.tail),
        opens.1, closes⟩ ?_ ?_ (Or.inl (by simp))
      · simp [Layout.text]
      · have short : CutsShort ('#' :: front) '['
            (inner ++ ']' :: (others ++ '[' :: (layout.inner ++ ']' :: layout.tail))) :=
          .opening bare closes
        simpa using short
    · refine .covered ⟨front, back ++ '[' :: layout.inner, layout.tail, opens.1, ?_⟩
        (back ++ '[' :: (layout.inner ++ [']'])) ?_ ?_ rfl
      · simp [closed, layout.closes]
      · simp [Layout.text]
      · simp
  · refine .outside ⟨front ++ new :: back, layout.inner, layout.tail, ?_, layout.closes⟩ ?_ rfl
    · simp [opens, Ne.symm bracket]
    · simp [Layout.text]

theorem damage_inner
    (layout : Layout)
    {front back : List Char}
    {old : Char}
    (split : layout.inner = front ++ old :: back)
    (new : Char) :
    Damage layout ('#' :: (layout.lead ++ '[' :: front)) new (back ++ ']' :: layout.tail) := by
  have closes : ']' ∉ front ∧ ']' ∉ back := by
    have closes := layout.closes
    simp only [split, List.mem_append, List.mem_cons, not_or] at closes
    exact ⟨closes.1, closes.2.2⟩
  by_cases bracket : new = ']'
  · subst bracket
    refine .cut ⟨layout.lead, front, back ++ ']' :: layout.tail, layout.opens, closes.1⟩ ?_
      (.closing layout.opens (by simp [closes])) (Or.inr (by simp))
    simp [Layout.text]
  · refine .covered ⟨layout.lead, front ++ new :: back, layout.tail, layout.opens, ?_⟩
      (back ++ [']']) ?_ ?_ rfl
    · simp [closes, Ne.symm bracket]
    · simp [Layout.text]
    · simp

theorem damage_opening
    (layout other : Layout)
    {new : Char}
    (changed : '[' ≠ new)
    (bare : '[' ∉ layout.tail)
    (laidOut : '#' :: (layout.lead ++ new :: (layout.inner ++ ']' :: layout.tail)) = other.text) :
    Damage layout ('#' :: layout.lead) new (layout.inner ++ ']' :: layout.tail) := by
  have bracket : '[' ∈ other.text := by simp [Layout.text]
  rw [← laidOut] at bracket
  have opened : '[' ∈ layout.inner := by
    simpa [layout.opens, changed, bare] using bracket
  rcases List.eq_append_cons_of_mem opened with ⟨front, back, split, opens⟩
  have closes : ']' ∉ back := by
    intro closing
    exact layout.closes (by simp [split, closing])
  refine .covered ⟨layout.lead ++ new :: front, back, layout.tail, ?_, closes⟩
    (layout.inner ++ [']']) ?_ ?_ rfl
  · simp [layout.opens, changed, opens]
  · simp [Layout.text, split]
  · simp

/-- Without the bracket that closes the list, the line is not laid out. -/
theorem ne_text_of_unclosed
    (layout other : Layout)
    {new : Char}
    (changed : ']' ≠ new)
    (bare : ']' ∉ layout.tail) :
    '#' :: (layout.lead ++ '[' :: (layout.inner ++ new :: layout.tail)) ≠ other.text := by
  intro laidOut
  injection laidOut with _ rest
  have opened := congrArg (List.dropWhile (· != '[')) rest
  rw [Text.dropWhile_ne_append layout.opens, Text.dropWhile_ne_append other.opens] at opened
  injection opened with _ rest
  have closing : ']' ∈ layout.inner ++ new :: layout.tail := by simp [rest]
  simp [layout.closes, changed, bare] at closing

/-- Every change of one character does one of three things to a line that stays laid out. -/
theorem damage_of_place
    {layout : Layout}
    {before after : List Char}
    {old new : Char}
    (place : layout.Place before old after)
    (changed : old ≠ new)
    (bare : '[' ∉ layout.tail ∧ ']' ∉ layout.tail)
    {other : Layout}
    (laidOut : before ++ new :: after = other.text) :
    Damage layout before new after := by
  cases place with
  | marker =>
    injection laidOut with same
    exact absurd same.symm changed
  | lead split => exact damage_lead layout split new
  | opening => exact damage_opening layout other changed bare.1 laidOut
  | inner split => exact damage_inner layout split new
  | closing =>
    refine absurd ?_ (ne_text_of_unclosed layout other changed bare.2)
    simpa using laidOut
  | @tail front _ _ split =>
    refine .outside ⟨layout.lead, layout.inner, front ++ new :: after, layout.opens,
      layout.closes⟩ ?_ rfl
    simp [Layout.text]

/--
A line that is accepted after one of its characters was changed gives the same
status and values, unless the change makes the list end sooner and so leaves
the reply without number and check.
-/
theorem accepts_damaged
    {codec : Codec}
    (checking : codec.mode = .crc8)
    {before after : List Char}
    {old new : Char}
    (oldAscii : old.toNat < 128)
    (newAscii : new.toNat < 128)
    (changed : old ≠ new)
    {reply other : Reply}
    (accepted : codec.Accepts (before ++ old :: after) reply)
    (carries : reply.crc.isSome = true)
    (otherAccepted : codec.Accepts (before ++ new :: after) other) :
    (other.status = reply.status ∧ other.values = reply.values) ∨
      (CutsShort before new after ∧ other.id = none ∧ other.crc = none) := by
  rcases accepted with ⟨decoded, verified, _⟩
  rcases otherAccepted with ⟨otherDecoded, otherVerified, _⟩
  rcases Option.isSome_iff_exists.mp carries with ⟨crc, carries⟩
  rcases Reply.exists_layout_of_read_eq_ok decoded with ⟨layout, line⟩
  rcases Reply.exists_layout_of_read_eq_ok otherDecoded with ⟨_, laidOut⟩
  have place := layout.place line.symm
  rw [line] at decoded
  have metadata := Reply.metadata_of_read_text decoded
  have bare : '[' ∉ layout.tail ∧ ']' ∉ layout.tail := by
    constructor <;> intro bracket
    · simp [Reply.readMetadata_of_bracket (Or.inl bracket), carries] at metadata
    · simp [Reply.readMetadata_of_bracket (Or.inr bracket), carries] at metadata
  cases damage_of_place place changed bare laidOut with
  | outside damaged line list =>
    rw [line] at otherDecoded
    exact Or.inl (Reply.eq_of_read_text list decoded otherDecoded)
  | covered damaged between line behind tail =>
    -- Both lines carry the same check, and it tells them apart.
    subst behind
    rw [line] at otherDecoded
    have otherMetadata := Reply.metadata_of_read_text otherDecoded
    rw [tail, metadata] at otherMetadata
    have otherCarries : other.crc = some crc := by
      rw [← carries]
      exact (Prod.ext_iff.mp otherMetadata).2.symm
    refine absurd ?_ changed
    exact eq_of_verify? checking oldAscii newAscii (by rw [metadata, carries]) carries
      otherCarries verified otherVerified
  | cut damaged line short bracket =>
    rw [line] at otherDecoded
    have otherMetadata := Reply.metadata_of_read_text otherDecoded
    rw [Reply.readMetadata_of_bracket bracket] at otherMetadata
    have missing := Prod.ext_iff.mp otherMetadata
    exact Or.inr ⟨short, missing.1.symm, missing.2.symm⟩

/-- A reply with its number and its check. -/
theorem accepts_checked :
    Accepts ⟨.crc8, 0⟩ (['#', '[', '1'] ++ '0' :: [']', ':', '0', '0', '9', '6'])
      ⟨10, [], some 0, some 0x96⟩ :=
  ⟨rfl, by decide +kernel, by decide +kernel⟩

/-- The same line with a bracket in the place of the last digit has another status and no check. -/
theorem accepts_cut_short :
    Accepts ⟨.crc8, 0⟩ (['#', '[', '1'] ++ ']' :: [']', ':', '0', '0', '9', '6'])
      ⟨1, [], none, none⟩ :=
  ⟨rfl, by decide +kernel, by decide +kernel⟩

theorem cutsShort_of_accepts_damaged :
    CutsShort ['#', '[', '1'] ']' [']', ':', '0', '0', '9', '6'] := by
  have outcome := accepts_damaged rfl (by decide) (by decide) (by decide)
    accepts_checked rfl accepts_cut_short
  rcases outcome with ⟨status, _⟩ | ⟨short, _⟩
  · exact absurd status (by decide)
  · exact short

/-- Without the exception, a damaged line that is accepted could give another status. -/
theorem exists_accepts_damaged_ne :
    ∃ (codec : Codec) (before after : List Char) (old new : Char) (reply other : Reply),
      codec.mode = .crc8 ∧ old.toNat < 128 ∧ new.toNat < 128 ∧ old ≠ new ∧
        codec.Accepts (before ++ old :: after) reply ∧ reply.crc.isSome = true ∧
        codec.Accepts (before ++ new :: after) other ∧
        ¬ (other.status = reply.status ∧ other.values = reply.values) := by
  refine ⟨⟨.crc8, 0⟩, _, _, '0', ']', _, _, rfl, by decide, by decide, by decide,
    accepts_checked, rfl, accepts_cut_short, ?_⟩
  rintro ⟨status, _⟩
  exact absurd status (by decide)

end RoverLink.Codec
