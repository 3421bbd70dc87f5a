import RoverLink.Proofs.Reply.Layout

/-!
# Lines that were cut off

A line can be cut off anywhere on its way.  What is left of a line that gives a
reply ends before its marker, before its list, in its list or behind it
(`Layout.Place`), and each of these is told from the others: only a line with
its whole list is read, and then its status and values are those of the list
(`reads_cut_off`).
-/

namespace RoverLink.Reply

/-- What can be read of a line that was cut off, if the whole line gives a reply. -/
inductive CutOff (reply : Reply) : Except DecodeError Reply → Prop where
  /-- Nothing is left of the line. -/
  | unmarked : CutOff reply (.error (.malformed .missingStartMarker))
  /-- The line ends before its list. -/
  | unopened : CutOff reply (.error (.malformed .missingBracket))
  /-- The line ends in its list. -/
  | unclosed : CutOff reply (.error .truncated)
  /-- The list is complete, and number and check may be missing. -/
  | complete {short : Reply}
      (status : short.status = reply.status)
      (values : short.values = reply.values) :
      CutOff reply (.ok short)

namespace Layout

/-- The layout of a line with another tail. -/
def withTail (layout : Layout) (tail : List Char) : Layout :=
  { layout with tail }

theorem text_withTail_append (layout : Layout) (more : List Char) :
    (layout.withTail (layout.tail ++ more)).text = layout.text ++ more := by
  simp [withTail, text]

/-- A line with another tail gives a reply with the same status and values. -/
theorem exists_read_withTail
    {layout : Layout}
    {reply : Reply}
    (decoded : read layout.text = .ok reply)
    (tail : List Char) :
    ∃ other, read (layout.withTail tail).text = .ok other ∧
      other.status = reply.status ∧ other.values = reply.values := by
  have parts := decoded
  rw [read_text] at parts
  rcases exists_ofParts_eq_ok parts tail with ⟨other, changed⟩
  have decodedOther : read (layout.withTail tail).text = .ok other := by
    rw [read_text]
    exact changed
  have sameList : (layout.withTail tail).list = layout.list := rfl
  exact ⟨other, decodedOther, eq_of_read_text sameList decoded decodedOther⟩

/-- What stands before some character of a line is read as a line that was cut off. -/
theorem cutOff_of_place
    {layout : Layout}
    {before after : List Char}
    {next : Char}
    (place : layout.Place before next after)
    {reply : Reply}
    (decoded : read layout.text = .ok reply) :
    CutOff reply (read before) := by
  cases place with
  | marker => exact .unmarked
  | @lead front back _ split =>
    have opens : '[' ∉ front := by
      intro bracket
      exact layout.opens (by simp [split, bracket])
    rw [read_of_unopened opens]
    exact .unopened
  | opening =>
    rw [read_of_unopened layout.opens]
    exact .unopened
  | @inner front back _ split =>
    have closes : ']' ∉ front := by
      intro bracket
      exact layout.closes (by simp [split, bracket])
    rw [read_of_unclosed layout.opens closes]
    exact .unclosed
  | closing =>
    rw [read_of_unclosed layout.opens layout.closes]
    exact .unclosed
  | @tail front _ _ _ =>
    rcases exists_read_withTail decoded front with ⟨short, read, status, values⟩
    rw [withTail, text] at read
    rw [read]
    exact .complete status values

end Layout

/--
A line that was cut off gives no other reply.  If what is left of it gives a
reply, the whole line gives the same status and values; and if the whole line
gives a reply, what is left gives the same status and values or is told to be
incomplete.
-/
theorem reads_cut_off
    {shorter longer : List Char}
    (cutOff : shorter <+: longer) :
    (∀ short, read shorter = .ok short →
      ∃ reply, read longer = .ok reply ∧
        reply.status = short.status ∧ reply.values = short.values) ∧
      ∀ reply, read longer = .ok reply → CutOff reply (read shorter) := by
  rcases cutOff with ⟨more, rfl⟩
  constructor
  · intro short decoded
    rcases exists_layout_of_read_eq_ok decoded with ⟨layout, rfl⟩
    rw [← layout.text_withTail_append]
    exact Layout.exists_read_withTail decoded _
  · intro reply decoded
    cases more with
    | nil =>
      rw [List.append_nil] at decoded
      rw [decoded]
      exact .complete rfl rfl
    | cons next after =>
      rcases exists_layout_of_read_eq_ok decoded with ⟨layout, line⟩
      rw [line] at decoded
      exact Layout.cutOff_of_place (layout.place line.symm) decoded

/-- Two digits of the metadata are lost, and with them the number and the check. -/
theorem reads_cut_off_in_metadata :
    read "#e[0,7]:00".toList = .ok ⟨0, [.number (Decimal.Binary64.ofInt 7)], none, none⟩ ∧
      read "#e[0,7]:004f\r".toList =
        .ok ⟨0, [.number (Decimal.Binary64.ofInt 7)], some 0x00, some 0x4f⟩ ∧
      CutOff ⟨0, [.number (Decimal.Binary64.ofInt 7)], some 0x00, some 0x4f⟩
        (read "#e[0,7]:00".toList) := by
  have whole : read "#e[0,7]:004f\r".toList =
      .ok ⟨0, [.number (Decimal.Binary64.ofInt 7)], some 0x00, some 0x4f⟩ := by
    decide +kernel
  have cutOff : "#e[0,7]:00".toList <+: "#e[0,7]:004f\r".toList := ⟨['4', 'f', '\r'], rfl⟩
  exact ⟨by decide +kernel, whole, (reads_cut_off cutOff).2 _ whole⟩

end RoverLink.Reply
