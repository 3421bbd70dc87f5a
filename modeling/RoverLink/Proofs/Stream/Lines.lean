import RoverLink.Proofs.Text.Utf8
import RoverLink.Stream.LineBuffer

/-!
# Lines in spite of chunks

`completeLines` and `unfinished` say of an octet sequence, without a buffer,
which lines are in it and what comes after them.  A line buffer gives just these
lines, however the octets reach it and whenever a line is asked for: what it has
given and what is still buffered always make up what it has taken in
(`isFaithful_run`).
-/

namespace RoverLink.LineBuffer

/-! ### The lines of an octet sequence -/

/-- The texts of the segments that a terminator ends, except for the empty segments. -/
def completeLines (octets : List UInt8) : List (List Char) :=
  ((octets.splitOnP isTerminator).dropLast.filter fun segment => !segment.isEmpty).map
    Text.Utf8.lossy

/-- The octets after the last terminator. -/
def unfinished (octets : List UInt8) : List UInt8 :=
  (octets.splitOnP isTerminator).getLast (List.splitOnP_ne_nil isTerminator octets)

/-- Octets none of which ends a line. -/
def IsPlain (octets : List UInt8) : Prop :=
  ∀ octet ∈ octets, isTerminator octet = false

/-- An octet sequence, cut at each of its terminators. -/
inductive IsCut : List UInt8 → Prop
  /-- Nothing ends a line. -/
  | unfinished (octets : List UInt8) :
      IsPlain octets → IsCut octets
  /-- A segment is ended, and the sequence goes on after its terminator. -/
  | ended (segment : List UInt8) (terminator : UInt8) (rest : List UInt8) :
      IsPlain segment →
      isTerminator terminator = true →
      IsCut rest →
      IsCut (segment ++ terminator :: rest)

theorem isCut (octets : List UInt8) : IsCut octets := by
  induction octets with
  | nil => exact .unfinished [] (by simp [IsPlain])
  | cons octet rest cut =>
    cases ends : isTerminator octet
    case true => exact .ended [] octet rest (by simp [IsPlain]) ends cut
    case false =>
      cases cut with
      | unfinished _ plain => exact .unfinished _ (by simpa [IsPlain, ends] using plain)
      | ended segment terminator rest plain terminates cut =>
        exact .ended (octet :: segment) terminator rest (by simpa [IsPlain, ends] using plain)
          terminates cut

section

variable {segment : List UInt8} (plain : IsPlain segment)

include plain

theorem completeLines_of_isPlain : completeLines segment = [] := by
  simp [completeLines, List.splitOnP_eq_singleton plain]

theorem unfinished_of_isPlain : unfinished segment = segment := by
  simp [unfinished, List.splitOnP_eq_singleton plain]

variable {terminator : UInt8} (ends : isTerminator terminator = true) (rest : List UInt8)

include ends

/-- A segment that is ended is the first line, unless it is empty. -/
theorem completeLines_ended :
    completeLines (segment ++ terminator :: rest) =
      (if segment = [] then [] else [Text.Utf8.lossy segment]) ++ completeLines rest := by
  rw [completeLines, List.splitOnP_append_cons_of_forall_mem plain terminator ends,
    List.dropLast_cons_of_ne_nil (List.splitOnP_ne_nil isTerminator rest)]
  cases segment <;> rfl

theorem unfinished_ended :
    unfinished (segment ++ terminator :: rest) = unfinished rest := by
  simp only [unfinished, List.splitOnP_append_cons_of_forall_mem plain terminator ends]
  exact List.getLast_cons (List.splitOnP_ne_nil isTerminator rest)

end

/-- Octets that follow can only complete what was unfinished. -/
theorem completeLines_append (octets more : List UInt8) :
    completeLines (octets ++ more) =
      completeLines octets ++ completeLines (unfinished octets ++ more) := by
  induction isCut octets with
  | unfinished octets plain =>
    rw [completeLines_of_isPlain plain, unfinished_of_isPlain plain, List.nil_append]
  | ended segment terminator rest plain ends _ induction =>
    rw [List.append_assoc, List.cons_append, completeLines_ended plain ends,
      completeLines_ended plain ends, unfinished_ended plain ends, induction, List.append_assoc]

theorem unfinished_append (octets more : List UInt8) :
    unfinished (octets ++ more) = unfinished (unfinished octets ++ more) := by
  induction isCut octets with
  | unfinished octets plain => rw [unfinished_of_isPlain plain]
  | ended segment terminator rest plain ends _ induction =>
    rw [List.append_assoc, List.cons_append, unfinished_ended plain ends,
      unfinished_ended plain ends, induction]

/-- No line is empty. -/
theorem ne_nil_of_mem_completeLines
    {octets : List UInt8}
    {line : List Char}
    (member : line ∈ completeLines octets) :
    line ≠ [] := by
  obtain ⟨segment, kept, rfl⟩ := List.mem_map.mp member
  exact Text.Utf8.lossy_ne_nil (by simpa using (List.mem_filter.mp kept).2)

/-! ### Taking lines out -/

/-- What is left of octets once lines have been taken out, the first ones first. -/
structure Leaves (octets : List UInt8) (lines : List (List Char)) (rest : List UInt8) : Prop where
  /-- The lines that were taken out are the first ones, and the others are left. -/
  lines : lines ++ completeLines rest = completeLines octets
  /-- The octets after the last terminator are left. -/
  unfinished : unfinished rest = unfinished octets

namespace Leaves

theorem refl (octets : List UInt8) : Leaves octets [] octets :=
  ⟨List.nil_append _, rfl⟩

variable {octets between rest : List UInt8} {lines later : List (List Char)}

theorem trans
    (first : Leaves octets lines between)
    (second : Leaves between later rest) :
    Leaves octets (lines ++ later) rest :=
  ⟨by rw [List.append_assoc, second.lines, first.lines], second.unfinished.trans first.unfinished⟩

/-- Octets that follow are left behind what is left. -/
theorem append
    (leaves : Leaves octets lines rest)
    (more : List UInt8) :
    Leaves (octets ++ more) lines (rest ++ more) where
  lines := by
    rw [completeLines_append rest, completeLines_append octets, leaves.unfinished, ← leaves.lines,
      List.append_assoc]
  unfinished := by
    rw [unfinished_append rest, unfinished_append octets, leaves.unfinished]

/-- Once nothing that is left ends a line, all lines have been taken out. -/
theorem eq_of_isPlain
    (leaves : Leaves octets lines rest)
    (plain : IsPlain rest) :
    lines = completeLines octets ∧ rest = LineBuffer.unfinished octets := by
  rw [← leaves.lines, ← leaves.unfinished, completeLines_of_isPlain plain,
    unfinished_of_isPlain plain, List.append_nil]
  exact ⟨rfl, rfl⟩

end Leaves

/-! ### Asking for a line -/

section

variable {segment : List UInt8} (plain : IsPlain segment) (rest : List UInt8)

include plain

theorem body_of_isPlain (present : segment ≠ []) :
    body ⟨segment ++ rest⟩ = segment ++ rest := by
  rcases segment with _ | ⟨octet, segment⟩
  · exact absurd rfl present
  · simp [body, plain octet (by simp)]

theorem dropWhile_of_isPlain :
    (segment ++ rest).dropWhile (fun octet => !isTerminator octet) =
      rest.dropWhile fun octet => !isTerminator octet :=
  List.dropWhile_append_of_pos fun octet member => by rw [plain octet member]; rfl

theorem takeWhile_of_isPlain :
    (segment ++ rest).takeWhile (fun octet => !isTerminator octet) =
      segment ++ rest.takeWhile fun octet => !isTerminator octet :=
  List.takeWhile_append_of_pos fun octet member => by rw [plain octet member]; rfl

end

theorem nextLine_of_isPlain
    {octets : List UInt8}
    (plain : IsPlain octets) :
    nextLine ⟨octets⟩ = (none, ⟨octets⟩) := by
  by_cases present : octets = []
  · subst present
    rfl
  · have body := body_of_isPlain plain [] present
    have rest := dropWhile_of_isPlain plain []
    rw [List.append_nil] at body rest
    rw [nextLine, body, rest]
    rfl

theorem nextLine_ended
    {segment : List UInt8}
    {terminator : UInt8}
    (plain : IsPlain segment)
    (ends : isTerminator terminator = true)
    (rest : List UInt8)
    (present : segment ≠ []) :
    nextLine ⟨segment ++ terminator :: rest⟩ = (some (Text.Utf8.lossy segment), ⟨rest⟩) := by
  rw [nextLine, body_of_isPlain plain _ present, dropWhile_of_isPlain plain,
    takeWhile_of_isPlain plain]
  simp [ends]

/-- A terminator before the first octet of a line is passed over. -/
theorem nextLine_terminator
    {terminator : UInt8}
    (ends : isTerminator terminator = true)
    (rest : List UInt8) :
    nextLine ⟨terminator :: rest⟩ = nextLine ⟨rest⟩ := by
  simp [nextLine, body, ends]

/-- Asking for a line takes the first one out, if there is one. -/
theorem leaves_nextLine (buffer : LineBuffer) :
    Leaves buffer.pending buffer.nextLine.1.toList buffer.nextLine.2.pending := by
  obtain ⟨octets⟩ := buffer
  induction isCut octets with
  | unfinished octets plain =>
    rw [nextLine_of_isPlain plain]
    exact .refl octets
  | ended segment terminator rest plain ends _ induction =>
    have lines := completeLines_ended plain ends rest
    have rests := unfinished_ended plain ends rest
    by_cases present : segment = []
    · subst present
      rw [List.nil_append, nextLine_terminator ends]
      exact ⟨induction.lines.trans lines.symm, induction.unfinished.trans rests.symm⟩
    · rw [nextLine_ended plain ends rest present]
      exact ⟨by simp [lines, present], rests.symm⟩

/-- When there is no line to take out, nothing that is left ends one. -/
theorem isPlain_nextLine
    (buffer : LineBuffer)
    (nothing : buffer.nextLine.1 = none) :
    IsPlain buffer.nextLine.2.pending := by
  obtain ⟨octets⟩ := buffer
  induction isCut octets with
  | unfinished octets plain =>
    rw [nextLine_of_isPlain plain]
    exact plain
  | ended segment terminator rest plain ends _ induction =>
    by_cases present : segment = []
    · subst present
      rw [List.nil_append, nextLine_terminator ends] at nothing ⊢
      exact induction nothing
    · rw [nextLine_ended plain ends rest present] at nothing
      nomatch nothing

/-- The lines that asking brings until there are no more, and the buffer without them. -/
def drain (buffer : LineBuffer) : List (List Char) × LineBuffer :=
  match found : buffer.nextLine.1 with
  | some line =>
    have _shorter := buffer.length_nextLine_lt line found
    let later := drain buffer.nextLine.2
    (line :: later.1, later.2)
  | none => ([], buffer.nextLine.2)
termination_by buffer.pending.length

theorem leaves_drain (buffer : LineBuffer) :
    Leaves buffer.pending buffer.drain.1 buffer.drain.2.pending ∧
      IsPlain buffer.drain.2.pending := by
  fun_induction drain buffer with
  | case1 buffer line found _ later induction =>
    have asked := buffer.leaves_nextLine
    rw [found] at asked
    exact ⟨asked.trans induction.1, induction.2⟩
  | case2 buffer nothing =>
    have asked := buffer.leaves_nextLine
    rw [nothing] at asked
    exact ⟨asked, buffer.isPlain_nextLine nothing⟩

/-- Asking until there are no more lines brings all of them, and leaves what is unfinished. -/
theorem drain_eq (buffer : LineBuffer) :
    buffer.drain = (completeLines buffer.pending, ⟨unfinished buffer.pending⟩) := by
  obtain ⟨leaves, plain⟩ := buffer.leaves_drain
  obtain ⟨lines, rest⟩ := leaves.eq_of_isPlain plain
  exact Prod.ext lines (congrArg LineBuffer.mk rest)

/-! ### Reading -/

theorem readFrom_of_some
    {buffer : LineBuffer}
    {line : List Char}
    (found : buffer.nextLine.1 = some line)
    (source : Except IoError (List UInt8)) :
    buffer.readFrom source = (.ok (some line), buffer.nextLine.2) := by
  rw [readFrom, show buffer.nextLine = (some line, buffer.nextLine.2) from Prod.ext found rfl]

theorem readFrom_of_none
    {buffer : LineBuffer}
    (nothing : buffer.nextLine.1 = none)
    (source : Except IoError (List UInt8)) :
    buffer.readFrom source = buffer.nextLine.2.absorb source := by
  rw [readFrom, show buffer.nextLine = (none, buffer.nextLine.2) from Prod.ext nothing rfl]

/-- The octets that a read of a source brings; a failure brings none. -/
def sourced : Except IoError (List UInt8) → List UInt8
  | .ok octets => octets
  | .error _ => []

/-- The line in an answer, if there is one. -/
def answered : Except IoError (Option (List Char)) → List (List Char)
  | .ok line => line.toList
  | .error _ => []

/-- The octets of a read are added, and at most the first line is taken out. -/
theorem leaves_absorb
    (buffer : LineBuffer)
    (source : Except IoError (List UInt8)) :
    Leaves (buffer.pending ++ sourced source) (answered (buffer.absorb source).1)
      (buffer.absorb source).2.pending := by
  fun_cases absorb buffer source with
  | case1 => simpa [sourced, answered] using Leaves.refl buffer.pending
  | case2 octet octets => exact leaves_nextLine (buffer.extend (octet :: octets))
  | case3 error timedOut => simpa [sourced, answered] using Leaves.refl buffer.pending
  | case4 error failed => simpa [sourced, answered] using Leaves.refl buffer.pending

/-! ### Calls in any order -/

/-- A call on a line buffer. -/
inductive Access where
  /-- Octets are handed over. -/
  | extend (octets : List UInt8)
  /-- A buffered line is asked for. -/
  | next
  /-- A line is asked for, with a source to read from if none is buffered. -/
  | read (source : Except IoError (List UInt8))

namespace Access

/-- What a call answers, and the buffer after it. -/
def answer (buffer : LineBuffer) : Access → Except IoError (Option (List Char)) × LineBuffer
  | extend octets => (.ok none, buffer.extend octets)
  | next => (.ok buffer.nextLine.1, buffer.nextLine.2)
  | read source => buffer.readFrom source

/-- The octets that a call brings into the buffer: a source is read only if no line is buffered. -/
def brought (buffer : LineBuffer) : Access → List UInt8
  | extend octets => octets
  | next => []
  | read source => if buffer.nextLine.1 = none then sourced source else []

theorem leaves_answer
    (buffer : LineBuffer)
    (access : Access) :
    Leaves (buffer.pending ++ access.brought buffer) (answered (access.answer buffer).1)
      (access.answer buffer).2.pending := by
  have asked := buffer.leaves_nextLine
  cases access with
  | extend octets => exact .refl _
  | next =>
    rw [brought, List.append_nil]
    exact asked
  | read source =>
    rw [answer, brought]
    cases found : buffer.nextLine.1 with
    | some line =>
      rw [found] at asked
      rw [readFrom_of_some found]
      simpa [answered] using asked
    | none =>
      rw [found] at asked
      rw [readFrom_of_none found, if_pos rfl]
      exact (asked.append (sourced source)).trans (buffer.nextLine.2.leaves_absorb source)

end Access

/-- A line buffer, with all that it has taken in and given out. -/
structure Course where
  buffer : LineBuffer
  /-- The octets that calls have brought, oldest first. -/
  received : List UInt8
  /-- The lines that calls have returned, oldest first. -/
  returned : List (List Char)

namespace Course

def start : Course :=
  ⟨.empty, [], []⟩

def step (course : Course) (access : Access) : Course :=
  ⟨(access.answer course.buffer).2, course.received ++ access.brought course.buffer,
    course.returned ++ answered (access.answer course.buffer).1⟩

def run (accesses : List Access) : Course :=
  accesses.foldl step start

/-- The lines returned so far, and those that asking would still bring. -/
def lines (course : Course) : List (List Char) :=
  course.returned ++ course.buffer.drain.1

/-- The octets that are left when all lines have been asked for. -/
def rest (course : Course) : List UInt8 :=
  course.buffer.drain.2.pending

/-- The buffer holds what the octets taken in leave once the lines returned are taken out. -/
def IsBalanced (course : Course) : Prop :=
  Leaves course.received course.returned course.buffer.pending

theorem isBalanced_step
    {course : Course}
    (balanced : course.IsBalanced)
    (access : Access) :
    (course.step access).IsBalanced :=
  (balanced.append _).trans (access.leaves_answer course.buffer)

theorem isBalanced_foldl
    {course : Course}
    (balanced : course.IsBalanced)
    (accesses : List Access) :
    (accesses.foldl step course).IsBalanced := by
  induction accesses generalizing course with
  | nil => exact balanced
  | cons access _ induction => exact induction (isBalanced_step balanced access)

theorem isBalanced_start : start.IsBalanced :=
  .refl []

theorem isBalanced_run (accesses : List Access) : (run accesses).IsBalanced :=
  isBalanced_foldl isBalanced_start accesses

/-- The lines and the octets of a course are those of the octets it has taken in. -/
structure IsFaithful (course : Course) : Prop where
  /-- The lines are the complete ones that are not empty, each once and in order. -/
  lines : course.lines = completeLines course.received
  /-- No line is empty. -/
  nonempty : ∀ line ∈ course.lines, line ≠ []
  /-- The octets left are those after the last terminator. -/
  rest : course.rest = unfinished course.received
  /-- A read that brings no octets, as it fails or runs out of time, changes neither. -/
  failed : ∀ source, sourced source = [] →
    (course.step (.read source)).lines = course.lines ∧
      (course.step (.read source)).rest = course.rest

theorem lines_eq
    {course : Course}
    (balanced : course.IsBalanced) :
    course.lines = completeLines course.received := by
  rw [lines, drain_eq]
  exact balanced.lines

theorem rest_eq
    {course : Course}
    (balanced : course.IsBalanced) :
    course.rest = unfinished course.received := by
  rw [rest, drain_eq]
  exact balanced.unfinished

/-- A read that brings no octets takes none in. -/
theorem received_read
    (course : Course)
    {source : Except IoError (List UInt8)}
    (nothing : sourced source = []) :
    (course.step (.read source)).received = course.received := by
  simp [step, Access.brought, nothing]

/--
However octets are cut into chunks and whenever lines are asked for, the lines are those of the
octets.
-/
theorem isFaithful_run (accesses : List Access) : (run accesses).IsFaithful := by
  have balanced := isBalanced_run accesses
  refine ⟨lines_eq balanced, fun line member => ?nonempty, rest_eq balanced,
    fun source nothing => ?failed⟩
  case nonempty =>
    rw [lines_eq balanced] at member
    exact ne_nil_of_mem_completeLines member
  case failed =>
    have after := isBalanced_step balanced (.read source)
    rw [lines_eq after, rest_eq after, received_read _ nothing]
    exact ⟨(lines_eq balanced).symm, (rest_eq balanced).symm⟩

end Course

end RoverLink.LineBuffer
