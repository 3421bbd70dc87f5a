import RoverLink.Text.Utf8

/-!
# The octets of a character

The first octet of a character tells how many follow, and these continue the
character.  So reading the octets of a text gives its characters back, one by
one (`decode?_encode`).
-/

namespace RoverLink.Text.Utf8

/-! ### Continuations -/

theorem toNat_ofNat
    {code : Nat}
    (small : code < 256) :
    (UInt8.ofNat code).toNat = code := by
  rw [UInt8.toNat_ofNat']
  exact Nat.mod_eq_of_lt small

theorem isContinuation_ofNat
    {code : Nat}
    (small : code < 256) :
    isContinuation (UInt8.ofNat code) = decide (0x80 ≤ code ∧ code < 0xc0) := by
  rw [isContinuation, toNat_ofNat small, Bool.decide_and]

/-- The first octet of a character starts it, and the others continue it. -/
theorem exists_utf8EncodeChar_eq_cons (character : Char) :
    ∃ first rest, String.utf8EncodeChar character = first :: rest ∧
      isContinuation first = false ∧
        ∀ octet ∈ rest, isContinuation octet = true := by
  -- One case for each number of octets.
  rw [String.utf8EncodeChar]
  split
  next single =>
    refine ⟨_, _, rfl, ?_, by simp⟩
    rw [isContinuation_ofNat (by omega)]
    exact decide_eq_false (by omega)
  next =>
    have continues : ∀ code, isContinuation (UInt8.ofNat (code % 64 + 128)) = true := by
      intro code
      rw [isContinuation_ofNat (by omega)]
      exact decide_eq_true (by omega)
    have starts : ∀ code, 0xc0 ≤ code → code < 256 →
        isContinuation (UInt8.ofNat code) = false := by
      intro code least below
      rw [isContinuation_ofNat below]
      exact decide_eq_false (by omega)
    split
    · refine ⟨_, _, rfl, starts _ (by omega) (by omega), ?_⟩
      simp only [List.forall_mem_cons, continues, List.not_mem_nil, false_imp_iff, implies_true,
          and_self]
    · split
      · refine ⟨_, _, rfl, starts _ (by omega) (by omega), ?_⟩
        simp only [List.forall_mem_cons, continues, List.not_mem_nil, false_imp_iff, implies_true,
          and_self]
      · refine ⟨_, _, rfl, starts _ (by omega) (by omega), ?_⟩
        simp only [List.forall_mem_cons, continues, List.not_mem_nil, false_imp_iff, implies_true,
          and_self]

/-! ### Reading octets -/

section

variable {low high sofar code : Nat} (small : code < 256) (bounds : low ≤ code ∧ code ≤ high)

include small bounds

/-- The last octet that is owed completes a character. -/
theorem scan_last (rest : List UInt8) :
    scan (some ⟨1, low, high, sofar⟩) (UInt8.ofNat code :: rest) =
      some (Char.ofNat (sofar * 64 + (code - 0x80))) :: scan none rest := by
  rw [scan, toNat_ofNat small, if_pos bounds]
  exact if_pos rfl

theorem scan_next (count : Nat) (rest : List UInt8) :
    scan (some ⟨count + 2, low, high, sofar⟩) (UInt8.ofNat code :: rest) =
      scan (some ⟨count + 1, 0x80, 0xbf, sofar * 64 + (code - 0x80)⟩) rest := by
  rw [scan, toNat_ofNat small, if_pos bounds]
  exact if_neg (show count + 2 ≠ 1 by omega)

end

theorem scan_first
    {code : Nat}
    {owed : Owed}
    (begins : begin (UInt8.ofNat code) = ([], some owed))
    (rest : List UInt8) :
    scan none (UInt8.ofNat code :: rest) = scan (some owed) rest := by
  rw [scan, begins, List.nil_append]

theorem begin_of_two
    {code : Nat}
    (bounds : 0xc2 ≤ code ∧ code < 0xe0) :
    begin (UInt8.ofNat code) = ([], some ⟨1, 0x80, 0xbf, code - 0xc0⟩) := by
  simp only [begin, toNat_ofNat (show code < 256 by omega)]
  rw [if_neg (by omega), if_neg (by omega), if_pos (by omega)]

theorem begin_of_three
    {code : Nat}
    (bounds : 0xe0 ≤ code ∧ code < 0xf0) :
    begin (UInt8.ofNat code) =
      ([], some ⟨2, if code = 0xe0 then 0xa0 else 0x80, if code = 0xed then 0x9f else 0xbf,
        code - 0xe0⟩) := by
  simp only [begin, toNat_ofNat (show code < 256 by omega)]
  rw [if_neg (by omega), if_neg (by omega), if_neg (by omega), if_pos (by omega)]

theorem begin_of_four
    {code : Nat}
    (bounds : 0xf0 ≤ code ∧ code < 0xf5) :
    begin (UInt8.ofNat code) =
      ([], some ⟨3, if code = 0xf0 then 0x90 else 0x80, if code = 0xf4 then 0x8f else 0xbf,
        code - 0xf0⟩) := by
  simp only [begin, toNat_ofNat (show code < 256 by omega)]
  rw [if_neg (by omega), if_neg (by omega), if_neg (by omega), if_neg (by omega),
    if_pos (by omega)]

/-- The octets of a character are read as the character. -/
theorem scan_utf8EncodeChar (character : Char) (rest : List UInt8) :
    scan none (String.utf8EncodeChar character ++ rest) = some character :: scan none rest := by
  have scalar : character.val.toNat < 0xd800 ∨
      0xdfff < character.val.toNat ∧ character.val.toNat < 0x110000 := character.valid
  rw [String.utf8EncodeChar]
  generalize whole : character.val.toNat = code at scalar
  have same : Char.ofNat code = character := by
    rw [← whole]
    exact Char.ofNat_toNat character
  -- One case for each number of octets.
  split
  next single =>
    have begins : begin (UInt8.ofNat code) = ([some (Char.ofNat code)], none) := by
      simp only [begin, toNat_ofNat (show code < 256 by omega)]
      exact if_pos (by omega)
    rw [List.singleton_append, scan, begins, same]
    rfl
  next =>
    split
    next =>
      rw [List.cons_append, List.cons_append, List.nil_append, scan_first (begin_of_two (by omega)),
        scan_last (by omega) (by omega), show (code / 64 % 32 + 192 - 0xc0) * 64 +
          (code % 64 + 128 - 0x80) = code by omega, same]
    next =>
      split
      next =>
        simp only [List.cons_append, List.nil_append]
        rw [scan_first (begin_of_three (by omega)),
          scan_next (by omega) (by split <;> split <;> omega), scan_last (by omega) (by omega),
          show ((code / 4096 % 16 + 224 - 0xe0) * 64 + (code / 64 % 64 + 128 - 0x80)) * 64 +
            (code % 64 + 128 - 0x80) = code by omega, same]
      next =>
        simp only [List.cons_append, List.nil_append]
        rw [scan_first (begin_of_four (by omega)),
          scan_next (by omega) (by split <;> split <;> omega), scan_next (by omega) (by omega),
          scan_last (by omega) (by omega),
          show (((code / 262144 % 8 + 240 - 0xf0) * 64 + (code / 4096 % 64 + 128 - 0x80)) * 64 +
            (code / 64 % 64 + 128 - 0x80)) * 64 + (code % 64 + 128 - 0x80) = code by omega, same]

@[simp]
theorem scan_encode (text : List Char) : scan none (encode text) = text.map some := by
  induction text with
  | nil => rfl
  | cons first rest induction =>
    rw [encode_cons, scan_utf8EncodeChar, induction, List.map_cons]

/-- The octets of a text are read as the text. -/
@[simp]
theorem decode?_encode (text : List Char) : decode? (encode text) = some text := by
  rw [decode?, scan_encode]
  induction text with
  | nil => rfl
  | cons first rest induction => simp [induction]

/-! ### Octets leave something to read -/

theorem scan_some_ne_nil
    (owed : Owed)
    (octets : List UInt8) :
    scan (some owed) octets ≠ [] := by
  induction octets generalizing owed with
  | nil => simp [scan]
  | cons octet rest induction =>
    rw [scan]
    split
    · dsimp only
      split
      · simp
      · exact induction _
    · simp

/-- An octet that starts anew is read as something, or leaves octets owed. -/
theorem begin_of_fst_eq_nil
    {octet : UInt8}
    (silent : (begin octet).1 = []) :
    ∃ owed, (begin octet).2 = some owed := by
  revert silent
  rw [begin]
  repeat' split
  all_goals simp

/-- The text of octets is empty only if there are none. -/
theorem lossy_ne_nil
    {octets : List UInt8}
    (present : octets ≠ []) :
    lossy octets ≠ [] := by
  rcases octets with _ | ⟨octet, rest⟩
  · exact absurd rfl present
  rw [lossy, Ne, List.map_eq_nil_iff, scan, List.append_eq_nil_iff]
  rintro ⟨silent, rests⟩
  obtain ⟨owed, owes⟩ := begin_of_fst_eq_nil silent
  rw [owes] at rests
  exact scan_some_ne_nil owed rest rests

/-! ### Characters of one octet -/

theorem utf8EncodeChar_of_lt
    {character : Char}
    (ascii : character.toNat < 128) :
    String.utf8EncodeChar character = [character.val.toUInt8] := by
  apply String.utf8EncodeChar_eq_singleton
  have small : character.val ≤ 0x7f := by
    rw [UInt32.le_iff_toNat_le]
    exact Nat.le_of_lt_succ ascii
  simp [Char.utf8Size, small]

/-- Different characters below 128 are different octets. -/
theorem eq_of_toUInt8_eq
    {left right : Char}
    (leftAscii : left.toNat < 128)
    (rightAscii : right.toNat < 128)
    (same : left.val.toUInt8 = right.val.toUInt8) :
    left = right := by
  have octets := congrArg UInt8.toNat same
  simp only [UInt32.toNat_toUInt8] at octets
  apply Char.toNat_inj.mp
  simp only [Char.toNat] at leftAscii rightAscii ⊢
  omega

theorem isContinuation_toUInt8
    {character : Char}
    (ascii : character.toNat < 128) :
    isContinuation character.val.toUInt8 = false := by
  simp only [Char.toNat] at ascii
  simp only [isContinuation, UInt32.toNat_toUInt8, Bool.and_eq_false_iff, decide_eq_false_iff_not]
  omega

/-- A text of characters below 128 has one octet for each of them. -/
theorem length_encode_of_lt
    {text : List Char}
    (ascii : ∀ character ∈ text, character.toNat < 128) :
    (encode text).length = text.length := by
  induction text with
  | nil => rfl
  | cons first rest induction =>
    have later := induction fun character member => ascii character (List.mem_cons_of_mem _ member)
    rw [encode_cons, utf8EncodeChar_of_lt (ascii first (by simp))]
    simp [later]

end RoverLink.Text.Utf8
