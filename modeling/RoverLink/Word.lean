/-!
# Machine words

The integers that fit in a machine word.  A signed word of a width holds the integers from minus
half of the number of words up to, but not including, half of it.
-/

namespace RoverLink.Word

def count8 : Nat :=
  0x100

def count32 : Nat :=
  0x100000000

def count64 : Nat :=
  0x10000000000000000

/-- An integer as a signed word of 32 bits, if it fits. -/
def int32? (integer : Int) : Option Int32 :=
  if -0x80000000 ≤ integer ∧ integer < 0x80000000 then some (Int32.ofInt integer) else none

/-- An integer as a signed word of 64 bits, if it fits. -/
def int64? (integer : Int) : Option Int64 :=
  if -0x8000000000000000 ≤ integer ∧ integer < 0x8000000000000000 then
    some (Int64.ofInt integer)
  else
    none

/-- A word stands for the integer that it was made from. -/
theorem toInt_of_int32? {integer : Int} {word : Int32} (fits : int32? integer = some word) :
    word.toInt = integer := by
  rw [int32?] at fits
  split at fits
  next bounds =>
    cases fits
    exact Int32.toInt_ofInt_of_le (by omega) (by omega)
  next => simp at fits

/-- A word stands for the integer that it was made from. -/
theorem toInt_of_int64? {integer : Int} {word : Int64} (fits : int64? integer = some word) :
    word.toInt = integer := by
  rw [int64?] at fits
  split at fits
  next bounds =>
    cases fits
    exact Int64.toInt_ofInt_of_le (by omega) (by omega)
  next => simp at fits

@[simp]
theorem int32?_toInt (word : Int32) : int32? word.toInt = some word := by
  have low := word.le_toInt
  have high := word.toInt_lt
  simp only [int32?]
  rw [if_pos (by omega), Int32.ofInt_toInt]

@[simp]
theorem int64?_toInt (word : Int64) : int64? word.toInt = some word := by
  have low := word.le_toInt
  have high := word.toInt_lt
  simp only [int64?]
  rw [if_pos (by omega), Int64.ofInt_toInt]

end RoverLink.Word
