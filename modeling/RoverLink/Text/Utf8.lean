/-!
# UTF-8 text as octets

`encode` writes a text as octets.  Reading goes octet by octet with the continuation octets still
owed as its only state, and yields one `Option Char` per character or per maximal ill-formed
sequence: `lossy` puts the replacement character in the place of each ill-formed sequence, and
`decode?` refuses them.
-/

namespace RoverLink.Text.Utf8

def encode (text : List Char) : List UInt8 :=
  text.flatMap String.utf8EncodeChar

/-- The continuation octets that an unfinished character still needs. -/
structure Owed where
  count : Nat
  low : Nat
  high : Nat
  code : Nat
  deriving DecidableEq, Repr

/-- What is read at an octet that starts anew, and what that octet leaves owed. -/
def begin (octet : UInt8) : List (Option Char) × Option Owed :=
  let code := octet.toNat
  if code < 0x80 then
    ([some (Char.ofNat code)], none)
  else if code < 0xc2 then
    ([none], none)
  else if code < 0xe0 then
    ([], some ⟨1, 0x80, 0xbf, code - 0xc0⟩)
  else if code < 0xf0 then
    ([], some ⟨2, if code = 0xe0 then 0xa0 else 0x80, if code = 0xed then 0x9f else 0xbf,
      code - 0xe0⟩)
  else if code < 0xf5 then
    ([], some ⟨3, if code = 0xf0 then 0x90 else 0x80, if code = 0xf4 then 0x8f else 0xbf,
      code - 0xf0⟩)
  else
    ([none], none)

/-- The characters of an octet sequence, `none` for each maximal ill-formed sequence. -/
def scan : Option Owed → List UInt8 → List (Option Char)
  | none, [] => []
  | some _, [] => [none]
  | none, octet :: rest =>
    (begin octet).1 ++ scan (begin octet).2 rest
  | some owed, octet :: rest =>
    if owed.low ≤ octet.toNat ∧ octet.toNat ≤ owed.high then
      let code := owed.code * 64 + (octet.toNat - 0x80)
      if owed.count = 1 then
        some (Char.ofNat code) :: scan none rest
      else
        scan (some ⟨owed.count - 1, 0x80, 0xbf, code⟩) rest
    else
      none :: ((begin octet).1 ++ scan (begin octet).2 rest)

/-- The text of an octet sequence, with the replacement character for ill-formed parts. -/
def lossy (octets : List UInt8) : List Char :=
  (scan none octets).map fun piece => piece.getD '\ufffd'

/-- The text of an octet sequence, if it is well-formed. -/
def decode? (octets : List UInt8) : Option (List Char) :=
  (scan none octets).mapM id

/-- Whether an octet continues a character that an earlier octet started. -/
def isContinuation (octet : UInt8) : Bool :=
  0x80 ≤ octet.toNat && octet.toNat < 0xc0

@[simp]
theorem encode_nil : encode [] = [] :=
  rfl

@[simp]
theorem encode_cons (first : Char) (rest : List Char) :
    encode (first :: rest) = String.utf8EncodeChar first ++ encode rest :=
  rfl

@[simp]
theorem encode_append (left right : List Char) :
    encode (left ++ right) = encode left ++ encode right := by
  simp [encode]

end RoverLink.Text.Utf8
