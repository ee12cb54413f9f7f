/-!
# UTF-8

A byte sequence is cut into pieces: characters, and broken runs that no character
starts with. A broken run is as long as some character still could begin with it.
Strict decoding refuses broken runs, lenient decoding puts the replacement
character in the place of each.
-/

namespace PillarLookup.Text.Utf8

inductive Piece where
  | char (value : Char)
  | broken (bytes : List UInt8)
deriving DecidableEq, Repr

/-- A character begun and not finished: the next byte must lie between `low` and `high`. -/
structure Pending where
  owed : Nat
  low : Nat
  high : Nat
  code : Nat
  seen : List UInt8
deriving Repr

inductive Lead where
  | whole (piece : Piece)
  | opens (pending : Pending)
deriving Repr

def lead (byte : UInt8) : Lead :=
  let code := byte.toNat
  if code < 0x80 then .whole (.char (Char.ofNat code))
  else if code < 0xC2 then .whole (.broken [byte])
  else if code < 0xE0 then .opens ⟨1, 0x80, 0xBF, code - 0xC0, [byte]⟩
  else if code < 0xF0 then
    .opens ⟨2, if code = 0xE0 then 0xA0 else 0x80, if code = 0xED then 0x9F else 0xBF,
      code - 0xE0, [byte]⟩
  else if code < 0xF5 then
    .opens ⟨3, if code = 0xF0 then 0x90 else 0x80, if code = 0xF4 then 0x8F else 0xBF,
      code - 0xF0, [byte]⟩
  else .whole (.broken [byte])

def Pending.admits (pending : Pending) (byte : UInt8) : Bool :=
  pending.low ≤ byte.toNat && byte.toNat ≤ pending.high

def Pending.extend (pending : Pending) (byte : UInt8) : Pending :=
  ⟨pending.owed - 1, 0x80, 0xBF, pending.code * 64 + (byte.toNat - 0x80), pending.seen ++ [byte]⟩

/-- The pieces of a byte sequence that continues `pending`. -/
def piecesFrom : Option Pending → List UInt8 → List Piece
  | none, [] => []
  | some pending, [] => [.broken pending.seen]
  | none, byte :: rest =>
      match lead byte with
      | .whole piece => piece :: piecesFrom none rest
      | .opens opened => piecesFrom (some opened) rest
  | some pending, byte :: rest =>
      if pending.admits byte then
        let longer := pending.extend byte
        if longer.owed = 0 then .char (Char.ofNat longer.code) :: piecesFrom none rest
        else piecesFrom (some longer) rest
      else
        .broken pending.seen ::
          match lead byte with
          | .whole piece => piece :: piecesFrom none rest
          | .opens opened => piecesFrom (some opened) rest

def pieces (bytes : List UInt8) : List Piece :=
  piecesFrom none bytes

def Piece.char? : Piece → Option Char
  | .char value => some value
  | .broken _ => none

/-- The character shown for a broken run. -/
def replacement : Char := '\uFFFD'

/-- The text of bytes that are UTF-8 throughout. -/
def decode? (bytes : List UInt8) : Option String :=
  ((pieces bytes).mapM Piece.char?).map String.ofList

def decodeLenient (bytes : List UInt8) : String :=
  String.ofList ((pieces bytes).map fun piece => piece.char?.getD replacement)

def encode (text : String) : List UInt8 :=
  text.toList.flatMap String.utf8EncodeChar

theorem mapM_char?_eq_some_iff {cut : List Piece} {chars : List Char} :
    cut.mapM Piece.char? = some chars ↔ cut = chars.map .char := by
  induction cut generalizing chars with
  | nil => cases chars <;> simp
  | cons piece rest ih =>
      cases piece with
      | broken run => cases chars <;> simp [Piece.char?]
      | char value =>
          cases chars <;> simp [Piece.char?, Option.bind_eq_some_iff, ih, and_comm, and_assoc]

end PillarLookup.Text.Utf8
