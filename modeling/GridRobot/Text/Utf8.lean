import GridRobot.Text.Decimal
import GridRobot.Text.Hexadecimal

/-! Decoding UTF-8, with malformed parts either replaced or refused. -/
namespace GridRobot.Utf8

/-- What the bytes so far leave owed. -/
inductive State where
  | ready
  /-- So many bytes are owed, the next one in a range, to complete a value. -/
  | pending (owed : Nat) (low high value : Nat)
  deriving DecidableEq, Repr

/-- The meaning of a byte where no other byte is owed. -/
inductive Lead where
  | ascii
  | first (owed low high value : Nat)
  | invalid
  deriving DecidableEq, Repr

/-- Overlong forms, surrogates and values that are too large are ruled out by the second byte. -/
def lead (b : UInt8) : Lead :=
  let n := b.toNat
  if n < 0x80 then .ascii
  else if n < 0xc2 then .invalid
  else if n < 0xe0 then .first 1 0x80 0xbf (n - 0xc0)
  else if n = 0xe0 then .first 2 0xa0 0xbf 0
  else if n = 0xed then .first 2 0x80 0x9f 0xd
  else if n < 0xf0 then .first 2 0x80 0xbf (n - 0xe0)
  else if n = 0xf0 then .first 3 0x90 0xbf 0
  else if n < 0xf4 then .first 3 0x80 0xbf (n - 0xf0)
  else if n = 0xf4 then .first 3 0x80 0x8f 4
  else .invalid

def replacement : Char := '\ufffd'

/-- The value after a continuation byte. -/
def extended (value : Nat) (b : UInt8) : Nat := value * 64 + b.toNat % 64

/-- The characters that a byte completes, and what is owed after it. -/
def start (b : UInt8) : List Char × State :=
  match lead b with
  | .ascii => ([Char.ofNat b.toNat], .ready)
  | .first owed low high value => ([], .pending owed low high value)
  | .invalid => ([replacement], .ready)

/-- A byte that is not the one owed starts anew, after a replacement for what is incomplete. -/
def step : State → UInt8 → List Char × State
  | .ready, b => start b
  | .pending owed low high value, b =>
    if low ≤ b.toNat ∧ b.toNat ≤ high then
      if owed = 1 then ([Char.ofNat (extended value b)], .ready)
      else ([], .pending (owed - 1) 0x80 0xbf (extended value b))
    else (replacement :: (start b).1, (start b).2)

def decodeFrom (s : State) : List UInt8 → List Char
  | [] =>
    match s with
    | .ready => []
    | .pending .. => [replacement]
  | b :: r =>
    let t := step s b
    t.1 ++ decodeFrom t.2 r

/-- Each longest malformed part becomes one replacement character. -/
def decode (bytes : List UInt8) : List Char := decodeFrom .ready bytes

/-- Why bytes are not UTF-8. -/
inductive Defect where
  | startByte
  | continuationByte
  | endOfData
  deriving DecidableEq, Repr

def Defect.message : Defect → String
  | startByte => "invalid start byte"
  | continuationByte => "invalid continuation byte"
  | endOfData => "unexpected end of data"

/-- The first malformed part, from its position up to the byte after it. -/
structure Malformed where
  defect : Defect
  first : UInt8
  position : Nat
  after : Nat
  deriving DecidableEq, Repr

/-- A single byte is named, and several only by their positions. -/
def Malformed.message (e : Malformed) : String :=
  let number (n : Nat) := String.ofList (Decimal.ofNat n)
  "'utf-8' codec can't decode " ++
    (if e.after = e.position + 1 then
      "byte 0x" ++ String.ofList (Hexadecimal.padded 2 e.first.toNat) ++ " in position " ++
        number e.position
    else "bytes in position " ++ number e.position ++ "-" ++ number (e.after - 1)) ++
    ": " ++ e.defect.message

/-- Reading with a state, the first byte and the position of an incomplete part, and a position. -/
def checkedFrom (s : State) (first : UInt8) (begun position : Nat) :
    List UInt8 → Except Malformed (List Char)
  | [] =>
    match s with
    | .ready => .ok []
    | .pending .. => .error ⟨.endOfData, first, begun, position⟩
  | b :: r =>
    match s with
    | .ready =>
      match lead b with
      | .ascii => (checkedFrom .ready b position (position + 1) r).map (Char.ofNat b.toNat :: ·)
      | .first owed low high value =>
        checkedFrom (.pending owed low high value) b position (position + 1) r
      | .invalid => .error ⟨.startByte, b, position, position + 1⟩
    | .pending owed low high value =>
      if low ≤ b.toNat ∧ b.toNat ≤ high then
        if owed = 1 then
          (checkedFrom .ready b position (position + 1) r).map
            (Char.ofNat (extended value b) :: ·)
        else
          checkedFrom (.pending (owed - 1) 0x80 0xbf (extended value b)) first begun
            (position + 1) r
      else .error ⟨.continuationByte, first, begun, position⟩

/-- Only well-formed bytes are decoded. -/
def decodeChecked (bytes : List UInt8) : Except Malformed (List Char) :=
  checkedFrom .ready 0 0 0 bytes

def encode (cs : List Char) : List UInt8 := cs.flatMap String.utf8EncodeChar

end GridRobot.Utf8
