import GridRobot.Text.Utf8

/-! Cutting bytes and texts into lines. -/
namespace GridRobot.Line

def newline : UInt8 := 0x0a

def carriageReturn : UInt8 := 0x0d

/-- The bytes cut after each newline; there is no empty chunk. -/
def chunks : List UInt8 → List (List UInt8)
  | [] => []
  | b :: r =>
    if b = newline then [b] :: chunks r
    else
      match chunks r with
      | [] => [[b]]
      | c :: cs => (b :: c) :: cs

/-- A chunk without its newline and one carriage return before that newline. -/
def unterminated (chunk : List UInt8) : List UInt8 :=
  if chunk.getLast? = some newline then
    let body := chunk.dropLast
    if body.getLast? = some carriageReturn then body.dropLast else body
  else chunk

def ofChunk (chunk : List UInt8) : String := String.ofList (Utf8.decode (unterminated chunk))

/-- The lines of a stream of bytes. -/
def ofBytes (bytes : List UInt8) : List String := (chunks bytes).map ofChunk

/-- Every kind of line end becomes a newline. -/
def unifyEnds : List Char → List Char
  | '\r' :: '\n' :: r => '\n' :: unifyEnds r
  | '\r' :: r => '\n' :: unifyEnds r
  | c :: r => c :: unifyEnds r
  | [] => []

end GridRobot.Line
