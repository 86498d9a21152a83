import GridRobot.Text.Hexadecimal

/-! Quoted text in TOML: basic with escapes or literal without, on one line or on several. -/
namespace GridRobot.Toml

/-- Blanks within a line. -/
def isSpace (c : Char) : Bool := c == ' ' || c == '\t'

def isSpaceOrNewline (c : Char) : Bool := isSpace c || c == '\n'

def skipSpace (cs : List Char) : List Char := cs.dropWhile isSpace

/-- Control characters other than the tab. -/
def isControl (c : Char) : Bool := (c.toNat < 0x20 && c != '\t') || c.toNat == 0x7f

/-- Newlines may stand only in text on several lines. -/
def isIllegal (multiline : Bool) (c : Char) : Bool := isControl c && !(multiline && c == '\n')

/-- The character of a letter after a backslash. -/
def shortEscape? : Char → Option Char
  | 'b' => some (Char.ofNat 8)
  | 't' => some '\t'
  | 'n' => some '\n'
  | 'f' => some (Char.ofNat 12)
  | 'r' => some '\r'
  | '"' => some '"'
  | '\\' => some '\\'
  | _ => none

/-- Surrogates are not characters. -/
def isScalar (n : Nat) : Bool := n < 0xd800 || (0xdfff < n && n < 0x110000)

/-- The character of so many hexadecimal digits. -/
def readScalar (count : Nat) (cs : List Char) : Option (Char × List Char) :=
  let ds := cs.take count
  if ds.length = count ∧ ds.all Hexadecimal.isDigit ∧ isScalar (Hexadecimal.natValue ds) then
    some (Char.ofNat (Hexadecimal.natValue ds), cs.drop count)
  else none

/-- What an escape stands for, given what follows its backslash. -/
def readEscape (multiline : Bool) : List Char → Option (List Char × List Char)
  | 'u' :: r => (readScalar 4 r).map fun p => ([p.1], p.2)
  | 'U' :: r => (readScalar 8 r).map fun p => ([p.1], p.2)
  | c :: r =>
    if multiline && isSpaceOrNewline c then
      match skipSpace (c :: r) with
      | '\n' :: q => some ([], q.dropWhile isSpaceOrNewline)
      | _ => none
    else (shortEscape? c).map fun e => ([e], r)
  | [] => none

/-- The rest of a basic text after its opening quotes. -/
def readBasic (multiline : Bool) : Nat → List Char → Option (List Char × List Char)
  | 0, _ => none
  | n + 1, cs =>
    match cs with
    | [] => none
    | '"' :: r =>
      if multiline then
        match r with
        | '"' :: '"' :: q => some ([], q)
        | q => do
          let (t, s) ← readBasic multiline n q
          return ('"' :: t, s)
      else some ([], r)
    | '\\' :: r => do
      let (e, q) ← readEscape multiline r
      let (t, s) ← readBasic multiline n q
      return (e ++ t, s)
    | c :: r =>
      if isIllegal multiline c then none
      else do
        let (t, s) ← readBasic multiline n r
        return (c :: t, s)

/-- The rest of a literal text after its opening quotes. -/
def readLiteral (multiline : Bool) : List Char → Option (List Char × List Char)
  | [] => none
  | '\'' :: r =>
    if multiline then
      match r with
      | '\'' :: '\'' :: q => some ([], q)
      | _ => do
        let (t, s) ← readLiteral multiline r
        return ('\'' :: t, s)
    else some ([], r)
  | c :: r =>
    if isIllegal multiline c then none
    else do
      let (t, s) ← readLiteral multiline r
      return (c :: t, s)

/-- A newline right after the opening quotes does not belong to the text. -/
def dropNewline : List Char → List Char
  | '\n' :: r => r
  | cs => cs

/-- Up to two more quotes before the closing ones belong to the text. -/
def absorbQuotes (quote : Char) (t : List Char) (rest : List Char) : List Char × List Char :=
  match rest with
  | a :: b :: r =>
    if a = quote then
      if b = quote then (t ++ [quote, quote], r) else (t ++ [quote], b :: r)
    else (t, rest)
  | [a] => if a = quote then (t ++ [quote], []) else (t, rest)
  | [] => (t, [])

/-- A text on one line, as in keys. -/
def readLineText : List Char → Option (List Char × List Char)
  | '"' :: r => readBasic false (r.length + 1) r
  | '\'' :: r => readLiteral false r
  | _ => none

def readText : List Char → Option (List Char × List Char)
  | '"' :: '"' :: '"' :: r => do
    let (t, s) ← readBasic true (r.length + 1) (dropNewline r)
    return absorbQuotes '"' t s
  | '\'' :: '\'' :: '\'' :: r => do
    let (t, s) ← readLiteral true (dropNewline r)
    return absorbQuotes '\'' t s
  | cs => readLineText cs

end GridRobot.Toml
