import GridRobot.Proofs.Text.Line
import GridRobot.Proofs.Text.Utf8.Encoded

/-! Lines that are ended in any mix of ways: they are read back as they were written. -/
namespace GridRobot.Line

/-- What ends a line, with or without a carriage return. -/
inductive Terminator where
  | newline
  | returned
  deriving DecidableEq, Repr

def Terminator.chars : Terminator → List Char
  | newline => ['\n']
  | returned => ['\r', '\n']

/-- A line with its end; after a carriage return of its own only one end can be told from it. -/
structure Terminated where
  text : String
  terminator : Terminator
  unbroken : '\n' ∉ text.toList
  apart : text.toList.getLast? = some '\r' → terminator = .returned

/-- A last line that nothing ends. -/
structure Unended where
  text : String
  nonempty : text.toList ≠ []
  unbroken : '\n' ∉ text.toList

def Terminated.bytes (l : Terminated) : List UInt8 :=
  Utf8.encode l.text.toList ++ Utf8.encode l.terminator.chars

def Unended.bytes (l : Unended) : List UInt8 := Utf8.encode l.text.toList

/-- A stream of lines, and after them one more if there is one that nothing ends. -/
def stream (lines : List Terminated) (last : Option Unended) : List UInt8 :=
  lines.flatMap Terminated.bytes ++ last.toList.flatMap Unended.bytes

variable {cs : List Char} {body r : List UInt8}

lemma newline_not_mem_encode (h : '\n' ∉ cs) : newline ∉ Utf8.encode cs :=
  fun broken => h (Utf8.mem_of_mem_encode broken (by decide))

lemma chunks_append (h : newline ∉ body) (r : List UInt8) :
    chunks (body ++ newline :: r) = (body ++ [newline]) :: chunks r := by
  induction body with
  | nil => exact if_pos rfl
  | cons b body ih =>
    obtain ⟨here, later⟩ := List.ne_and_not_mem_of_not_mem_cons h
    rw [List.cons_append, chunks, if_neg (Ne.symm here), ih later]
    rfl

lemma chunks_of_not_mem (h : newline ∉ body) (nonempty : body ≠ []) : chunks body = [body] := by
  induction body with
  | nil => exact absurd rfl nonempty
  | cons b body ih =>
    obtain ⟨here, later⟩ := List.ne_and_not_mem_of_not_mem_cons h
    rw [chunks, if_neg (Ne.symm here)]
    cases body with
    | nil => rfl
    | cons c body => rw [ih later (List.cons_ne_nil c body)]

lemma unterminated_of_not_mem (h : newline ∉ body) : unterminated body = body :=
  if_neg fun ended => h (List.mem_of_getLast? ended)

lemma ofChunk_of_unterminated {chunk : List UInt8} {text : String}
    (same : unterminated chunk = Utf8.encode text.toList) : ofChunk chunk = text := by
  rw [ofChunk, same, Utf8.decode_encode, String.ofList_toList]

/-- The end of a line is the first newline in it, and what is taken off is that end and no more. -/
lemma Terminated.exists_body (l : Terminated) :
    ∃ body, l.bytes = body ++ [newline] ∧ newline ∉ body ∧ ofChunk (body ++ [newline]) = l.text := by
  obtain ⟨text, terminator, unbroken, apart⟩ := l
  have plain := newline_not_mem_encode unbroken
  cases terminator with
  | newline =>
    refine ⟨Utf8.encode text.toList, rfl, plain, ofChunk_of_unterminated ?_⟩
    have unmarked : (Utf8.encode text.toList).getLast? ≠ some carriageReturn := fun marked =>
      nomatch apart (Utf8.getLast?_of_encode marked (by decide))
    exact (Cut.newline unmarked).unterminated
  | returned =>
    refine ⟨Utf8.encode text.toList ++ [carriageReturn], ?_, ?_, ofChunk_of_unterminated ?_⟩
    · rw [List.append_assoc]
      rfl
    · rw [List.mem_append, not_or]
      exact ⟨plain, by decide⟩
    · rw [List.append_assoc]
      exact Cut.returned.unterminated

lemma ofBytes_unended (last : Option Unended) :
    ofBytes (last.toList.flatMap Unended.bytes) = last.toList.map Unended.text := by
  cases last with
  | none => rfl
  | some l =>
    have plain := newline_not_mem_encode l.unbroken
    have whole : [l].flatMap Unended.bytes = Utf8.encode l.text.toList := List.flatMap_singleton _ l
    rw [Option.toList_some, whole, ofBytes, chunks_of_not_mem plain (Utf8.encode_ne_nil l.nonempty)]
    exact congrArg (fun s => [s]) (ofChunk_of_unterminated (unterminated_of_not_mem plain))

/-- Whatever ends the lines of a stream, and whether something ends the last of them, they are read as
they are. -/
theorem ofBytes_stream (lines : List Terminated) (last : Option Unended) :
    ofBytes (stream lines last) =
      lines.map Terminated.text ++ last.toList.map Unended.text := by
  induction lines with
  | nil => exact ofBytes_unended last
  | cons l lines ih =>
    obtain ⟨body, bytes, unbroken, read⟩ := l.exists_body
    have split : stream (l :: lines) last = body ++ newline :: stream lines last := by
      rw [stream, List.flatMap_cons, bytes, List.append_assoc, List.append_assoc]
      rfl
    rw [ofBytes, split, chunks_append unbroken, List.map_cons, read]
    exact congrArg (l.text :: ·) ih

/-- Carriage returns that belong to their lines stay there: before one that does not, in the middle of a
line, and at the end of all. -/
theorem ofBytes_stream_mixed :
    let lines : List Terminated := [⟨"a\r", .returned, by decide, by decide⟩,
      ⟨"", .newline, by decide, by decide⟩, ⟨"b\rc", .newline, by decide, by decide⟩,
      ⟨"é", .returned, by decide, by decide⟩]
    let last : Unended := ⟨"d\r", by decide, by decide⟩
    stream lines (some last) = Utf8.encode "a\r\r\n\nb\rc\né\r\nd\r".toList ∧
      ofBytes (stream lines (some last)) = ["a\r", "", "b\rc", "é", "d\r"] := by
  intro lines last
  exact ⟨by decide +kernel, ofBytes_stream lines (some last)⟩

end GridRobot.Line
