import GridRobot.Schema.Scalar

/-! The answer to an operation: its data, or why it failed. -/
namespace GridRobot

/-- A record has a value in it that is nested too deeply to be written. -/
structure TooDeep where
  depth : Nat
  deriving DecidableEq, Repr

namespace TooDeep

def message (_ : TooDeep) : String := "Maximum serialization depth exceeded"

/-- What is said where the record was to become JSON. -/
def jsonMessage (e : TooDeep) : String :=
  "Error serializing to JSON: ValueError: " ++ e.message

/-- The greatest depth of a value that is written. -/
def limit : Nat := 255

/-- The values of some members go no deeper than the limit. -/
def check (ms : Members) : Except TooDeep Unit :=
  if limit < Data.depthOfMembers ms then .error ⟨Data.depthOfMembers ms⟩ else .ok ()

end TooDeep

structure Failure where
  code : String
  message : String
  detail : Members

structure Outcome where
  ok : Bool
  operation : String
  data : Members
  warnings : List String
  failure : Option Failure
  /-- What else is known about the operation, if anything is. -/
  context : Option Members

namespace Failure

def recordName : String := "ServiceError"

def toData (f : Failure) : Data :=
  .object [("code", .text f.code), ("message", .text f.message), ("detail", .object f.detail)]

/-- The record, unless a part of it goes too deep. -/
def write (f : Failure) : Except TooDeep Data := do
  TooDeep.check f.detail
  return f.toData

def ofData (d : Data) : Checked Failure := do
  let ms ← Schema.members recordName d
  (Checked.both (Schema.required ms "code" Schema.text)
    (Checked.both (Schema.required ms "message" Schema.text)
      (Schema.withDefault ms "detail" [] Schema.mapping))).map fun p => ⟨p.1, p.2.1, p.2.2⟩

end Failure

namespace Outcome

def recordName : String := "ServiceResult"

def success (operation : String) (data : Members) : Outcome :=
  ⟨true, operation, data, [], none, none⟩

def failed (operation : String) (f : Failure) : Outcome :=
  ⟨false, operation, [], [], some f, none⟩

def toData (o : Outcome) : Data :=
  .object [
    ("ok", .bool o.ok),
    ("op", .text o.operation),
    ("data", .object o.data),
    ("warnings", .list (o.warnings.map .text)),
    ("error", (o.failure.map Failure.toData).getD .null),
    ("meta", (o.context.map Data.object).getD .null)]

/-- The record, unless a part of it goes too deep. -/
def write (o : Outcome) : Except TooDeep Data := do
  TooDeep.check o.data
  TooDeep.check ((o.failure.map Failure.detail).getD [])
  TooDeep.check (o.context.getD [])
  return o.toData

def ofData (d : Data) : Checked Outcome := do
  let ms ← Schema.members recordName d
  (Checked.both (Schema.required ms "ok" Schema.bool)
    (Checked.both (Schema.required ms "op" Schema.text)
      (Checked.both (Schema.withDefault ms "data" [] Schema.mapping)
        (Checked.both (Schema.withDefault ms "warnings" [] (Schema.list Schema.text))
          (Checked.both (Schema.withDefault ms "error" none (Schema.nullable Failure.ofData))
            (Schema.withDefault ms "meta" none (Schema.nullable Schema.mapping))))))).map
    fun p => ⟨p.1, p.2.1, p.2.2.1, p.2.2.2.1, p.2.2.2.2.1, p.2.2.2.2.2⟩

/-- What is said of a failure nothing is known about. -/
def unknownFailure : String := "Unknown error"

def failureMessage (o : Outcome) : String := (o.failure.map Failure.message).getD unknownFailure

/-- The bare text of an operation: its output if that is text, or what went wrong. -/
def spoken (o : Outcome) : Option String :=
  if o.ok then
    match o.data.get? "output" with
    | some (.text s) => some s
    | _ => none
  else some o.failureMessage

end Outcome
end GridRobot
