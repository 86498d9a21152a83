import GridRobot.Data.Json

/-! Log events: which are written, and how a line of the log looks. -/
namespace GridRobot.Log

structure Event where
  logger : String
  level : Int
  message : String
  deriving DecidableEq, Repr

structure Options where
  /-- The loggers of this program also write what is meant for debugging. -/
  verbose : Bool
  json : Bool
  deriving DecidableEq, Repr

def debug : Int := 10

def warning : Int := 30

/-- The logger above all those of this program. -/
def ownLogger : String := "toyrobot"

/-- Whether the way up from a logger leads to that of the program. The name is gone through from its
end. What stands before a dot is the name of a logger above, and if one of that name is known, the way
goes on from there. If not, the character before the dot is passed over, be it a dot itself. -/
def leadsToOwn (known : List String) : List Char → Bool
  | '.' :: c :: r =>
    let above := String.ofList (c :: r).reverse
    if above = ownLogger then true
    else if above ∈ known then leadsToOwn known (c :: r)
    else leadsToOwn known r
  | _ :: r => leadsToOwn known r
  | [] => false

def IsOwn (known : List String) (logger : String) : Prop :=
  logger = ownLogger ∨ leadsToOwn known logger.toList.reverse = true

instance (known : List String) (logger : String) : Decidable (IsOwn known logger) := by
  unfold IsOwn
  infer_instance

/-- The least level of the loggers of this program. -/
def Options.ownLevel (o : Options) : Int := if o.verbose then debug else warning

/-- The least level that is written. -/
def threshold (o : Options) (known : List String) (logger : String) : Int :=
  if IsOwn known logger then o.ownLevel else warning

/-- Two events of one kind are both written, or neither is. -/
def SameKind (e x : Event) : Prop := x.logger = e.logger ∧ x.level = e.level

instance (e x : Event) : Decidable (SameKind e x) := by
  unfold SameKind
  infer_instance

/-- The loggers that were known when the first event of the kind came. -/
def knownFor (earlier : List Event) (e : Event) : List String :=
  (earlier.takeWhile fun x => ¬ SameKind e x).map Event.logger

def Writes (o : Options) (earlier : List Event) (e : Event) : Prop :=
  threshold o (knownFor earlier e) e.logger ≤ e.level

instance (o : Options) (earlier : List Event) (e : Event) : Decidable (Writes o earlier e) := by
  unfold Writes
  infer_instance

def levelNames : List (Int × String) :=
  [(10, "debug"), (20, "info"), (30, "warning"), (40, "error"), (50, "critical")]

/-- A level without a name is written as a number. -/
def levelName (level : Int) : String :=
  match levelNames.find? (·.1 == level) with
  | some n => n.2
  | none => "level " ++ String.ofList (Decimal.ofInt level)

/-- A logger without a name stands above all others. -/
def loggerName (logger : String) : String := if logger = "" then "root" else logger

def padded (width : Nat) (s : String) : List Char :=
  s.toList ++ List.replicate (width - s.length) ' '

/-- The level is padded to nine characters, and the message to thirty. -/
def plainLine (time : String) (e : Event) : List Char :=
  time.toList ++ " [".toList ++ padded 9 (levelName e.level) ++ "] ".toList ++
    padded 30 e.message ++ " [".toList ++ (loggerName e.logger).toList ++ "]".toList

/-- The members of a line in JSON. -/
def members (time : String) (e : Event) : Members := [
  ("event", .text e.message),
  ("level", .text (levelName e.level)),
  ("logger", .text (loggerName e.logger)),
  ("timestamp", .text time)]

def jsonLine (time : String) (e : Event) : List Char :=
  Json.write .log 0 (.object (members time e))

/-- Every line is ended by a newline. -/
def line (o : Options) (time : String) (e : Event) : String :=
  String.ofList ((if o.json then jsonLine time e else plainLine time e) ++ ['\n'])

/-- The events that are written after others, in order. -/
def writtenAfter (o : Options) (earlier : List Event) : List Event → List Event
  | [] => []
  | e :: es =>
    let rest := writtenAfter o (earlier ++ [e]) es
    if Writes o earlier e then e :: rest else rest

def written (o : Options) (events : List Event) : List Event := writtenAfter o [] events

/-- The line of an event that is written; there is none if its level is too long to be written. -/
def recorded (o : Options) (time : String) (e : Event) : Except OverlongInteger String :=
  (Decimal.write e.level).map fun _ => line o time e

def text (o : Options) (time : String) (events : List Event) : Except OverlongInteger String :=
  ((written o events).mapM (recorded o time)).map String.join

end GridRobot.Log
