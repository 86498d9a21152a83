import GridRobot.Text.Decimal
import GridRobot.Text.Quoted
import GridRobot.Text.Similarity

/-! Telling the options of a command line from its other arguments. -/
namespace GridRobot.Cli

/-- An option with its names, all of which begin with dashes. -/
structure OptionSpec (κ : Type) where
  names : List String
  key : κ
  takesValue : Bool

/-- What is wrong with the options of a command line. -/
inductive OptionFault where
  /-- Names that are like it may be known. -/
  | unknown (name : String) (similar : List String)
  | needsValue (name : String)
  | takesNoValue (name : String)
  deriving DecidableEq, Repr

def OptionFault.message : OptionFault → String
  | unknown name similar =>
    "No such option " ++ Quoted.quote name ++ "." ++ Similarity.question similar
  | needsValue name => "Option " ++ Quoted.quote name ++ " requires an argument."
  | takesNoValue name => "Option " ++ Quoted.quote name ++ " does not take a value."

/-- An option that was given, with its value or an empty text. -/
structure Given (κ : Type) where
  key : κ
  value : String

/-- An option that takes the next argument as its value. -/
structure Waiting (κ : Type) where
  key : κ
  name : String

section
variable {κ : Type}

def find? (specs : List (OptionSpec κ)) (name : String) : Option (OptionSpec κ) :=
  specs.find? (·.names.contains name)

def isLong (name : String) : Bool := 2 < name.length

def longNames (specs : List (OptionSpec κ)) : List String :=
  specs.flatMap fun spec => spec.names.filter isLong

/-- Letters after one dash; an option that takes a value takes the rest of them. -/
def readLetters (specs : List (OptionSpec κ)) :
    List Char → Except OptionFault (List (Given κ) × Option (Waiting κ))
  | [] => .ok ([], none)
  | c :: r =>
    let name := String.ofList ['-', c]
    match find? specs name with
    | none => .error (.unknown name [])
    | some spec =>
      if spec.takesValue then
        if r = [] then .ok ([], some ⟨spec.key, name⟩)
        else .ok ([⟨spec.key, String.ofList r⟩], none)
      else do
        let (given, waiting) ← readLetters specs r
        return (⟨spec.key, ""⟩ :: given, waiting)

/-- A long name, up to an equals sign if a value is attached. -/
def readOption (specs : List (OptionSpec κ)) (argument : List Char) :
    Except OptionFault (List (Given κ) × Option (Waiting κ)) :=
  let name := String.ofList (argument.takeWhile (· != '='))
  match if isLong name then find? specs name else none, argument.dropWhile (· != '=') with
  | some spec, _ :: value =>
    if spec.takesValue then .ok ([⟨spec.key, String.ofList value⟩], none)
    else .error (.takesNoValue name)
  | some spec, [] =>
    if spec.takesValue then .ok ([], some ⟨spec.key, name⟩) else .ok ([⟨spec.key, ""⟩], none)
  | none, _ =>
    match argument with
    | '-' :: '-' :: _ => .error (.unknown name (Similarity.closest name (longNames specs)))
    | _ => readLetters specs (argument.drop 1)

def isOption (argument : String) : Bool :=
  argument.toList.head? = some '-' && 1 < argument.length

/-- Options end at two dashes, and at the first other argument unless they may stand among them. -/
def readFrom (specs : List (OptionSpec κ)) (among : Bool) :
    Option (Waiting κ) → List String → Except OptionFault (List (Given κ) × List String)
  | none, [] => .ok ([], [])
  | some w, [] => .error (.needsValue w.name)
  | some w, a :: r => do
    let (given, rest) ← readFrom specs among none r
    return (⟨w.key, a⟩ :: given, rest)
  | none, a :: r =>
    if a = "--" then .ok ([], r)
    else if isOption a then do
      let (given, waiting) ← readOption specs a.toList
      let (more, rest) ← readFrom specs among waiting r
      return (given ++ more, rest)
    else if among then do
      let (given, rest) ← readFrom specs among none r
      return (given, a :: rest)
    else .ok ([], a :: r)

/-- The options that are given, in order, and the other arguments. -/
def readOptions (specs : List (OptionSpec κ)) (among : Bool) (arguments : List String) :
    Except OptionFault (List (Given κ) × List String) :=
  readFrom specs among none arguments

/-- The last value given for an option. -/
def lastValue? [DecidableEq κ] (given : List (Given κ)) (key : κ) : Option String :=
  (given.reverse.find? fun g => g.key = key).map Given.value

end
end GridRobot.Cli
