import Airlight.Decimal.Numeral
import Airlight.Text.Basic

/-!
# Command line arguments

The command takes options that begin with two dashes. An option may be shortened as long as only one
option begins that way, its value may follow an equals sign, and when it is given again the last
value counts. Arguments that look like negative numbers are values. Two dashes alone end the
options; behind an equals sign they take the value away.
-/

namespace Airlight.CommandLine

/-- The forms in which textures can be written. -/
inductive OutputFormat where
  | archive
  | images
  deriving DecidableEq, Repr

namespace OutputFormat

/-- The name of a form. -/
def name : OutputFormat → String
  | archive => "npz"
  | images => "exr"

/-- The form with a given name. -/
def ofName? (text : Text) : Option OutputFormat := [archive, images].find? fun f => f.name = text

end OutputFormat

/-- What an option is set to. -/
inductive Setting (β : Type) where
  | value (value : β)
  /-- The value has been taken away. -/
  | blank
  deriving DecidableEq, Repr

/-- The value of a setting. -/
def Setting.value? {β : Type} : Setting β → Option β
  | value v => some v
  | blank => none

/-- What a command is to do. -/
structure Options where
  config : Option (Setting Text)
  output : Setting Text
  format : Setting OutputFormat
  workers : Setting Int
  blockSize : Setting Int
  sampleCount : Setting Int
  tableSampleCount : Setting Int
  resolution : Option (Vector Int 4)
  half : Bool
  deriving DecidableEq, Repr

namespace Options

/-- The options of a command that gives none. -/
def standard : Options where
  config := none
  output := .value "luts"
  format := .value .archive
  workers := .value (-1)
  blockSize := .value 8192
  sampleCount := .value 50
  tableSampleCount := .value 500
  resolution := none
  half := false

end Options

/-- The options that an argument can name. -/
inductive OptionKey where
  | help
  | config
  | output
  | format
  | workers
  | blockSize
  | sampleCount
  | tableSampleCount
  | resolution
  | half
  deriving DecidableEq, Repr

/-- The names that ask for help. -/
def helpNames : List (String × OptionKey) := [("-h", .help), ("--help", .help)]

/-- The names of all options. -/
def optionNames : List (String × OptionKey) :=
  helpNames ++
    [("--config", .config), ("--output", .output), ("--format", .format), ("--jobs", .workers),
      ("--block-size", .blockSize), ("--sample-count", .sampleCount),
      ("--transmittance-sample-count", .tableSampleCount), ("--resolution", .resolution),
      ("--half", .half)]

/-- The name of the only command. -/
def commandName : String := "precompute"

/-- How an argument reads before its meaning is known. -/
inductive Mark where
  /-- A value. -/
  | plain
  /-- The two dashes that end the options. -/
  | separator
  /-- An option, by the name that it stands for, and the value attached to it. -/
  | option (name : String) (key : OptionKey) (attached : Option Text)
  /-- The short name that asks for help, followed directly by more letters. -/
  | helpLetters (more : List CodePoint)
  /-- Something that looks like an option but is none. -/
  | unknown
  deriving DecidableEq, Repr

/-- The two dashes that end the options. -/
def separator : Text := "--"

/-- Whether a text is a minus sign followed by a number. A line end after it does not count. -/
def isNegativeNumber (text : String) : Bool :=
  let isDigit (c : Char) : Bool := (Text.digitValue? c).isSome
  let withoutBreak (cs : List Char) : List Char :=
    if cs.getLast? = some '\n' then cs.dropLast else cs
  match withoutBreak text.toList with
  | '-' :: rest =>
    match rest.dropWhile isDigit with
    | [] => !rest.isEmpty
    | '.' :: digits => !digits.isEmpty && digits.all isDigit
    | _ => false
  | _ => false

/-- Splits a text at its first equals sign. -/
def splitAttached (text : Text) : Text × Option Text :=
  let name := text.points.takeWhile (· ≠ .char '=')
  match text.points.drop name.length with
  | [] => (⟨name⟩, none)
  | _ :: value => (⟨name⟩, some ⟨value⟩)

/-- The option with a given name. -/
def optionNamed? (names : List (String × OptionKey)) (text : Text) : Option (String × OptionKey) :=
  names.find? fun (name, _) => (name : Text) = text

/-- What a text may stand for: long names may be shortened, and short names may stand together. -/
def candidates (names : List (String × OptionKey)) (text : Text) : List Mark :=
  match text.points with
  | .char '-' :: .char '-' :: _ =>
    let (start, attached) := splitAttached text
    names.filterMap fun (name, key) =>
      if start.points.isPrefixOf (name : Text).points then some (.option name key attached)
      else none
  | .char '-' :: .char 'h' :: more => [.helpLetters more]
  | _ => []

/-- Marks an argument, for options of given names; `none` when it may stand for several of them. -/
def mark? (names : List (String × OptionKey)) (arg : Text) : Option Mark :=
  if arg.points.head? ≠ some (.char '-') then some .plain
  else
    match optionNamed? names arg with
    | some (name, key) => some (.option name key none)
    | none =>
      if arg.points.length = 1 then some .plain
      else
        let (start, attached) := splitAttached arg
        match attached, optionNamed? names start with
        | some value, some (name, key) => some (.option name key (some value))
        | _, _ =>
          match candidates names arg with
          | [m] => some m
          | _ :: _ :: _ => none
          | [] =>
            let isValue := arg.toString?.any isNegativeNumber || arg.points.contains (.char ' ')
            some (if isValue then .plain else .unknown)

/-- Marks all arguments. What follows two dashes is plain. -/
def markAll? (names : List (String × OptionKey)) : List Text → Option (List (Text × Mark))
  | [] => some []
  | arg :: rest =>
    if arg = separator then some ((arg, .separator) :: rest.map (·, .plain))
    else do return (arg, ← mark? names arg) :: (← markAll? names rest)

/-- What the arguments ask for. -/
inductive Request where
  | run (options : Options)
  | help
  | refused
  deriving DecidableEq, Repr

/-- What letters behind the short name that asks for help ask for: they have to be that name
again. -/
def requestOfLetters (more : List CodePoint) : Request :=
  if more.all (· = .char 'h') then .help else .refused

/-- What an option that asks for help asks for. Letters may be attached to its short name. -/
def requestOfHelp (name : String) (attached : Option Text) : Request :=
  match attached with
  | none => .help
  | some more => if name = "-h" ∧ !more.isEmpty then requestOfLetters more.points else .refused

/-- The whole number that a text spells. -/
def wholeNumber? (text : Text) : Option Int := text.toString?.bind Numeral.readInteger?

/-- Sets an option to a text, or to nothing; `none` when the text does not fit it. -/
def setValue? (key : OptionKey) (text : Option Text) (o : Options) : Option Options :=
  let setting {β : Type} (read? : Text → Option β) : Option (Setting β) :=
    match text with
    | none => some .blank
    | some text => (read? text).map .value
  match key with
  | .config => (setting some).map fun config => { o with config := some config }
  | .output => (setting some).map fun output => { o with output }
  | .format => (setting OutputFormat.ofName?).map fun format => { o with format }
  | .workers => (setting wholeNumber?).map fun workers => { o with workers }
  | .blockSize => (setting wholeNumber?).map fun blockSize => { o with blockSize }
  | .sampleCount => (setting wholeNumber?).map fun sampleCount => { o with sampleCount }
  | .tableSampleCount =>
    (setting wholeNumber?).map fun tableSampleCount => { o with tableSampleCount }
  | _ => none

/-- Reads the options of the command from left to right. Surplus arguments are refused at the
end. -/
def readOptions (surplus : Bool) (o : Options) : List (Text × Mark) → Request
  | [] => if surplus then .refused else .run o
  | (_, .option name .help attached) :: _ => requestOfHelp name attached
  | (_, .helpLetters more) :: _ => requestOfLetters more
  | (_, .option _ .half attached) :: rest =>
    if attached.isSome then .refused else readOptions surplus { o with half := true } rest
  | (_, .option _ .resolution attached) :: rest =>
    match attached, rest with
    | none, (a, .plain) :: (b, .plain) :: (c, .plain) :: (d, .plain) :: rest =>
      match #v[a, b, c, d].mapM wholeNumber? with
      | some sizes => readOptions surplus { o with resolution := some sizes } rest
      | none => .refused
    | _, _ => .refused
  | (_, .option _ key (some text)) :: rest =>
    match setValue? key (if text = separator then none else some text) o with
    | some o => readOptions surplus o rest
    | none => .refused
  | (_, .option _ key none) :: rest =>
    match rest with
    | (text, .plain) :: rest =>
      match setValue? key (some text) o with
      | some o => readOptions surplus o rest
      | none => .refused
    | _ => .refused
  | _ :: rest => readOptions true o rest

/-- Reads what stands before the command and then the options of the command. -/
def readCommand (surplus : Bool) : List Text → Request
  | [] => .refused
  | arg :: rest =>
    match if arg = separator then some .separator else mark? helpNames arg with
    | some .plain =>
      if arg = commandName then
        match markAll? optionNames rest with
        | some marked => readOptions surplus .standard marked
        | none => .refused
      else .refused
    | some (.option name _ attached) => requestOfHelp name attached
    | some (.helpLetters more) => requestOfLetters more
    | some .unknown => readCommand true rest
    | _ => .refused

/-- What the arguments of the program ask for. -/
def Request.ofArguments (arguments : List Text) : Request := readCommand false arguments

end Airlight.CommandLine
