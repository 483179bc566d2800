import RequestSchema.Cli.Usage
import RequestSchema.Text.Numeral

set_option autoImplicit false

/-!
# Command line arguments

Arguments are options or not. A long option may carry its value behind an equals sign, a short one
right behind its letter, and both may take it from the next argument, whatever that is. In front of
the command the options end at the first argument that is none.
-/

namespace RequestSchema

/-- An option as it was given, with its value if it takes one. -/
structure Given where
  option : OptionName
  value : Text

structure Arguments where
  given : List Given
  others : List Text

namespace Arguments

def addGiven (given : List Given) (arguments : Arguments) : Arguments :=
  { arguments with given := given ++ arguments.given }

def addOther (text : Text) (arguments : Arguments) : Arguments :=
  { arguments with others := text :: arguments.others }

end Arguments

def isLong (text : Text) : Bool := [char '-', char '-'].isPrefixOf text.toList

def isOption (text : Text) : Bool := text.toList.head? == some (char '-') && 1 < text.length

def OptionName.find? (options : List OptionName) (text : Text) : Option OptionName :=
  options.find? fun option => option.spellings.contains text

/-- A long option's name, and the value behind its equals sign. -/
def splitLong (text : Text) : Text × Option Text :=
  let cs := text.toList
  let name := cs.takeWhile (· != char '=')
  (Text.ofList name,
    if name.length < cs.length then some (Text.ofList (cs.drop (name.length + 1))) else none)

/-- What an argument gives: options with their values, and perhaps one more that takes its value
    from the next argument, as it was written. -/
structure Reading where
  given : List Given
  open? : Option (OptionName × Text)

def readShort (options : List OptionName) : List CodePoint → Except UsageProblem Reading
  | [] => .ok ⟨[], none⟩
  | c :: rest =>
    let text := Text.ofList ['-', c]
    match OptionName.find? options text with
    | none => .error (.noSuchOption text [])
    | some option =>
      if option.takesValue then
        if rest.isEmpty then .ok ⟨[], some (option, text)⟩
        else .ok ⟨[⟨option, Text.ofList rest⟩], none⟩
      else (readShort options rest).map fun reading =>
        { reading with given := ⟨option, ""⟩ :: reading.given }

def longSpellings (options : List OptionName) : List Text :=
  (options.flatMap OptionName.spellings).filter isLong

def readOption (options : List OptionName) (text : Text) : Except UsageProblem Reading :=
  let (name, value) := splitLong text
  match if isLong name then OptionName.find? options name else none with
  | some option =>
    if option.takesValue then
      match value with
      | some value => .ok ⟨[⟨option, value⟩], none⟩
      | none => .ok ⟨[], some (option, name)⟩
    else if value.isSome then .error (.takesNoValue name)
    else .ok ⟨[⟨option, ""⟩], none⟩
  | none =>
    if isLong text then .error (.noSuchOption name (closeWords (longSpellings options) name))
    else readShort options (text.toList.drop 1)

section

-- Opened up, the reading of one option makes the equations of the definition slow to check.
attribute [local irreducible] readOption

/-- Sorts arguments out. `mixed` lets options stand behind other arguments. -/
def readArguments (options : List OptionName) (mixed : Bool) :
    List Text → Except UsageProblem Arguments
  | [] => .ok ⟨[], []⟩
  | text :: rest =>
    if text == "--" then .ok ⟨[], rest⟩
    else if isOption text then
      match readOption options text with
      | .error problem => .error problem
      | .ok ⟨given, none⟩ => (readArguments options mixed rest).map (·.addGiven given)
      | .ok ⟨given, some (option, written)⟩ =>
        match rest with
        | [] => .error (.needsArgument written)
        | value :: rest =>
          (readArguments options mixed rest).map (·.addGiven (given ++ [⟨option, value⟩]))
    else if mixed then (readArguments options mixed rest).map (·.addOther text)
    else .ok ⟨[], text :: rest⟩

theorem readArguments_cons (options : List OptionName) (mixed : Bool) (text : Text)
    (rest : List Text) : readArguments options mixed (text :: rest) =
      if text == "--" then .ok ⟨[], rest⟩
      else if isOption text then
        match readOption options text with
        | .error problem => .error problem
        | .ok ⟨given, none⟩ => (readArguments options mixed rest).map (·.addGiven given)
        | .ok ⟨given, some (option, written)⟩ =>
          match rest with
          | [] => .error (.needsArgument written)
          | value :: rest =>
            (readArguments options mixed rest).map (·.addGiven (given ++ [⟨option, value⟩]))
      else if mixed then (readArguments options mixed rest).map (·.addOther text)
      else .ok ⟨[], text :: rest⟩ := by
  rw [readArguments]

end

/-! ## Values -/

/-- The value of an option that was given last. -/
def valueOf (option : OptionName) (given : List Given) : Option Text :=
  (given.reverse.find? fun g => g.option == option).map Given.value

/-- The options that were given, each once, in the order of their first use. -/
def optionsIn (given : List Given) : List OptionName := (given.map Given.option).eraseDups

def intArgument (option : OptionName) (text : Text) : Except UsageProblem Int :=
  match wholeNumber? text with
  | some n => .ok n
  | none => .error (.invalidValue option.hint (quoted text ++ " is not a valid integer."))

/-- A letter without its case, in the words that options choose from. -/
def choiceLetter (c : CodePoint) : CodePoint := if c = '\u017F' then 's' else c.toLower

/-- One of some words, in any case. -/
def choiceArgument (option : OptionName) (choices : List Text) (text : Text) :
    Except UsageProblem Text :=
  let word := Text.ofList (text.toList.map choiceLetter)
  if choices.contains word then .ok word
  else
    .error (.invalidValue option.hint
      (quoted text ++ " is not one of " ++ quotedList choices ++ "."))

def levelChoices : List Text := ["debug", "info", "warning", "error", "critical"]

def formatChoices : List Text := ["console", "json"]

end RequestSchema
