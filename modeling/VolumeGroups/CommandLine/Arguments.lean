/-! Reading a program's arguments as options with values, in the order in which they stand. -/

namespace VolumeGroups

/-- Why arguments do not say what to do. -/
inductive UsageError where
  /-- An argument is neither an option nor the value of one. -/
  | unknownArgument
  /-- An option has no value. -/
  | missingValue
  /-- The value of an option does not read. -/
  | unreadableValue
  /-- An option is given twice. -/
  | repeatedOption
  /-- Something that takes no value is given one. -/
  | unneededValue
  /-- No command is named. -/
  | missingCommand
  /-- A command of that name does not exist. -/
  | unknownCommand
  /-- Help is asked for instead, with the command it is asked for. -/
  | helpWanted (command : Option String)
  /-- The version is asked for instead. -/
  | versionWanted
  deriving DecidableEq

/-- An option with a value, and how the value changes what is being read. -/
structure ValueOption (σ : Type) where
  /-- The name after two hyphens. -/
  name : String
  /-- The letter after one hyphen. -/
  letter : Option Char := none
  /-- What is read after a value, unless the value does not read. -/
  take : String → σ → Option σ

/-- An argument by its outer form. -/
inductive Argument where
  /-- Two hyphens, after which no options follow. -/
  | separator
  /-- A name after two hyphens, perhaps with a value after an equals sign. -/
  | named (name : String) (value : Option String)
  /-- Letters after one hyphen. -/
  | letters (first : Char) (rest : List Char)
  /-- Anything else. -/
  | plain (text : String)

/-- An argument by its outer form. -/
def Argument.ofText (text : String) : Argument :=
  match text.toList with
  | ['-', '-'] => .separator
  | '-' :: '-' :: rest =>
    let name := rest.takeWhile (· != '=')
    let value := match rest.drop name.length with
      | _ :: value => some (String.ofList value)
      | [] => none
    .named (String.ofList name) value
  -- A single hyphen is a value like any other.
  | '-' :: first :: rest => .letters first rest
  | _ => .plain text

/-- How far arguments have been read. -/
structure Reading (σ : Type) where
  value : σ
  /-- The options taken in so far. -/
  given : List String := []
  /-- The last option, with its value once that has been seen. -/
  pending : Option (ValueOption σ × Option String) := none

namespace Reading

variable {σ : Type}

/-- An option with its value taken in. -/
def take (reading : Reading σ) (option : ValueOption σ) (text : Option String) :
    Except UsageError (Reading σ) :=
  match text with
  | none => .error .missingValue
  | some text =>
    -- A repeated option is told before its value is looked at.
    if reading.given.contains option.name then .error .repeatedOption
    else
      match option.take text reading.value with
      | none => .error .unreadableValue
      | some value =>
        .ok { reading with value, given := option.name :: reading.given }

/-- The last option taken in, which happens only once the next one is known. -/
def settle (reading : Reading σ) : Except UsageError (Reading σ) :=
  match reading.pending with
  | none => .ok reading
  | some (option, text) => { reading with pending := none }.take option text

/-- An option that is met, perhaps together with its value. -/
def meet (reading : Reading σ) (option : ValueOption σ) (text : Option String) :
    Except UsageError (Reading σ) := do
  -- The option before this one needs its value by now.
  let reading ← reading.settle
  match text with
  | some text => reading.take option (some text)
  -- The value may still come as an argument of its own.
  | none => return { reading with pending := some (option, none) }

/-- Help that is asked for, unless the last option is at fault. -/
def help (reading : Reading σ) (command : Option String) : Except UsageError (Reading σ) := do
  let _ ← reading.settle
  throw (.helpWanted command)

/-- The value in the rest of some letters, where an equals sign may come first. -/
def attachedValue : List Char → Option String
  | [] => none
  | '=' :: rest => some (String.ofList rest)
  | rest => some (String.ofList rest)

/-- One more argument read. -/
def step (options : List (ValueOption σ)) (command : Option String) (reading : Reading σ)
    (argument : Argument) : Except UsageError (Reading σ) :=
  match argument with
  | .separator => .ok reading
  | .named name value =>
    if name = "help" then
      match value with
      | none => reading.help command
      | some _ => .error .unneededValue
    else
      match options.find? fun option => option.name == name with
      | some option => reading.meet option value
      -- An argument that nobody knows is told before anything is said of the option before it.
      | none => .error .unknownArgument
  | .letters first rest =>
    if first = 'h' then reading.help command
    else
      match options.find? fun option => option.letter == some first with
      | some option => reading.meet option (attachedValue rest)
      | none => .error .unknownArgument
  | .plain text =>
    match reading.pending with
    | some (option, none) => .ok { reading with pending := some (option, some text) }
    -- Plain words are values, so one without an option in front of it has no place.
    | _ => .error .unknownArgument

/-- All arguments read, of which none may follow a separator. -/
def readAll (options : List (ValueOption σ)) (command : Option String) (reading : Reading σ) :
    List String → Except UsageError (Reading σ)
  | [] => reading.settle
  | text :: rest =>
    match Argument.ofText text with
    -- A separator ends the options, and no command takes anything else.
    | .separator => if rest.isEmpty then reading.settle else .error .unknownArgument
    | argument => do
      let reading ← reading.step options command argument
      reading.readAll options command rest

end Reading

/-- What some arguments say, starting from what holds without any. -/
def readArguments {σ : Type} (options : List (ValueOption σ)) (command : Option String)
    (initial : σ) (arguments : List String) : Except UsageError σ :=
  (Reading.readAll options command { value := initial } arguments).map Reading.value

end VolumeGroups
