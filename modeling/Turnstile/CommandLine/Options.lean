import Turnstile.Journal
import Turnstile.Text.Digits

namespace Turnstile.CommandLine

/-!
# Options

How the arguments of the command line set what is to be served.

* `Setting` — the options, and their spellings;
* `Word` — what an argument is, with `Word.ofArguments`;
* `Settings` — what the options set, with `Settings.ofArguments`;
* `UsageError` — why a command line can not be used.

Long options may be abbreviated as long as the abbreviation fits only one of them.
-/

/-! ### The options -/

/-- The options of the command line. -/
inductive Setting
  | help
  | usersFile
  | realm
  | ignoreFailure
  | host
  | port
  | logLevel
  deriving DecidableEq, Repr

namespace Setting

/-- Every spelling of an option, in the order in which they are listed. -/
def spellings : List (Text × Setting) :=
  [("-h", .help), ("--help", .help), ("--users-file", .usersFile), ("--realm", .realm),
   ("--ignore-failure", .ignoreFailure), ("--no-ignore-failure", .ignoreFailure),
   ("--host", .host), ("--port", .port), ("--log-level", .logLevel)]

/-- The option of a spelling. -/
def named? (spelling : Text) : Option Setting :=
  spellings.lookup spelling

/-- All spellings of an option with slashes between them. -/
def fullName (s : Setting) : Text :=
  Text.intercalate "/" ((spellings.filter fun e => e.2 == s).map (·.1))

/-- An option that stands on its own; every other takes one value. -/
def isFlag : Setting → Bool
  | .help | .ignoreFailure => true
  | _ => false

end Setting

/-! ### What can go wrong -/

/-- Why a command line can not be used. -/
inductive UsageError
  /-- An abbreviation fits several options. -/
  | ambiguous (argument : Text) (candidates : List Text)
  /-- An option that takes a value has none after it. -/
  | missingValue (setting : Setting)
  /-- An option that takes no value has one. -/
  | ignoredValue (setting : Setting) (value : Text)
  | notInteger (setting : Setting) (value : Text)
  | notAmong (setting : Setting) (value : Text) (choices : List Text)
  /-- Arguments that belong to no option. -/
  | unrecognized (arguments : List Text)
  | portOutOfRange (port : Int)
  deriving DecidableEq, Repr

/-- The error in words. -/
def UsageError.message : UsageError → Text
  | .ambiguous argument candidates =>
    "ambiguous option: " ++ argument ++ " could match " ++ Text.intercalate ", " candidates
  | .missingValue s => "argument " ++ s.fullName ++ ": expected one argument"
  | .ignoredValue s value =>
    "argument " ++ s.fullName ++ ": ignored explicit argument " ++ Text.quoted value
  | .notInteger s value =>
    "argument " ++ s.fullName ++ ": invalid int value: " ++ Text.quoted value
  | .notAmong s value choices =>
    let shown := Text.intercalate ", " (choices.map Text.quoted)
    "argument " ++ s.fullName ++ ": invalid choice: " ++ Text.quoted value ++ " (choose from " ++
      shown ++ ")"
  | .unrecognized arguments => "unrecognized arguments: " ++ Text.intercalate " " arguments
  | .portOutOfRange port => "--port must be in range 1-65535, got " ++ Text.ofInt port

/-! ### Words -/

/-- What the arguments of a command line are. -/
inductive Word
  /-- A value, or something that belongs to no option. -/
  | plain (text : Text)
  /-- The end of the options. -/
  | separator
  /-- It looks like an option but is none. -/
  | unknown (text : Text)
  /-- A spelling of an option, and the value written together with it. -/
  | option (spelling : Text) (setting : Setting) (value : Option Text)
  deriving DecidableEq, Repr

namespace Word

/-- A text cut at its first equals sign. -/
def cutAtEquals (text : Text) : Text × Option Text :=
  match Text.cut? '=' text.toList with
  | some (left, right) => (Text.ofList left, some (Text.ofList right))
  | none => (text, none)

/-- The spellings that an argument may stand for, with the value written together with it: those
    that a long option abbreviates, or a letter after a single dash. -/
def candidates (text : Text) : List (Text × Setting × Option Text) :=
  let cs := text.toList
  if cs.take 2 = Text.toList "--" then
    let parts := cutAtEquals text
    (Setting.spellings.filter fun e => parts.1.toList.isPrefixOf e.1.toList).map
      fun e => (e.1, e.2, parts.2)
  else
    (Setting.spellings.filter fun e => e.1.toList == cs.take 2).map
      fun e => (e.1, e.2, some (Text.ofList (cs.drop 2)))

/-- One digit or more. -/
def isDigits (cs : List CodePoint) : Bool :=
  !cs.isEmpty && cs.all fun c => (Text.digit? c).isSome

/-- A dash with a decimal number after it, which may start with its point; a line feed at the end
    does not count. -/
def isNegativeNumber (cs : List CodePoint) : Bool :=
  let body := if cs.getLast? = some (.char '\n') then cs.dropLast else cs
  match body with
  | .char '-' :: number =>
    match Text.cut? '.' number with
    | none => isDigits number
    | some (whole, fraction) => (whole.isEmpty || isDigits whole) && isDigits fraction
  | _ => false

/-- What an argument before the end of the options is. -/
def ofArgument (text : Text) : Except UsageError Word :=
  let cs := text.toList
  if cs.head? ≠ some (.char '-') then .ok (.plain text)
  else
    let parts := cutAtEquals text
    match Setting.named? text, Setting.named? parts.1 with
    | some s, _ => .ok (.option text s none)
    | none, some s => .ok (.option parts.1 s parts.2)
    | none, none =>
      if cs.length = 1 then .ok (.plain text)
      else match candidates text with
        | [(spelling, s, value)] => .ok (.option spelling s value)
        | [] =>
          if isNegativeNumber cs || cs.contains ' ' then .ok (.plain text)
          else .ok (.unknown text)
        | several => .error (.ambiguous text (several.map (·.1)))

/-- What the arguments of a command line are; all after the first separator are plain. -/
def ofArguments : List Text → Except UsageError (List Word)
  | [] => .ok []
  | text :: texts =>
    if text = "--" then .ok (.separator :: texts.map .plain)
    else do
      let word ← ofArgument text
      let words ← ofArguments texts
      return word :: words

/-- A word as it was written, for those that belong to no option. -/
def leftover : Word → Text
  | .plain text => text
  | .separator => "--"
  | .unknown text => text
  | .option spelling _ _ => spelling

end Word

/-! ### Settings -/

/-- What an option that takes a value has been given. -/
inductive Entry (α : Type)
  | value (a : α)
  /-- The option is there, but it was left without a value. -/
  | nothing
  deriving DecidableEq, Repr

/-- What the options set. -/
structure Settings where
  usersFile : Option (Entry Text) := none
  realm : Option Text := none
  ignoreFailure : Bool := false
  host : Text := "127.0.0.1"
  port : Entry Int := .value 8000
  logLevel : Entry Level := .value .info
  deriving DecidableEq, Repr

/-- The levels in the order in which they are offered. -/
def levels : List Level := [.debug, .info, .warning, .error]

/-- Why reading a command line ends early. -/
inductive Stop
  /-- Help is asked for. -/
  | help
  /-- The command line can not be used. -/
  | usage (error : UsageError)
  deriving DecidableEq, Repr

namespace Settings

/-- Sets the value of an option. -/
def setValue (st : Settings) (s : Setting) (value : Text) : Except Stop Settings :=
  match s with
  | .usersFile => .ok { st with usersFile := some (.value value) }
  | .realm => .ok { st with realm := some value }
  | .host => .ok { st with host := value }
  | .port =>
    match Text.readInt? value.toList with
    | some n => .ok { st with port := .value n }
    | none => .error (.usage (.notInteger s value))
  | .logLevel =>
    match levels.find? fun l => l.name == value with
    | some l => .ok { st with logLevel := .value l }
    | none => .error (.usage (.notAmong s value (levels.map Level.name)))
  | .help | .ignoreFailure => .error (.usage (.ignoredValue s value))

/-- Sets an option that stands on its own. -/
def setFlag (st : Settings) (spelling : Text) (s : Setting) : Except Stop Settings :=
  match s with
  | .help => .error .help
  | .ignoreFailure => .ok { st with ignoreFailure := spelling == "--ignore-failure" }
  | _ => .error (.usage (.missingValue s))

/-- Leaves an option without a value; a realm or host without one is empty. -/
def setNothing (st : Settings) : Setting → Settings
  | .usersFile => { st with usersFile := some .nothing }
  | .realm => { st with realm := some "" }
  | .host => { st with host := "" }
  | .port => { st with port := .nothing }
  | .logLevel => { st with logLevel := .nothing }
  | .help | .ignoreFailure => st

/-- Sets an option by the value written together with it.  Two dashes are never taken as a value,
    and leave the option without one. -/
def setWritten (st : Settings) (s : Setting) (value : Text) : Except Stop Settings :=
  if value = "--" then .ok (st.setNothing s) else st.setValue s value

/-- What a value written together with an option that takes none means: after a single dash its
    letters may be further options of one letter, and the first that is none makes it useless. -/
def setJoined (st : Settings) (spelling : Text) (s : Setting) (value : Text) :
    Except Stop Settings :=
  let others := value.toList.dropWhile fun c => (Setting.named? (Text.ofList ['-', c])).isSome
  if spelling.toList.take 2 = Text.toList "--" || value = "" then
    .error (.usage (.ignoredValue s value))
  else if others.isEmpty then st.setFlag spelling s
  else .error (.usage (.ignoredValue s (Text.ofList others)))

/-- Goes through the words of a command line, gathering those that belong to no option. -/
def read (st : Settings) : List Word → Except Stop (Settings × List Text)
  | [] => .ok (st, [])
  | .option spelling s value :: words =>
    if s.isFlag then
      match value with
      | none => do (← st.setFlag spelling s).read words
      | some v => do (← st.setJoined spelling s v).read words
    else
      -- a value that is not written together with the option is the next argument
      match value, words with
      | some v, words => do (← st.setWritten s v).read words
      | none, .plain v :: words => do (← st.setValue s v).read words
      | none, _ => .error (.usage (.missingValue s))
  | word :: words => do
    let (st, extras) ← st.read words
    return (st, word.leftover :: extras)

/-- What a command line sets; every argument must belong to an option. -/
def ofArguments (arguments : List Text) : Except Stop Settings :=
  match Word.ofArguments arguments with
  | .error e => .error (.usage e)
  | .ok words =>
    match read {} words with
    | .error stop => .error stop
    | .ok (st, extras) =>
      if extras.isEmpty then .ok st else .error (.usage (.unrecognized extras))

end Settings

end Turnstile.CommandLine
