import Turnstile.Codec.Usual
import Turnstile.CommandLine.Run
import Turnstile.Requests

/-!
# The program

Serves a site whose users are listed in a file.  Requests arrive on standard input, one a line: the
method, the path, and the value of the `Authorization` header, if there is one.  Responses go to
standard output, the log to standard error.
-/

namespace Turnstile.Program

open CommandLine

/-- The characters of a code point in the output: half a surrogate pair is written as its escape. -/
def shownChars : CodePoint → List Char
  | .char c => [c]
  | .surrogate n => '\\' :: 'u' :: Nat.toDigits 16 (0xD800 + n.val)

/-- A text in the output. -/
def shown (t : Text) : String :=
  String.ofList (t.toList.flatMap shownChars)

/-- The name of the program. -/
def name : Text := "turnstile"

/-- What the program says about itself. -/
def help : String :=
  "usage: turnstile [-h] [--users-file FILE] [--realm REALM]\n" ++
  "                 [--ignore-failure | --no-ignore-failure] [--host HOST] [--port PORT]\n" ++
  "                 [--log-level LEVEL]\n"

/-- The file at a path, if it can be read. -/
def findFile (path : Path) : IO Found := do
  try
    let bytes ← IO.FS.readBinFile (shown path.text)
    return .file (.ok bytes.data.toList)
  catch _ => return .nothing

/-- The environment, and the users file that the command line names. -/
def surroundings (arguments : List Text) : IO Surroundings := do
  let usersFile ← IO.getEnv "BASICAUTH_USERS_FILE"
  let realm ← IO.getEnv "BASICAUTH_REALM"
  let around : Surroundings :=
    { usersFile := usersFile.map Text.ofString
      realm := realm.map Text.ofString
      decode := fun bytes => (Charset.Utf8.decode bytes).mapError .notUtf8
      registry := .usual }
  match Settings.ofArguments arguments with
  | .error _ => return around
  | .ok settings =>
    match usersPath settings around with
    | .error _ => return around
    | .ok path =>
      let found ← findFile path
      return { around with find := fun p => if p = path then found else .nothing }

/-- The bytes of a text in Latin-1. -/
def latin1Bytes (t : Text) : List UInt8 :=
  t.toList.map fun c => UInt8.ofNat c.toNat

/-- The scope of the request that a line describes. -/
def scopeOfLine (line : Text) : Scope :=
  let parts := (Text.fields ' ' line.toList).map Text.ofList
  let header : Http.RawHeader :=
    ⟨latin1Bytes "authorization", latin1Bytes (Text.intercalate " " (parts.drop 2))⟩
  { request :=
      { type := some (.text "http")
        method := parts.headD ""
        path := some (.text ((parts[1]?).getD ""))
        headers := some (if parts.length ≤ 2 then [] else [header]) } }

/-- Writes log entries to standard error. -/
def writeLog (log : List LogEntry) : IO Unit :=
  log.forM fun e => IO.eprintln s!"[{shown e.level.name}] {shown e.message}"

/-- Writes a message to standard output. -/
def writeMessage : Http.Message → IO Unit
  | .responseStart _ status headers => do
    IO.println s!"{status}"
    headers.forM fun h => IO.println s!"{shown h.1}: {shown h.2}"
    IO.println ""
  | .responseBody _ body => IO.println (shown body)
  | _ => return ()

/-- Answers the requests on standard input until it ends. -/
partial def answerAll (site : Site) (level : Level) (input : IO.FS.Stream) : IO Unit := do
  let line ← input.getLine
  if line.isEmpty then return
  let visit := (handle site.flow (scopeOfLine line.trimAscii.toString) {}).1
  writeLog (atLeast level (Trace.log visit.session.trace))
  (Trace.messages visit.session.trace).forM writeMessage
  answerAll site level input

end Turnstile.Program

open Turnstile Turnstile.CommandLine in
/-- Serves what the command line asks for. -/
def main (arguments : List String) : IO UInt32 := do
  let arguments := arguments.map Text.ofString
  let around ← Program.surroundings arguments
  let report := CommandLine.run Program.name arguments around (.ok ())
  if report.helped then IO.print Program.help
  IO.eprint (Program.shown report.errors)
  Program.writeLog report.log
  match report.fault, report.status, configure arguments around with
  | some fault, _, _ => IO.eprintln (Program.shown fault.message)
  | none, none, .ok c =>
    match c.site with
    | .ok site => Program.answerAll site c.level (← IO.getStdin)
    | .error _ => pure ()
  | _, _, _ => pure ()
  return UInt32.ofNat report.exitCode
