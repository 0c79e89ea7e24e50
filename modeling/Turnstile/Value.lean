import Turnstile.Decimal
import Turnstile.Text.Quoted

namespace Turnstile

/-!
# Values

The free-form data that an identity carries and that a response body holds.

* `Value` — null, truth values, numbers, texts, lists and records;
* `Dialect` — how such a value is spelled;
* `Value.write` — a value in a dialect;
* `Value.shown`, `Value.json` — the two dialects in use: inside messages, and in response bodies;
* `Value.plain` — a value in running text.
-/

/-- A free-form value. -/
inductive Value
  | null
  | bool (b : Bool)
  | int (n : Int)
  | real (x : Float)
  | text (s : Text)
  | list (items : List Value)
  | record (members : List (Text × Value))
  deriving Inhabited

/-- How values are spelled: the names of the constants, the form of a text, and what stands between
    the items of a list and between a name and its value. -/
structure Dialect where
  null : Text
  yes : Text
  no : Text
  text : Text → Text
  comma : Text
  colon : Text

/-- A list or record: its parts between brackets. -/
def Dialect.enclosed (d : Dialect) (left : Text) (parts : List Text) (right : Text) :
    Text :=
  left ++ d.comma.intercalate parts ++ right

mutual

/-- A value in a dialect. -/
def Value.write (d : Dialect) : Value → Text
  | .null => d.null
  | .bool true => d.yes
  | .bool false => d.no
  | .int n => Text.ofInt n
  | .real x => Decimal.ofFloat x
  | .text s => d.text s
  | .list items => d.enclosed "[" (Value.writeItems d items) "]"
  | .record members => d.enclosed "\x7b" (Value.writeMembers d members) "\x7d"

/-- The items of a list, each in a dialect. -/
def Value.writeItems (d : Dialect) : List Value → List Text
  | [] => []
  | v :: vs => v.write d :: Value.writeItems d vs

/-- The members of a record, each a name and a value in a dialect. -/
def Value.writeMembers (d : Dialect) : List (Text × Value) → List Text
  | [] => []
  | (name, v) :: members =>
    (d.text name ++ d.colon ++ v.write d) :: Value.writeMembers d members

end

/-- One character inside a JSON text. -/
def jsonChar (c : CodePoint) : List CodePoint :=
  if c = '"' || c = '\\' then ['\\', c]
  else if c = '\n' then ['\\', 'n']
  else if c = '\r' then ['\\', 'r']
  else if c = '\t' then ['\\', 't']
  else if c = '\x08' then ['\\', 'b']
  else if c = '\x0c' then ['\\', 'f']
  else if c.toNat < 0x20 then .char '\\' :: .char 'u' :: Text.hex 4 c.toNat
  else [c]

/-- A text in JSON: quote, backslash and controls are escaped, all else stands for itself. -/
def jsonText (s : Text) : Text :=
  Text.ofList (.char '"' :: s.toList.flatMap jsonChar ++ [.char '"'])

/-- The spelling used inside messages. -/
def Dialect.message : Dialect where
  null := "None"
  yes := "True"
  no := "False"
  text := Text.quoted
  comma := ", "
  colon := ": "

/-- JSON without any spaces. -/
def Dialect.json : Dialect where
  null := "null"
  yes := "true"
  no := "false"
  text := jsonText
  comma := ","
  colon := ":"

/-- A value as a message shows it. -/
def Value.shown (v : Value) : Text :=
  v.write .message

/-- A value in running text: a text as it stands, any other as a message shows it. -/
def Value.plain : Value → Text
  | .text s => s
  | v => v.shown

/-- A value as compact JSON. -/
def Value.json (v : Value) : Text :=
  v.write .json

/-- A group of texts as a message shows it: between parentheses, a single one followed by a
    comma. -/
def shownGroup (texts : List Text) : Text :=
  match texts with
  | [s] => "(" ++ Text.quoted s ++ ",)"
  | _ => Dialect.message.enclosed "(" (texts.map Text.quoted) ")"

end Turnstile
