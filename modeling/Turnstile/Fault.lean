import Turnstile.Charset
import Turnstile.UserMap

namespace Turnstile

/-!
# Rejections and faults

* `Rejection` — an authenticator's refusal of a pair of credentials, of one of five kinds or of a
  kind of the authenticator's own;
* `Fault` — everything that can go wrong, by cause;
* `Fault.kind`, `Fault.Kind.isA` — the kind of a fault, and the order of the kinds;
* `Fault.message` — a fault in words.
-/

/-! ### Rejections -/

/-- The kinds of rejection. -/
inductive Rejection.Kind
  /-- Any rejection. -/
  | authentication
  /-- The password does not match. -/
  | badCredentials
  /-- No account has the name. -/
  | usernameNotFound
  /-- The account may not be used. -/
  | accountStatus
  /-- The account is disabled. -/
  | disabled
  /-- A kind of an authenticator's own, which belongs to another kind. -/
  | derived (name : Text) (base : Rejection.Kind)
  deriving DecidableEq, Repr

/-- The name of a kind of rejection in the log. -/
def Rejection.Kind.name : Rejection.Kind → Text
  | .authentication => "AuthenticationError"
  | .badCredentials => "BadCredentialsError"
  | .usernameNotFound => "UsernameNotFoundError"
  | .accountStatus => "AccountStatusError"
  | .disabled => "DisabledError"
  | .derived name _ => name

/-- The refusal of a pair of credentials: a reason that may be shown to the client, and the name
    that was tried, if it is known. -/
structure Rejection where
  kind : Rejection.Kind
  message : Text
  username : Option Text := none
  deriving DecidableEq, Repr

/-! ### Faults -/

/-- Kinds of fault that parties outside this library bring in with words of their own. -/
inductive Fault.Foreign
  | configuration
  | runtime
  | value
  | lookup
  | unicode
  | system
  deriving DecidableEq, Repr

/-- The name of such a kind. -/
def Fault.Foreign.name : Fault.Foreign → Text
  | .configuration => "ConfigurationError"
  | .runtime => "RuntimeError"
  | .value => "ValueError"
  | .lookup => "LookupError"
  | .unicode => "UnicodeError"
  | .system => "OSError"

/-- How a value can be missing. -/
inductive Fault.Blank
  /-- None was given. -/
  | null
  /-- It was left out of the option that sets it. -/
  | empty
  deriving DecidableEq, Repr

/-- What is found in the place of a missing value. -/
def Fault.Blank.name : Fault.Blank → Text
  | .null => "NoneType"
  | .empty => "list"

/-- Everything that can go wrong. -/
inductive Fault
  /-- Credentials were refused. -/
  | rejected (rejection : Rejection)
  /-- A gate was set up without an authenticator. -/
  | noAuthenticator
  /-- A gate was set up without an entry point. -/
  | noEntryPoint
  /-- A challenge was set up without a realm. -/
  | noRealm
  /-- A request was to be answered for a cause that has nothing to say to the client. -/
  | wordlessCause (kind : Fault.Foreign)
  /-- A gate was set up with an empty charset label. -/
  | emptyCharset
  /-- A gate was set up with a label that names nothing. -/
  | unknownCharset (label : Text)
  /-- A label does not serve to read or write text. -/
  | label (error : Charset.LabelError)
  /-- A text has characters that its charset lacks. -/
  | unencodable (error : Charset.Unencodable)
  /-- Bytes are not UTF-8. -/
  | notUtf8 (error : Charset.Utf8.Malformed)
  /-- A user map has a faulty line. -/
  | userMap (error : UserMap.LineError)
  /-- An account has no name. -/
  | emptyUsername
  /-- A slot was to be filled with nothing. -/
  | noIdentity
  /-- A request does not say of what type it is. -/
  | missingType
  /-- A context was to be held where the state of a scope should be and is nothing. -/
  | nullState
  /-- A request of a type that no route serves has reached the routes. -/
  | unservedType
  /-- The address of a server was to be written in a scheme that stands for no port. -/
  | unknownScheme (scheme : Text)
  /-- A server was to listen on no host. -/
  | emptyHost
  /-- A server was to listen on a port outside the range. -/
  | portOutOfRange (port : Int)
  /-- A server was to listen on no port. -/
  | noPort (blank : Fault.Blank)
  /-- The users file was to be looked up without a path. -/
  | noUsersFile
  /-- A log level was to be looked up without a name. -/
  | noLogLevel
  /-- A server was to be configured without a log level. -/
  | noServerLevel
  /-- A fault from outside, in its own words. -/
  | foreign (kind : Fault.Foreign) (message : Text)
  /-- The program is asked to end with an exit code. -/
  | exit (code : Nat)
  /-- The program is interrupted by the one who runs it. -/
  | interrupted
  deriving DecidableEq, Repr

/-! ### Kinds -/

/-- The kinds of fault that callers tell apart. -/
inductive Fault.Kind
  | rejection (kind : Rejection.Kind)
  | configuration
  | value
  | lookup
  | unicode
  | unencodable
  | undecodable
  | runtime
  | system
  | key
  | type
  | attribute
  | assertion
  | exit
  | interrupt
  deriving DecidableEq, Repr

/-- The kind of a fault. -/
def Fault.kind : Fault → Fault.Kind
  | .rejected r => .rejection r.kind
  | .noAuthenticator | .noEntryPoint | .noRealm | .emptyCharset => .configuration
  | .unknownCharset _ => .configuration
  | .label .nullCharacter => .value
  | .label (.missing _) => .type
  | .label _ => .lookup
  | .unencodable _ => .unencodable
  | .notUtf8 _ => .undecodable
  | .userMap _ | .emptyUsername | .noIdentity | .emptyHost | .portOutOfRange _ => .value
  | .missingType | .unknownScheme _ => .key
  | .nullState | .noPort _ | .noLogLevel => .type
  | .noUsersFile | .noServerLevel | .wordlessCause _ => .attribute
  | .unservedType => .assertion
  | .foreign .configuration _ => .configuration
  | .foreign .runtime _ => .runtime
  | .foreign .value _ => .value
  | .foreign .lookup _ => .lookup
  | .foreign .unicode _ => .unicode
  | .foreign .system _ => .system
  | .exit _ => .exit
  | .interrupted => .interrupt

/-- The kinds that a kind of rejection belongs to, itself included. -/
def Rejection.Kind.lineage : Rejection.Kind → List Rejection.Kind
  | .authentication => [.authentication]
  | .badCredentials => [.badCredentials, .authentication]
  | .usernameNotFound => [.usernameNotFound, .badCredentials, .authentication]
  | .accountStatus => [.accountStatus, .authentication]
  | .disabled => [.disabled, .accountStatus, .authentication]
  | .derived name base => .derived name base :: base.lineage

/-- The kinds that a kind belongs to, itself included: a bad configuration, a text that can not be
    written and bytes that can not be read are bad values, and a missing key is a failed look-up. -/
def Fault.Kind.lineage : Fault.Kind → List Fault.Kind
  | .rejection k => k.lineage.map .rejection
  | .configuration => [.configuration, .value]
  | .unicode => [.unicode, .value]
  | .unencodable => [.unencodable, .unicode, .value]
  | .undecodable => [.undecodable, .unicode, .value]
  | .key => [.key, .lookup]
  | k => [k]

/-- Whether a fault of the first kind is also one of the second. -/
def Fault.Kind.isA (k l : Fault.Kind) : Bool :=
  k.lineage.contains l

/-- A fault that the program may recover from; being asked to end and being interrupted are none. -/
def Fault.isOrdinary (f : Fault) : Bool :=
  match f with
  | .exit _ | .interrupted => false
  | _ => true

/-! ### Words -/

/-- A fault in words. -/
def Fault.message : Fault → Text
  | .rejected r => r.message
  | .noAuthenticator => "An authenticator is required"
  | .noEntryPoint => "An entry point is required"
  | .noRealm => "realm_name must be specified"
  | .wordlessCause kind => "'" ++ kind.name ++ "' object has no attribute 'message'"
  | .emptyCharset => "credentials_charset must not be empty"
  | .unknownCharset name => "Unknown credentials_charset: " ++ Text.quoted name
  | .label e => e.message
  | .unencodable e => e.message
  | .notUtf8 e => e.message
  | .userMap e => e.message
  | .emptyUsername => "username must not be empty"
  | .noIdentity => "identity must not be None; use clear() instead"
  | .missingType => "'type'"
  | .unknownScheme scheme => Text.quoted scheme
  | .emptyHost => "host must not be empty"
  | .portOutOfRange port => "port must be in range 1-65535, got " ++ Text.ofInt port
  | .nullState => "'NoneType' object does not support item assignment"
  | .unservedType => ""
  | .noPort blank =>
    "'<' not supported between instances of '" ++ blank.name ++ "' and 'int'"
  | .noUsersFile => "'list' object has no attribute 'is_file'"
  | .noLogLevel => "attribute name must be string, not 'list'"
  | .noServerLevel => "'NoneType' object has no attribute 'lower'"
  | .foreign _ message => message
  | .exit code => Text.ofNat code
  | .interrupted => ""

end Turnstile
