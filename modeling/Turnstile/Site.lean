import Turnstile.Http.Host
import Turnstile.Stack

namespace Turnstile

/-!
# Sites

A site is an application whose routes sit behind Basic authentication.

* `Route` — which requests lead somewhere, and what happens to them there;
* `protection` — the layers that guard a site;
* `Site`, `Site.make` — the layers with the routes behind them;
* `Site.routing` — the course of a request through the routes;
* `Site.flow` — the course of a request through a site.
-/

/-! ### Routes -/

/-- Sends a response over HTTP, if there is one. -/
def Flow.reply (response : Except Fault Http.Response) : Flow Outcome :=
  match response with
  | .error fault => return .error fault
  | .ok r => do
    Flow.send (r.messages false)
    return .ok ()

/-- An event that is not in the name of the gate in front of all routes: that gate neither asks its
    authenticator nor hands a request to its entry point. -/
def Event.Uncalling (e : Event) : Prop :=
  e.consultation? 0 = none ∧ e.delegation? 0 = none

/-- To send a response is not to call anybody. -/
theorem Flow.uncalling_reply (response : Except Fault Http.Response) :
    (Flow.reply response).Acts (Action.Records Event.Uncalling) := by
  unfold Flow.reply
  cases response with
  | error fault => trivial
  | ok r => exact (Flow.acts_send (fun _ => ⟨rfl, rfl⟩) _).bind fun _ => trivial

/-- How a request fits a route. -/
inductive Fit
  | none
  /-- In all but its method. -/
  | partly
  | fully
  deriving DecidableEq, Repr

/-- Which requests lead to a route, and the course of those that have got there; nothing is done on
    it in the name of the gate. -/
structure Route where
  fit : Request → Fit
  handle : Flow Outcome
  uncalling : handle.Acts (Action.Records Event.Uncalling)

namespace Route

/-- The path leads to the place; a line feed at its end does not count. -/
def leadsTo (place path : Text) : Bool :=
  path == place || path == place ++ "\n"

/-- The methods of a request that only asks for something. -/
def isReading (method : Text) : Bool :=
  method == "GET" || method == "HEAD"

/-- The answer to a request that asks for more. -/
def refusal : Http.Response :=
  .notice 405 [("allow", "GET, HEAD")] "Method Not Allowed"

/-- A place that answers requests over HTTP by what they can see of their identity. -/
def atPlace (place : Text) (answer : Observation → Except Fault Http.Response) : Route where
  fit := fun r =>
    if r.hasType "http" && leadsTo place r.pathText then
      if isReading r.method then .fully else .partly
    else .none
  handle := do
    let v ← Flow.view
    Flow.reply (if isReading v.request.method then answer v.here else .ok refusal)
  uncalling := fun _ => Flow.uncalling_reply _

end Route

/-! ### The layers in front of routes -/

/-- The realm that is announced unless another is chosen. -/
def defaultRealm : Text := "basicauth-gate"

/-- The layers that guard a site: a boundary, and a gate inside it.  Without an entry point,
    rejected requests are answered with a challenge for the realm. -/
def protection (registry : Registry) (authenticator : Option Authenticator)
    (entryPoint : Option EntryPoint) (realm : Text) (ignoreFailure : Bool) :
    Except Fault Stack := do
  let entryPoint ← match entryPoint with
    | some e => pure e
    | none => Challenge.entryPoint <$> Challenge.ofRealm (some realm)
  let gate ← Gate.make registry authenticator (some entryPoint) ignoreFailure defaultCharset
  return [.boundary, .gate gate]

/-- Layers with routes behind them. -/
structure Site where
  stack : Stack
  routes : List Route

namespace Site

/-! ### The routes of every site -/

/-- Tells that the site is up. -/
def health : Route :=
  .atPlace "/health" fun _ => Http.Response.json (.record [("status", .text "ok")])

/-- An identity as it is reported to its owner. -/
def report (identity : Option Identity) : Value :=
  match identity with
  | none => .record [("authenticated", .bool false), ("id", .null), ("roles", .list [])]
  | some i => .record
      [("authenticated", .bool true), ("id", .text i.id), ("type", .text i.type),
       ("roles", .list (i.roles.map .text))]

/-- Tells who is making the request. -/
def whoami : Route :=
  .atPlace "/whoami" fun seen => Http.Response.json (report seen.identity)

/-- A site with further routes after its own two. -/
def make (registry : Registry) (authenticator : Option Authenticator)
    (entryPoint : Option EntryPoint) (realm : Text) (ignoreFailure : Bool) (routes : List Route) :
    Except Fault Site := do
  let stack ← protection registry authenticator entryPoint realm ignoreFailure
  return ⟨stack, health :: whoami :: routes⟩

/-! ### Finding the route -/

/-- The route of a request: the first that it fits, or else the first that it fits in all but its
    method. -/
def route? (site : Site) (r : Request) : Option Route :=
  (site.routes.find? fun route => route.fit r == .fully).or
    (site.routes.find? fun route => route.fit r == .partly)

/-- The path with all slashes at its end dropped, or with one added if there is none. -/
def otherPath (path : Text) : Text :=
  let reversed := path.toList.reverse
  if reversed.head? = some (.char '/') then
    Text.ofList (reversed.dropWhile (· == .char '/')).reverse
  else path ++ "/"

/-- The host that a request names in its first header of that name. -/
def host? (r : Request) : Option Text :=
  (((r.headers.getD []).find? fun h => Http.latin1 h.name == Text.toList "host").map
    Http.RawHeader.text).filter Http.isHost

/-- The address of the place of a path, on the host that a request names or else on the server that
    it has reached. -/
def place (r : Request) (path : Text) : Except Fault Text :=
  match host? r, r.server with
  | some host, _ => .ok (r.scheme ++ "://" ++ host ++ path)
  | none, none => .ok path
  | none, some server =>
    (server.text r.scheme).map fun server => r.scheme ++ "://" ++ server ++ path

/-- The address of a path with the query of a request, which must be UTF-8. -/
def address (r : Request) (path : Text) : Except Fault Text :=
  match place r path, Charset.Utf8.decode r.query with
  | .error fault, _ => .error fault
  | .ok _, .error e => .error (.notUtf8 e)
  | .ok base, .ok [] => .ok base
  | .ok base, .ok query => .ok (base ++ "?" ++ Text.ofList query)

/-- A request for another path. -/
def goingTo (r : Request) (path : Text) : Request :=
  { r with path := some (.text path) }

/-- The response to a request over HTTP that has no route: a pointer to the other path if that one
    leads somewhere. -/
def unrouted (site : Site) (r : Request) : Except Fault Http.Response := do
  let path := r.pathText
  let other := otherPath path
  if path ≠ "/" ∧ site.routes.any fun route => route.fit (goingTo r other) != .none then
    let location ← address r other
    return .redirect (← Http.percentEncoded location)
  else return .notice 404 [] "Not Found"

/-! ### The course of a request -/

/-- The course of a request through the routes.  Without a route a websocket is refused, startup and
    shutdown are confirmed, and requests of any other type than these are not served. -/
def routing (site : Site) : Flow Outcome := do
  let request := (← Flow.view).request
  if request.hasType "lifespan" then
    Flow.send [.startupComplete, .shutdownComplete]
    return .ok ()
  else if request.hasType "http" || request.hasType "websocket" then
    match site.route? request with
    | some route => route.handle
    | none =>
      if request.hasType "http" then Flow.reply (site.unrouted request)
      else
        Flow.send [.websocketClose 1000 ""]
        return .ok ()
  else return .error .unservedType

/-- The response to a request whose handling failed. -/
def failure : Http.Response :=
  .notice 500 [] "Internal Server Error"

/-- The handling of a request has failed in a way that can be told to the client. -/
def hasFailed : Outcome → Bool
  | .ok () => false
  | .error fault => fault.isOrdinary

/-- A stage whose fault, over HTTP, is answered if no response has been started; the fault comes out
    all the same. -/
def shielded (inner : Flow Outcome) : Flow Outcome := do
  let outcome ← inner
  let view ← Flow.view
  -- once a response has been started, no second one can be sent
  if view.request.hasType "http" && hasFailed outcome && !view.responded then
    Flow.send (failure.messages false)
  return outcome

/-- The course of a request through a site. -/
def flow (site : Site) : Flow Outcome :=
  shielded (Stack.flow site.stack site.routing)

end Site

end Turnstile
