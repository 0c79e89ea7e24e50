import Turnstile.Codec.Usual
import Turnstile.Proofs.Secrecy

namespace Turnstile

/-!
# The audit of failed attempts

Whoever reads the log from the level of warnings on finds there what has been rejected.

* `Trace.calls`, `Gate.blamed?` — the calls of authenticators in a trace, and the warning that one
  of them gives rise to;
* `Gate.Discreet` — a gate whose parties write no warnings of their own, as is that of a store with
  a challenge;
* `due`, `Trace.Accounted` — the warnings to be expected for the events of a trace, and a trace that
  calls known gates only and holds these warnings and no others;
* `Gate.accounts_evaluate`, `Layer.accountsWay_descend`, `Stack.accountsWay_descendFrom` — a
  decision and the way in through a layer and a stack are accounted for;
* `Stack.warnings_of_run` — **every failed attempt is audited once**.
-/

/-! ### Calls and warnings -/

/-- The gate that put credentials to its authenticator in an event, by its number, and the
    credentials. -/
def Event.call? : Event → Option (Nat × Credentials)
  | .consulted number c => some (number, c)
  | _ => none

/-- The calls of authenticators in a trace, in order. -/
def Trace.calls (t : Trace) : List (Nat × Credentials) := t.filterMap Event.call?

namespace Trace

theorem calls_append (t t' : Trace) : calls (t ++ t') = calls t ++ calls t' :=
  List.filterMap_append

/-- Writing to the log calls nobody. -/
@[simp] theorem calls_logged (entries : List LogEntry) : calls (entries.map .logged) = [] := by
  induction entries with
  | nil => rfl
  | cons e es ih => exact ih

/-- Nor does sending messages. -/
@[simp] theorem calls_sent (messages : List Http.Message) : calls (messages.map .sent) = [] := by
  induction messages with
  | nil => rfl
  | cons m ms ih => exact ih

end Trace

namespace Gate

/-- Asking an authenticator is one call. -/
theorem calls_asking (g : Gate) (number : Nat) (c : Credentials) :
    Trace.calls (g.asking number c) = [(number, c)] :=
  congrArg ((number, c) :: ·) (Trace.calls_logged _)

/-- A call of an entry point is none of an authenticator. -/
theorem calls_delegation (g : Gate) (number : Nat) (request : Request) (r : Rejection) :
    Trace.calls (g.delegation number request r) = [] := by
  unfold delegation
  rw [Trace.calls_append, Trace.calls_sent, List.append_nil]
  exact Trace.calls_logged _

end Gate

/-- The warning about the reply of an authenticator, if it is a rejection. -/
def Gate.blame? (path username : Text) : Except Fault (Option Identity) → Option LogEntry
  | .error (.rejected r) =>
    some ⟨.warning, .gate,
      "Authentication failed for " ++ path ++ ": " ++ r.message ++ " (user '" ++ username ++
        "', " ++ r.kind.name ++ ")", none⟩
  | _ => none

/-- The warning about a call of the authenticator of a gate, if the credentials are rejected. -/
def Gate.blamed? (g : Gate) (path : Text) (c : Credentials) : Option LogEntry :=
  blame? path c.username (g.authenticator.answer c).reply

/-- The gate of a layer. -/
def Layer.gate? : Layer → Option Gate
  | .gate g => some g
  | _ => none

/-- The gates of a stack, the outermost first. -/
def Stack.gates (stack : Stack) : List Gate := stack.filterMap Layer.gate?

/-- The warnings to be expected for an event at one of some gates: those that the authenticator or
    the entry point writes when it is called, and the one about a rejection. -/
def due (gates : List Gate) (request : Request) : Event → List LogEntry
  | .consulted number c =>
    match gates[number]? with
    | none => []
    | some g =>
      atLeast .warning (g.authenticator.answer c).log ++ (g.blamed? request.pathText c).toList
  | .delegated number r =>
    match gates[number]? with
    | none => []
    | some g => atLeast .warning (g.entryPoint.commence request (some (.rejected r))).log
  | _ => []

/-- A gate whose authenticator and entry point write no warnings. -/
structure Gate.Discreet (g : Gate) : Prop where
  authenticator : ∀ c, atLeast .warning (g.authenticator.answer c).log = []
  entryPoint : ∀ request cause, atLeast .warning (g.entryPoint.commence request cause).log = []

/-- A gate that looks into a store and answers rejected requests with a challenge. -/
theorem Gate.discreet_of_store (s : Store) (challenge : Challenge) (ignoreFailure : Bool)
    (charset : Text) (registry : Registry) :
    Discreet ⟨s.authenticator, challenge.entryPoint, ignoreFailure, charset, registry⟩ where
  authenticator := by
    intro c
    show atLeast .warning (s.note c.username) = []
    unfold Store.note
    split <;> rfl
  entryPoint := by
    intro request cause
    show atLeast .warning (challenge.entryPoint.commence request cause).log = []
    rw [challenge.log_commence]
    rfl

theorem due_consulted {gates : List Gate} {number : Nat} {g : Gate} (h : gates[number]? = some g)
    (request : Request) (c : Credentials) :
    due gates request (.consulted number c) =
      atLeast .warning (g.authenticator.answer c).log ++ (g.blamed? request.pathText c).toList := by
  simp only [due, h]

theorem due_delegated {gates : List Gate} {number : Nat} {g : Gate} (h : gates[number]? = some g)
    (request : Request) (r : Rejection) :
    due gates request (.delegated number r) =
      atLeast .warning (g.entryPoint.commence request (some (.rejected r))).log := by
  simp only [due, h]

theorem atLeast_append (level : Level) (log later : List LogEntry) :
    atLeast level (log ++ later) = atLeast level log ++ atLeast level later :=
  List.filter_append ..

/-! ### Traces that are accounted for -/

section

variable {gates : List Gate} {request : Request}

/-- A trace with calls of known gates only, in which the warnings are those to be expected for its
    events. -/
structure Trace.Accounted (gates : List Gate) (request : Request) (t : Trace) : Prop where
  known : ∀ call ∈ t.calls, call.1 < gates.length
  warnings : atLeast .warning (Trace.log t) = t.flatMap (due gates request)

namespace Trace

theorem accounted_nil : Accounted gates request [] where
  known := List.forall_mem_nil _
  warnings := rfl

theorem Accounted.append {t t' : Trace} (h : t.Accounted gates request)
    (h' : t'.Accounted gates request) : Accounted gates request (t ++ t') where
  known := by
    rw [calls_append]
    exact List.forall_mem_append.2 ⟨h.known, h'.known⟩
  warnings := by
    rw [log_append, atLeast_append, List.flatMap_append, h.warnings, h'.warnings]

/-- No warnings are to be expected for entries of the log. -/
theorem flatMap_due_logged (entries : List LogEntry) :
    (entries.map Event.logged).flatMap (due gates request) = [] := by
  induction entries with
  | nil => rfl
  | cons e es ih => exact ih

theorem flatMap_due_sent (messages : List Http.Message) :
    (messages.map Event.sent).flatMap (due gates request) = [] := by
  induction messages with
  | nil => rfl
  | cons m ms ih => exact ih

/-- Entries that are no warnings need not be expected. -/
theorem accounted_logged (entries : List LogEntry) (h : atLeast .warning entries = []) :
    Accounted gates request (entries.map .logged) where
  known := by
    rw [calls_logged]
    exact List.forall_mem_nil _
  warnings := by
    rw [log_logged, h, flatMap_due_logged]

/-- For gates whose parties write no warnings of their own, only calls give rise to warnings. -/
theorem flatMap_due_of_discreet (h : ∀ g ∈ gates, g.Discreet) (t : Trace) :
    t.flatMap (due gates request) =
      t.calls.filterMap fun call =>
        gates[call.1]?.bind fun g => g.blamed? request.pathText call.2 := by
  -- event by event: only a call can give rise to a warning, and to one at most
  have hdue : ∀ e, due gates request e =
      (e.call?.bind fun call =>
        gates[call.1]?.bind fun g => g.blamed? request.pathText call.2).toList := by
    intro e
    cases e with
    | consulted number c =>
      show due gates request (.consulted number c) =
        (gates[number]?.bind fun g => g.blamed? request.pathText c).toList
      cases hg : gates[number]? with
      | none => simp only [due, hg, Option.bind_none, Option.toList_none]
      | some g =>
        rw [due_consulted hg, (h g (List.mem_of_getElem? hg)).authenticator c]
        rfl
    | delegated number r =>
      show due gates request (.delegated number r) = []
      cases hg : gates[number]? with
      | none => simp only [due, hg]
      | some g =>
        rw [due_delegated hg]
        exact (h g (List.mem_of_getElem? hg)).entryPoint request _
    | _ => rfl
  unfold calls
  rw [List.filterMap_filterMap, List.filterMap_eq_flatMap_toList]
  exact List.flatMap_congr fun e _ => hdue e

end Trace

/-! ### Gates that are accounted for -/

namespace Gate

variable {g : Gate} {number : Nat}

/-- An authenticator is asked, and what is written then is the warning about it if there is one. -/
theorem accounted_asking (h : gates[number]? = some g) {c : Credentials} (entries : List LogEntry)
    (hentries : atLeast .warning entries = (g.blamed? request.pathText c).toList) :
    Trace.Accounted gates request (g.asking number c ++ entries.map .logged) := by
  have hdue : (g.asking number c).flatMap (due gates request) =
      due gates request (.consulted number c) := by
    unfold asking
    rw [List.flatMap_cons, List.flatMap_cons, Trace.flatMap_due_logged, List.append_nil]
    rfl
  have hlog : atLeast .warning (Trace.log (g.asking number c)) =
      atLeast .warning (g.authenticator.answer c).log := by
    rw [log_asking]
    rfl
  refine ⟨?_, ?_⟩
  · rw [Trace.calls_append, calls_asking, Trace.calls_logged, List.append_nil]
    exact List.forall_mem_singleton.2 (List.getElem?_eq_some_iff.1 h).1
  · rw [Trace.log_append, Trace.log_logged, atLeast_append, hlog, hentries, List.flatMap_append,
      Trace.flatMap_due_logged, List.append_nil, hdue, due_consulted h]

/-- A request is handed to the entry point, which may write warnings of its own. -/
theorem accounted_delegation (h : gates[number]? = some g) (r : Rejection) :
    Trace.Accounted gates request (g.delegation number request r) := by
  have hdue : (g.delegation number request r).flatMap (due gates request) =
      due gates request (.delegated number r) := by
    unfold delegation
    rw [List.flatMap_append, Trace.flatMap_due_sent, List.append_nil, List.flatMap_cons,
      List.flatMap_cons, Trace.flatMap_due_logged, List.append_nil]
    rfl
  refine ⟨?_, ?_⟩
  · rw [calls_delegation]
    exact List.forall_mem_nil _
  · rw [log_delegation, hdue, due_delegated h]
    rfl

end Gate

end

/-! ### Machines that are accounted for -/

/-- A machine that comes from another one on a way that is accounted for. -/
structure Machine.Accounts (gates : List Gate) (m m' : Machine) : Prop where
  request : m'.session.request = m.session.request
  trace : ∃ events, m'.session.trace = m.session.trace ++ events ∧
    Trace.Accounted gates m.session.request events

/-- A way in that is accounted for, up to its own end or to where it leads. -/
def Machine.AccountsWay (gates : List Gate) (m : Machine) : Except Ending Machine → Prop
  | .error ending => m.Accounts gates ending.2
  | .ok m' => m.Accounts gates m'

section

variable {gates : List Gate} {m m' m'' : Machine}

namespace Machine

theorem accounts_of_trace (hrequest : m'.session.request = m.session.request)
    (htrace : m'.session.trace = m.session.trace) : m.Accounts gates m' :=
  ⟨hrequest, [], htrace.trans (List.append_nil _).symm, Trace.accounted_nil⟩

theorem Accounts.refl (m : Machine) : m.Accounts gates m :=
  accounts_of_trace rfl rfl

theorem Accounts.trans (h : m.Accounts gates m') (h' : m'.Accounts gates m'') :
    m.Accounts gates m'' := by
  obtain ⟨hrequest, events, htrace, hevents⟩ := h
  obtain ⟨hrequest', later, htrace', hlater⟩ := h'
  rw [hrequest] at hlater
  refine ⟨hrequest'.trans hrequest, events ++ later, ?_, hevents.append hlater⟩
  rw [htrace', htrace, List.append_assoc]

theorem accounts_tell {events : Trace} (h : events.Accounted gates m.session.request) :
    m.Accounts gates (m.tell events) :=
  ⟨rfl, events, rfl, h⟩

theorem accounts_putBound (m : Machine) (slot : Option Identity) :
    m.Accounts gates (m.putBound slot) :=
  accounts_of_trace (congrArg Session.request (m.putBound_session slot))
    (congrArg Session.trace (m.putBound_session slot))

theorem accountsWay_opened (m : Machine) : m.AccountsWay gates m.opened := by
  unfold opened
  split
  · exact accounts_of_trace rfl rfl
  · exact .refl m

/-- A way in is accounted for if each of its stretches is. -/
theorem AccountsWay.bind {way : Except Ending Machine} {next : Machine → Except Ending Machine}
    (h : m.AccountsWay gates way) (hnext : ∀ m' : Machine, m'.AccountsWay gates (next m')) :
    m.AccountsWay gates (way >>= next) := by
  cases way with
  | error ending => exact h
  | ok m' =>
    have hfirst : m.Accounts gates m' := h
    have hrest := hnext m'
    show m.AccountsWay gates (next m')
    cases hway : next m' with
    | error ending =>
      rw [hway] at hrest
      exact hfirst.trans hrest
    | ok m'' =>
      rw [hway] at hrest
      exact hfirst.trans hrest

end Machine

/-! ### The way in -/

namespace Gate

variable {g : Gate} {number : Nat}

/-- **A decision is accounted for.** -/
theorem accounts_evaluate (h : gates[number]? = some g) (m : Machine) :
    m.Accounts gates ((g.evaluate number m.session.request.authorization
      m.session.request.pathText).run m).2 := by
  cases hfound : m.shared.contexts.current m.session.binding with
  | some identity =>
    rw [run_evaluate_of_filled (by rw [hfound]; rfl)]
    exact Machine.accounts_tell (Trace.accounted_logged [skipping _] rfl)
  | none =>
    rw [run_evaluate_of_empty hfound]
    rcases Credentials.read g.registry g.charset m.session.request.authorization with e | skip | c
    · exact .refl m
    · refine Machine.accounts_tell (Trace.accounted_logged _ ?_)
      cases skip <;> rfl
    · -- what is told before and after the reply is settled is accounted for together
      have hsettled : ∀ slot (entries : List LogEntry),
          atLeast .warning entries = (g.blamed? m.session.request.pathText c).toList →
          m.Accounts gates
            (((m.tell (g.asking number c)).putBound slot).tell (entries.map .logged)) := by
        intro slot entries hentries
        have hsession := (m.tell (g.asking number c)).putBound_session slot
        have hrequest := congrArg Session.request hsession
        refine ⟨hrequest, _, ?_, accounted_asking h entries hentries⟩
        show (Machine.putBound _ slot).session.trace ++ _ = _
        rw [hsession]
        exact List.append_assoc ..
      -- other replies leave everything as the authenticator has left it
      have hkept : g.blamed? m.session.request.pathText c = none →
          m.Accounts gates (m.tell (g.asking number c)) := by
        intro hnone
        have hasking : Trace.Accounted gates m.session.request (g.asking number c ++ []) :=
          accounted_asking h [] (by rw [hnone]; rfl)
        rw [List.append_nil] at hasking
        exact Machine.accounts_tell hasking
      dsimp only
      rw [run_attempt, run_settle]
      unfold blamed? at hsettled hkept
      generalize (g.authenticator.answer c).reply = reply at hsettled hkept
      rcases reply with fault | _ | identity
      · cases fault with
        | rejected r => exact hsettled none [warning _ _ r] rfl
        | _ => exact hkept rfl
      · exact hkept rfl
      · exact hsettled (some identity) [success _] rfl

theorem accountsWay_descend (h : gates[number]? = some g) (m : Machine) :
    m.AccountsWay gates (g.descend number m) := by
  have hevaluate := accounts_evaluate h m
  unfold descend
  rw [Machine.view_request]
  dsimp only
  generalize (g.evaluate number m.session.request.authorization
    m.session.request.pathText).run m = result at hevaluate
  obtain ⟨decision, after⟩ := result
  rcases decision with fault | (_ | _ | ⟨_ | _, _, r⟩)
  · exact hevaluate
  · exact hevaluate
  · exact hevaluate
  · show m.Accounts gates ((g.delegate number m.session.request r).run after).2
    rw [run_delegate]
    refine hevaluate.trans (Machine.accounts_tell ?_)
    rw [hevaluate.request]
    exact accounted_delegation h r
  · exact hevaluate

end Gate

/-- The way in through a layer is accounted for if the gate that it may be is known. -/
theorem Layer.accountsWay_descend {layer : Layer} {number : Nat}
    (h : ∀ g, layer.gate? = some g → gates[number]? = some g) (m : Machine) :
    m.AccountsWay gates (layer.descend number m) := by
  unfold Layer.descend
  cases layer with
  | boundary =>
    dsimp only
    split_ifs
    · exact .refl m
    · exact m.accountsWay_opened
    · exact .refl m
  | assign identity =>
    dsimp only
    split_ifs
    · cases identity with
      | none => exact .refl m
      | some i => exact m.accounts_putBound (some i)
    · exact .refl m
  | gate g =>
    have hgate := fun m => Gate.accountsWay_descend (h g rfl) m
    dsimp only
    split_ifs
    · exact .refl m
    · exact hgate m
    · exact m.accountsWay_opened.bind hgate
    · exact .refl m

/-- **The way in through a stack is accounted for**, if its gates are those that are known from some
    number on. -/
theorem Stack.accountsWay_descendFrom {number : Nat} {stack : Stack}
    (h : gates.drop number = stack.gates) (m : Machine) :
    m.AccountsWay gates (descendFrom number stack m) := by
  -- the gates of the rest of the stack are those that are known behind the first layer
  induction stack generalizing number m with
  | nil => exact .refl m
  | cons layer layers ih =>
    unfold descendFrom
    cases hgate : layer.gate? with
    | none =>
      have hafter : layer.after number = number := by
        cases layer with
        | gate g => cases hgate
        | _ => rfl
      rw [Stack.gates, List.filterMap_cons_none hgate] at h
      rw [hafter]
      exact (Layer.accountsWay_descend (by simp [hgate]) m).bind (ih h)
    | some g =>
      have hafter : layer.after number = number + 1 := by
        cases layer with
        | gate g => rfl
        | _ => cases hgate
      rw [Stack.gates, List.filterMap_cons_some hgate] at h
      have hnumber : gates[number]? = some g := by
        rw [← List.head?_drop, h]
        rfl
      have hrest : gates.drop (number + 1) = Stack.gates layers := by
        rw [← List.tail_drop, h]
        rfl
      rw [hafter]
      refine (Layer.accountsWay_descend (fun g' hg' => ?_) m).bind (ih hrest)
      rw [hnumber, ← hgate, hg']

end

/-! ### The log of a run -/

/-- **Every failed attempt is audited once.**  A request has gone into a stack and either has come
    to an end there, whatever the application is, or has come to the application.  In what it has
    left in its trace by then, only authenticators of gates of the stack are called.  The entries
    from the level of warnings on are those that authenticators and entry points have written
    themselves when they were called, and for each call of an authenticator that has rejected the
    credentials one entry of the gate, which tells the path of the request, the words and the kind
    of the rejection, and the username.  If the parties of the gates write no warnings of their own,
    there are these entries alone, in the order of the calls. -/
theorem Stack.warnings_of_run (stack : Stack) (m : Machine) :
    ∃ own : Trace,
      ((∀ app, ((stack.flow app).run m).2.session.trace = m.session.trace ++ own) ∨
        ∃ m' : Machine, m'.session.trace = m.session.trace ++ own ∧
          ∀ app, Ending.report ((stack.flow app).run m) = Ending.report (app.run m')) ∧
      (∀ call ∈ own.calls, call.1 < stack.gates.length) ∧
      atLeast .warning (Trace.log own) = own.flatMap (due stack.gates m.session.request) ∧
      ((∀ g ∈ stack.gates, g.Discreet) → atLeast .warning (Trace.log own) =
        own.calls.filterMap fun call =>
          stack.gates[call.1]?.bind fun g => g.blamed? m.session.request.pathText call.2) := by
  have hway : m.AccountsWay stack.gates (descendFrom 0 stack m) := accountsWay_descendFrom rfl m
  have hreport := fun app => stack.report_run_flow app m
  unfold descend at hreport
  cases hdescend : descendFrom 0 stack m with
  | error ending =>
    rw [hdescend] at hway hreport
    obtain ⟨-, own, htrace, hown⟩ := hway
    refine ⟨own, .inl fun app => ?_, hown.known, hown.warnings, fun hdiscreet => ?_⟩
    · exact (congrArg Prod.snd (hreport app)).trans htrace
    · exact hown.warnings.trans (Trace.flatMap_due_of_discreet hdiscreet own)
  | ok m' =>
    rw [hdescend] at hway hreport
    obtain ⟨-, own, htrace, hown⟩ := hway
    refine ⟨own, .inr ⟨m', htrace, hreport⟩, hown.known, hown.warnings, fun hdiscreet => ?_⟩
    exact hown.warnings.trans (Trace.flatMap_due_of_discreet hdiscreet own)

/-- A gate that locks rod out, with a kind of rejection of its own, and lets the request go on, one
    that does not know rod and lets it go on too, and one that lets rod in; then the application
    fails. -/
theorem Stack.warnings_of_run_rod :
    let bytes (text : Text) : List UInt8 := text.toList.map fun c => UInt8.ofNat c.toNat
    let challenge : Challenge := ⟨"Zoo", by decide⟩
    let locked : Fault := .rejected ⟨.derived "LockedError" .accountStatus, "Locked out", none⟩
    let locking : Authenticator := .ofRules true [("rod", .error locked)] (.ok none)
    let empty : Store := .empty true
    let store := (Store.empty true).put ⟨"rod", "koala", [], true⟩
    let stack : Stack :=
      [.boundary, .gate ⟨locking, challenge.entryPoint, true, "utf-8", .usual⟩,
        .gate ⟨empty.authenticator, challenge.entryPoint, true, "utf-8", .usual⟩,
        .gate ⟨store.authenticator, challenge.entryPoint, false, "utf-8", .usual⟩]
    let request : Request :=
      { type := some (.text "http"), path := some (.text "/p"),
        headers := some [⟨bytes "authorization", bytes "Basic cm9kOmtvYWxh"⟩] }
    let app := script [.fail (.foreign .runtime "koala")]
    let ending := (stack.flow app).run (.start ⟨request, none⟩)
    let c : Credentials := ⟨"rod", "koala"⟩
    ending.1 = .error (.foreign .runtime "koala") ∧
      ending.2.session.trace.calls = [(0, c), (1, c), (2, c)] ∧
      (atLeast .warning (Trace.log ending.2.session.trace)).map (·.message) =
        ["Authentication failed for /p: Locked out (user 'rod', LockedError)",
          "Authentication failed for /p: Bad credentials (user 'rod', UsernameNotFoundError)"] := by
  intro bytes challenge locked locking empty store stack request app ending c
  have hdiscreet : ∀ g ∈ stack.gates, g.Discreet := by
    show ∀ g ∈ [_, _, _], Gate.Discreet g
    simp only [List.forall_mem_cons]
    exact ⟨⟨fun _ => rfl, (Gate.discreet_of_store empty challenge true "utf-8" .usual).entryPoint⟩,
      Gate.discreet_of_store empty challenge true "utf-8" .usual,
      Gate.discreet_of_store store challenge false "utf-8" .usual, nofun⟩
  obtain ⟨hfailed, hcalls⟩ : ending.1 = .error (.foreign .runtime "koala") ∧
      ending.2.session.trace.calls = [(0, c), (1, c), (2, c)] := by decide +kernel
  obtain ⟨own, htrace, -, -, hwarnings⟩ := Stack.warnings_of_run stack (.start ⟨request, none⟩)
  have hown : ending.2.session.trace = own := by
    dsimp only [ending]
    rcases htrace with hended | ⟨m', htrace, hreached⟩
    · rw [hended app]
      rfl
    · -- the application fails before it leaves anything in the trace
      obtain ⟨-, hreached⟩ := Prod.mk.inj (hreached app)
      rw [hreached]
      exact htrace
  rw [← hown] at hwarnings
  rw [hwarnings hdiscreet, hcalls]
  exact ⟨hfailed, rfl, by decide +kernel⟩

end Turnstile
