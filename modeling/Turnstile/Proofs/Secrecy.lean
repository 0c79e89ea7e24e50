import Turnstile.Codec.Usual
import Turnstile.Proofs.Refusal
import Turnstile.Proofs.Residue
import Turnstile.Proofs.Store

namespace Turnstile

/-!
# What the log gives away

The log of a request at a gate says who has tried to log in and what came of it, and nothing about
the password.

* `Flow.Quiet` — an application that writes nothing to the log;
* `Layer.written` — what is written to the log while a request is at a layer;
* `Gate.entries`, `Layer.written_gate` — **the log of a gate**, entry by entry;
* `Store.reply_congr` — credentials with one name that end alike get the same reply, unless their
  passwords can not be written;
* `Gate.log_keeps_passwords` — **the log keeps passwords**: requests with one username that end
  alike leave the same log.
-/

/-! ### Writing to the log -/

/-- A machine that comes from another one with entries written to the log in between. -/
def Machine.Writes (m m' : Machine) (entries : List LogEntry) : Prop :=
  ∃ events, m'.session.trace = m.session.trace ++ events ∧ Trace.log events = entries

namespace Machine

variable {m m' m'' : Machine} {entries entries' : List LogEntry}

/-- Where the trace is left alone, nothing is written. -/
theorem writes_of_trace (h : m'.session.trace = m.session.trace) : m.Writes m' [] :=
  ⟨[], by rw [h, List.append_nil], rfl⟩

theorem writes_tell (m : Machine) (events : Trace) : m.Writes (m.tell events) (Trace.log events) :=
  ⟨events, rfl, rfl⟩

theorem writes_putBound (m : Machine) (slot : Option Identity) : m.Writes (m.putBound slot) [] :=
  writes_of_trace (congrArg Session.trace (m.putBound_session slot))

theorem Writes.trans (h : m.Writes m' entries) (h' : m'.Writes m'' entries') :
    m.Writes m'' (entries ++ entries') := by
  obtain ⟨events, htrace, hlog⟩ := h
  obtain ⟨later, htrace', hlog'⟩ := h'
  refine ⟨events ++ later, ?_, ?_⟩
  · rw [htrace', htrace, List.append_assoc]
  · rw [Trace.log_append, hlog, hlog']

end Machine

/-! ### Applications that write nothing -/

/-- A step that writes nothing to the log. -/
def Action.Quiet : Action → Prop
  | .record (.logged _) => False
  | _ => True

namespace Flow

/-- A flow that writes nothing to the log. -/
def Quiet {α : Type} (f : Flow α) : Prop :=
  f.Acts Action.Quiet

theorem Quiet.writes {α : Type} {f : Flow α} (h : f.Quiet) (m : Machine) :
    m.Writes (f.run m).2 [] := by
  have hrecords : f.Acts (Action.Records fun e => e.entry? = none) := by
    refine h.mono fun a ha => ?_
    cases a with
    | record e =>
      cases e with
      | logged entry => exact ha.elim
      | _ => rfl
    | _ => trivial
  obtain ⟨events, htrace, hevents⟩ := hrecords.exists_trace m
  exact ⟨events, htrace, List.filterMap_eq_nil_iff.2 hevents⟩

end Flow

/-- An application given as a list of what it does writes nothing to the log. -/
theorem quiet_script (deeds : List Deed) : (script deeds).Quiet := by
  refine acts_script (fun _ => trivial) trivial (fun e he => ?_) deeds
  cases e with
  | logged entry => nomatch he
  | _ => trivial

/-! ### The log of a gate -/

namespace Gate

/-- The entry of a header value with credentials. -/
def finding (username : Text) : LogEntry :=
  note ("Basic Authorization header found for user '" ++ username ++ "'")

/-- The entry of a request that is handed to the entry point. -/
def delegating (path : Text) : LogEntry :=
  ⟨.debug, .layer, "Delegating rejected request for " ++ path ++ " to entry point", none⟩

/-- The entry that the reply of the authenticator calls for. -/
def settlingEntries (path username : Text) : Except Fault (Option Identity) → List LogEntry
  | .error (.rejected r) => [warning path username r]
  | .ok (some _) => [success username]
  | _ => []

/-- The entries of an evaluation that finds a context filled or empty. -/
def evaluationEntries (g : Gate) (found : Option Identity) (header : Option Text)
    (path : Text) : List LogEntry :=
  match found with
  | some _ => [skipping path]
  | none =>
    match Credentials.read g.registry g.charset header with
    | .error _ => []
    | .ok (.error skip) => skip.note?.toList
    | .ok (.ok c) =>
      let answer := g.authenticator.answer c
      finding c.username :: answer.log ++ settlingEntries path c.username answer.reply

/-- The entries of a request that a decision hands to the entry point. -/
def delegationEntries (g : Gate) (request : Request) : Except Fault Decision → List LogEntry
  | .ok (.rejected false _ r) =>
    delegating request.pathText :: (g.entryPoint.commence request (some (.rejected r))).log
  | _ => []

/-- The entries of a request at a gate that finds a context filled or empty. -/
def entries (g : Gate) (found : Option Identity) (request : Request) : List LogEntry :=
  g.evaluationEntries found request.authorization request.pathText ++
    g.delegationEntries request (g.verdict found request.authorization)

theorem log_asking (g : Gate) (number : Nat) (c : Credentials) :
    Trace.log (g.asking number c) = finding c.username :: (g.authenticator.answer c).log :=
  congrArg (finding c.username :: ·) (Trace.log_logged _)

theorem log_delegation (g : Gate) (number : Nat) (request : Request) (r : Rejection) :
    Trace.log (g.delegation number request r) =
      delegating request.pathText :: (g.entryPoint.commence request (some (.rejected r))).log := by
  unfold delegation
  rw [Trace.log_append, Trace.log_sent, List.append_nil]
  exact congrArg (delegating request.pathText :: ·) (Trace.log_logged _)

theorem settle_writes (g : Gate) (path username : Text) (reply : Except Fault (Option Identity))
    (m : Machine) :
    m.Writes ((g.settle path username reply).run m).2 (settlingEntries path username reply) := by
  rw [run_settle]
  rcases reply with fault | _ | identity
  · cases fault with
    | rejected r => exact (m.writes_putBound none).trans (Machine.writes_tell _ _)
    | _ => exact Machine.writes_of_trace rfl
  · exact Machine.writes_of_trace rfl
  · exact (m.writes_putBound (some identity)).trans (Machine.writes_tell _ _)

theorem evaluate_writes (g : Gate) (number : Nat) (header : Option Text) (path : Text)
    (m : Machine) :
    m.Writes ((g.evaluate number header path).run m).2
      (g.evaluationEntries m.observation.identity header path) := by
  unfold evaluationEntries
  cases hfound : m.observation.identity with
  | some identity =>
    have hfilled : (m.shared.contexts.current m.session.binding).isSome :=
      Option.isSome_of_mem hfound
    rw [run_evaluate_of_filled hfilled]
    exact m.writes_tell [.logged (skipping path)]
  | none =>
    rw [run_evaluate_of_empty hfound]
    rcases Credentials.read g.registry g.charset header with e | skip | c
    · exact Machine.writes_of_trace rfl
    · have hnote := m.writes_tell (skip.note?.toList.map .logged)
      rwa [Trace.log_logged] at hnote
    · have hasked := m.writes_tell (g.asking number c)
      rw [log_asking] at hasked
      dsimp only
      rw [run_attempt]
      exact hasked.trans (g.settle_writes path c.username _ _)

/-- The entries of a request at a gate, in the context that is bound. -/
theorem descend_writes (g : Gate) (number : Nat) (m : Machine) {app : Flow Outcome}
    (happ : app.Quiet) :
    m.Writes (goOn (g.descend number m) app).2
      (g.entries m.observation.identity m.session.request) := by
  have hevaluate := g.evaluate_writes number m.session.request.authorization
    m.session.request.pathText m
  have hverdict := (g.evaluate_ends number m.session.request.authorization
    m.session.request.pathText m).1
  unfold descend
  rw [Machine.view_request]
  dsimp only
  generalize (g.evaluate number m.session.request.authorization
    m.session.request.pathText).run m = result at hevaluate hverdict
  obtain ⟨decision, after⟩ := result
  unfold entries
  rw [← hverdict]
  refine hevaluate.trans ?_
  rcases decision with fault | (_ | _ | ⟨_ | _, _, r⟩)
  · exact Machine.writes_of_trace rfl
  · exact happ.writes after
  · exact happ.writes after
  · show after.Writes ((g.delegate number m.session.request r).run after).2 _
    have hdelegation := after.writes_tell (g.delegation number m.session.request r)
    rw [log_delegation] at hdelegation
    rw [run_delegate]
    exact hdelegation
  · exact happ.writes after

end Gate

/-! ### The log of a layer -/

/-- What is written to the log while a request is at a layer. -/
def Layer.written (layer : Layer) (number : Nat) (app : Flow Outcome) (m : Machine) :
    List LogEntry :=
  Trace.log ((Ending.report ((layer.flow number app).run m)).2.drop m.session.trace.length)

/-- What a gate finds in the context in which it decides about a request, if it comes to that. -/
def Machine.foundAtGate (m : Machine) : Option (Option Identity) :=
  if m.session.request.hasType "http" then m.atGate.toOption.map (·.observation.identity) else none

/-- A request for which no context can be opened does not get any further. -/
theorem Machine.eq_of_atGate_error {m : Machine} {ending : Ending} (h : m.atGate = .error ending) :
    ending.2 = m := by
  unfold atGate opened at h
  split at h
  · nomatch h
  · split at h
    · nomatch h
    · rw [← Except.error.inj h]

/-- **The log of a gate.**  Around an application that writes nothing, a gate writes its own
    entries, if it comes to decide about the request at all. -/
theorem Layer.written_gate (g : Gate) (number : Nat) (m : Machine) {app : Flow Outcome}
    (happ : app.Quiet) :
    (Layer.gate g).written number app m =
      match m.foundAtGate with
      | none => []
      | some found => g.entries found m.session.request := by
  suffices h : m.Writes (goOn ((Layer.gate g).descend number m) app).2
      (match m.foundAtGate with
        | none => []
        | some found => g.entries found m.session.request) by
    obtain ⟨events, htrace, hlog⟩ := h
    unfold Layer.written
    rw [Layer.report_run_flow]
    show Trace.log (List.drop _ (goOn _ app).2.session.trace) = _
    rw [htrace, List.drop_left, hlog]
  unfold Machine.foundAtGate
  by_cases hhttp : m.session.request.hasType "http" = true
  · rw [Layer.descend_gate hhttp, if_pos hhttp]
    cases hat : m.atGate with
    | error ending =>
      exact Machine.writes_of_trace (congrArg (·.session.trace) (Machine.eq_of_atGate_error hat))
    | ok m' =>
      obtain ⟨hrequest, htrace⟩ := Machine.atGate_session hat
      have hdescend := g.descend_writes number m' happ
      rw [hrequest] at hdescend
      exact (Machine.writes_of_trace htrace).trans hdescend
  · rw [if_neg hhttp]
    unfold Layer.descend
    dsimp only
    rw [Machine.view_request, if_neg hhttp]
    split
    · exact Machine.writes_of_trace rfl
    · exact happ.writes m

/-! ### The same log for all passwords -/

/-- What a challenge leaves in the log tells of the realm alone. -/
theorem Challenge.log_commence (c : Challenge) (request : Request) (cause : Option Cause) :
    (c.entryPoint.commence request cause).log = [c.note] := by
  unfold entryPoint
  dsimp only
  split <;> rfl

namespace Store

variable {s : Store} {c c' : Credentials}

/-- What there is to be said against credentials: nothing if they are accepted, and else that the
    user is unknown or disabled, that the password is wrong, or that it can not be written. -/
def objection? (s : Store) (c : Credentials) : Option Fault.Kind :=
  match s.check c with
  | .ok _ => none
  | .error fault => some fault.kind

/-- Credentials on which a store is stuck can not be written, and there is nothing else to be said
    against them. -/
theorem objection?_eq_unencodable_iff :
    s.objection? c = some .unencodable ↔ Stuck s.find? c := by
  unfold objection?
  by_cases hstuck : Stuck s.find? c
  · obtain ⟨a, hfind, henabled, hno⟩ := hstuck
    obtain ⟨e, he⟩ := check_of_unwritable hfind henabled hno
    rw [he]
    exact ⟨fun _ => ⟨a, hfind, henabled, hno⟩, fun _ => rfl⟩
  · refine ⟨fun h => ?_, fun h => absurd h hstuck⟩
    rw [check_eq hstuck] at h
    cases hfind : s.find? c.username with
    | none =>
      rw [hfind] at h
      nomatch h
    | some a =>
      rw [hfind] at h
      dsimp only at h
      split at h
      · nomatch h
      · rename_i fault hrefused
        split at hrefused
        · nomatch hrefused
        · cases hrefused
          nomatch h

/-- Credentials with one name that end alike are accepted as the same identity, or rejected with the
    same rejection, or can not be written. -/
theorem check_congr (hname : c.username = c'.username) (hends : s.objection? c = s.objection? c') :
    s.check c = s.check c' ∨ ∃ e e', s.check c = .error (.unencodable e) ∧
      s.check c' = .error (.unencodable e') := by
  by_cases hstuck : Stuck s.find? c
  · have hstuck' : Stuck s.find? c' := by
      rw [← objection?_eq_unencodable_iff] at hstuck ⊢
      exact hends.symm.trans hstuck
    obtain ⟨a, hfind, henabled, hno⟩ := hstuck
    obtain ⟨a', hfind', henabled', hno'⟩ := hstuck'
    obtain ⟨e, he⟩ := check_of_unwritable hfind henabled hno
    obtain ⟨e', he'⟩ := check_of_unwritable hfind' henabled' hno'
    exact .inr ⟨e, e', he, he'⟩
  · have hstuck' : ¬ Stuck s.find? c' := by
      rw [← objection?_eq_unencodable_iff] at hstuck ⊢
      exact fun h => hstuck (hends.trans h)
    refine .inl ?_
    unfold objection? at hends
    rw [check_eq hstuck, check_eq hstuck', hname] at hends ⊢
    cases hfind : s.find? c'.username with
    | none => rfl
    | some a =>
      rw [hfind] at hends
      dsimp only at hends ⊢
      -- one account is behind both, and it opens to both or to neither
      by_cases hopen : a.enabled = true ∧ a.password = c.password
      · by_cases hopen' : a.enabled = true ∧ a.password = c'.password
        · rw [if_pos hopen, if_pos hopen']
        · rw [if_pos hopen, if_neg hopen'] at hends
          nomatch hends
      · by_cases hopen' : a.enabled = true ∧ a.password = c'.password
        · rw [if_neg hopen, if_pos hopen'] at hends
          nomatch hends
        · rw [if_neg hopen, if_neg hopen']

/-- **The same reply.**  So they get the same reply, or no reply at all. -/
theorem reply_congr (hname : c.username = c'.username) (hends : s.objection? c = s.objection? c') :
    (s.answer c).reply = (s.answer c').reply ∨
      ∃ e e', (s.answer c).reply = .error (.unencodable e) ∧
        (s.answer c').reply = .error (.unencodable e') := by
  unfold answer
  rcases check_congr hname hends with hsame | ⟨e, e', he, he'⟩
  · exact .inl (congrArg (some <$> ·) hsame)
  · exact .inr ⟨e, e', congrArg (some <$> ·) he, congrArg (some <$> ·) he'⟩

end Store

/-- The machine of a request that arrives with other headers. -/
def Machine.withHeaders (m : Machine) (headers : List Http.RawHeader) : Machine :=
  { m with session :=
    { m.session with request := { m.session.request with headers := some headers } } }

/-- Headers make no difference to the context in which a gate decides. -/
theorem Machine.foundAtGate_withHeaders (m : Machine) (headers : List Http.RawHeader) :
    (m.withHeaders headers).foundAtGate = m.foundAtGate := by
  have hat : (m.withHeaders headers).atGate.toOption.map (·.observation.identity) =
      m.atGate.toOption.map (·.observation.identity) := by
    have hbound : (m.withHeaders headers).observation.bound = m.observation.bound := rfl
    have hkeeps : (m.withHeaders headers).session.request.keepsState =
      m.session.request.keepsState := rfl
    unfold Machine.atGate Machine.opened
    rw [hbound, hkeeps]
    split
    · rfl
    · split <;> rfl
  unfold Machine.foundAtGate
  rw [hat]
  rfl

/-- The only label in a skipped header value is that under which it was read. -/
theorem Credentials.label_of_undecodable {registry : Registry} {label other : Text}
    {header : Option Text} (h : read registry label header = .ok (.error (.undecodable other))) :
    other = label := by
  unfold read at h
  split at h
  · rename_i skip hskip
    cases h
    unfold payload at hskip
    repeat' split at hskip
    all_goals nomatch hskip
  · split at h
    · unfold ofText at h
      repeat' split at h
      all_goals nomatch h
    · cases h
      rfl
    · nomatch h

namespace Gate

variable {g : Gate} {found : Option Identity} {request request' : Request}

/-- Requests on one path with credentials of one name, of which the authenticator writes the same to
    the log, leave the same entries if it gives the same reply or if both come to a fault that is no
    rejection. -/
theorem entries_congr_of_credentials {challenge : Challenge}
    (hentry : g.entryPoint = challenge.entryPoint) (hpath : request.pathText = request'.pathText)
    {c c' : Credentials}
    (hread : Credentials.read g.registry g.charset request.authorization = .ok (.ok c))
    (hread' : Credentials.read g.registry g.charset request'.authorization = .ok (.ok c'))
    (hname : c.username = c'.username)
    (hlog : (g.authenticator.answer c).log = (g.authenticator.answer c').log)
    (hreply : (g.authenticator.answer c).reply = (g.authenticator.answer c').reply ∨
      ∃ e e', (g.authenticator.answer c).reply = .error (.unencodable e) ∧
        (g.authenticator.answer c').reply = .error (.unencodable e')) :
    g.entries found request = g.entries found request' := by
  have hdelegation : ∀ decision, g.delegationEntries request decision =
      g.delegationEntries request' decision := by
    intro decision
    unfold delegationEntries
    split
    · rw [hpath, hentry, challenge.log_commence, challenge.log_commence]
    · rfl
  unfold entries evaluationEntries verdict
  rw [hread, hread', hpath]
  dsimp only
  rw [hname, hlog, hdelegation]
  rcases hreply with hsame | ⟨e, e', he, he'⟩
  · rw [hsame]
  · rw [he, he']
    cases found <;> rfl

/-- Without credentials a request leaves the entry of the check that its header value has failed,
    or the one that there is an identity already. -/
theorem entries_of_skip {skip : Skip}
    (hread : Credentials.read g.registry g.charset request.authorization = .ok (.error skip)) :
    g.entries found request =
      match found with
      | some _ => [skipping request.pathText]
      | none => skip.note?.toList := by
  unfold entries evaluationEntries verdict
  rw [hread]
  cases found <;> simp [delegationEntries]

/-- Where a header value carries no credentials, one entry at most is written about reading it,
    and it is that of the check that the value fails. -/
theorem noted_of_unread
    (hnone : ∀ c, Credentials.read g.registry g.charset request.authorization ≠ .ok (.ok c)) :
    let noted := (g.entries found request).filter fun e => e.source = .credentials
    noted.length ≤ 1 ∧ ∀ e ∈ noted, ∃ skip,
      Credentials.read g.registry g.charset request.authorization = .ok (.error skip) ∧
        skip.note? = some e := by
  intro noted
  cases hfound : found with
  | some identity =>
    -- the only entry is the gate's own
    have hnoted : noted = [] := by
      simp [noted, hfound, entries, evaluationEntries, verdict, delegationEntries, skipping, note]
    rw [hnoted]
    exact ⟨Nat.zero_le 1, fun e he => (List.not_mem_nil he).elim⟩
  | none =>
    rcases hread : Credentials.read g.registry g.charset request.authorization with e | skip | c
    · have hnoted : noted = [] := by
        simp [noted, hfound, entries, evaluationEntries, verdict, delegationEntries, hread]
      rw [hnoted]
      exact ⟨Nat.zero_le 1, fun e he => (List.not_mem_nil he).elim⟩
    · have hentries : g.entries found request = skip.note?.toList := by
        rw [entries_of_skip hread, hfound]
      refine ⟨(List.length_filter_le _ _).trans ?_, fun e he => ⟨skip, rfl, ?_⟩⟩
      · rw [hentries]
        cases skip.note? <;> simp
      · have hmem := List.mem_of_mem_filter he
        rwa [hentries, Option.mem_toList] at hmem
    · exact absurd hread (hnone c)

/-- **The log keeps passwords.**  A gate looks into a store and answers rejected requests with a
    challenge, around an application that writes nothing to the log.  A request arrives with this
    or that header value.  If both values carry the same username and it ends alike for both, what
    is written to the log is the same.  If neither carries credentials and both fail the same
    check, it is the same, too.  A value without credentials has one entry at most written about
    it when it is read, that of the check it fails, in which there is nothing else but the label
    of the charset. -/
theorem log_keeps_passwords (s : Store) (challenge : Challenge) (ignoreFailure : Bool)
    (registry : Registry) (charset : Text) (number : Nat) (m : Machine) {app : Flow Outcome}
    (happ : app.Quiet) :
    let g : Gate := ⟨s.authenticator, challenge.entryPoint, ignoreFailure, charset, registry⟩
    let read headers := Credentials.read registry charset (Http.header? "authorization" headers)
    let log headers := (Layer.gate g).written number app (m.withHeaders headers)
    (∀ headers headers' c c', read headers = .ok (.ok c) → read headers' = .ok (.ok c') →
      c.username = c'.username → s.objection? c = s.objection? c' → log headers = log headers') ∧
    (∀ headers headers' skip, read headers = .ok (.error skip) →
      read headers' = .ok (.error skip) → log headers = log headers') ∧
    (∀ headers, (∀ c, read headers ≠ .ok (.ok c)) →
      let noted := (log headers).filter fun e => e.source = .credentials
      noted.length ≤ 1 ∧
        ∀ e ∈ noted, ∃ skip, read headers = .ok (.error skip) ∧ skip.note? = some e) ∧
    ∀ header label, Credentials.read registry charset header = .ok (.error (.undecodable label)) →
      label = charset := by
  intro g read log
  have hlog : ∀ headers, log headers =
      match m.foundAtGate with
      | none => []
      | some found => g.entries found (m.withHeaders headers).session.request := by
    intro headers
    have hwritten := Layer.written_gate g number (m.withHeaders headers) happ
    rwa [m.foundAtGate_withHeaders] at hwritten
  have hvalue : ∀ headers, read headers =
      Credentials.read g.registry g.charset (m.withHeaders headers).session.request.authorization :=
    fun headers => rfl
  refine ⟨fun headers headers' c c' hread hread' hname hends => ?_,
    fun headers headers' skip hread hread' => ?_, fun headers hnone => ?_,
    fun header label hread => Credentials.label_of_undecodable hread⟩
  · rw [hlog, hlog]
    rw [hvalue] at hread hread'
    cases m.foundAtGate with
    | none => rfl
    | some found =>
      refine entries_congr_of_credentials rfl rfl hread hread' hname (congrArg s.note hname) ?_
      exact s.reply_congr hname hends
  · rw [hlog, hlog]
    rw [hvalue] at hread hread'
    cases m.foundAtGate with
    | none => rfl
    | some found =>
      dsimp only
      rw [entries_of_skip hread, entries_of_skip hread']
      rfl
  · simp only [hvalue] at hnone ⊢
    rw [hlog]
    cases m.foundAtGate with
    | none => exact ⟨Nat.zero_le 1, fun e he => (List.not_mem_nil he).elim⟩
    | some found => exact noted_of_unread hnone

/-- Two wrong passwords, and two payloads that are no base64. -/
theorem log_keeps_passwords_rod :
    let bytes (text : Text) : List UInt8 := text.toList.map fun c => UInt8.ofNat c.toNat
    let headers (value : Text) : List Http.RawHeader := [⟨bytes "Authorization", bytes value⟩]
    let s := (Store.empty true).put ⟨"rod", "koala", [], true⟩
    let challenge : Challenge := ⟨"Zoo", by decide⟩
    let g : Gate := ⟨s.authenticator, challenge.entryPoint, false, "utf-8", .usual⟩
    let app := script [.observe]
    let m : Machine := .start ⟨{ type := some (.text "http"), path := some (.text "/p") }, none⟩
    let log (value : Text) := (Layer.gate g).written 0 app (m.withHeaders (headers value))
    app.Quiet ∧ s.objection? ⟨"rod", "wombat"⟩ = s.objection? ⟨"rod", "emu"⟩ ∧
      log "Basic cm9kOndvbWJhdA==" = log "Basic cm9kOmVtdQ==" ∧
      (log "Basic cm9kOndvbWJhdA==").map (·.message) =
        ["Basic Authorization header found for user 'rod'",
          "Authentication failed for /p: Bad credentials (user 'rod', BadCredentialsError)",
          "Delegating rejected request for /p to entry point",
          "Sending Basic challenge for realm 'Zoo'"] ∧
      log "Basic koala!" = log "Basic wombat?" := by
  intro bytes headers s challenge g app m log
  have happ : app.Quiet := quiet_script [.observe]
  have hwombat : Credentials.read .usual "utf-8"
      (Http.header? "authorization" (headers "Basic cm9kOndvbWJhdA==")) =
        .ok (.ok ⟨"rod", "wombat"⟩) := by decide +kernel
  have hemu : Credentials.read .usual "utf-8"
      (Http.header? "authorization" (headers "Basic cm9kOmVtdQ==")) =
        .ok (.ok ⟨"rod", "emu"⟩) := by decide +kernel
  have hkoala : Credentials.read .usual "utf-8"
      (Http.header? "authorization" (headers "Basic koala!")) =
        .ok (.error .malformedPayload) := by decide +kernel
  have hother : Credentials.read .usual "utf-8"
      (Http.header? "authorization" (headers "Basic wombat?")) =
        .ok (.error .malformedPayload) := by decide +kernel
  obtain ⟨hpasswords, hskips, -⟩ := log_keeps_passwords s challenge false .usual "utf-8" 0 m happ
  exact ⟨happ, rfl, hpasswords _ _ _ _ hwombat hemu rfl rfl, by decide +kernel,
    hskips _ _ _ hkoala hother⟩

end Gate

end Turnstile
