import Turnstile.Proofs.Challenge
import Turnstile.Proofs.Charset.Reversible
import Turnstile.Proofs.Descent
import Turnstile.Proofs.Verdict

namespace Turnstile

/-!
# Requests that are refused

* `Challenge.exists_unencodable`, `Challenge.commence_unencodable` — a challenge cannot be sent if
  its realm is not in Latin-1, or if UTF-8 can not write the words that go with it;
* `Gate.refusal?`, `Gate.descend_of_refusal` — a request that a gate keeps from going on is handed
  to the entry point, before anything has been sent;
* `Gate.Rejects`, `Gate.descend_of_rejects` — the same of a gate that rejects a request;
* `Layer.report_of_rejects` — **a rejected request is answered with the challenge** if the realm is
  in Latin-1, and not at all otherwise.
-/

/-! ### Challenges -/

namespace Challenge

variable {c : Challenge}

/-- A character that is neither escaped nor written for one stays. -/
theorem mem_substitute_of_ne {d e : CodePoint} {form cs : List CodePoint} (h : d ∈ cs)
    (hne : d ≠ e) : d ∈ substitute e form cs :=
  List.mem_flatMap.2 ⟨d, h, by rw [if_neg hne]; exact List.mem_singleton_self d⟩

/-- A character of the realm is in the challenge, if it is none that is escaped. -/
theorem mem_text_of_mem_realm {d : CodePoint} (h : d ∈ c.realm.toList) (hquote : d ≠ '"')
    (hslash : d ≠ '\\') : d ∈ c.text.toList := by
  have hescaped : d ∈ escaped c.realm.toList :=
    mem_substitute_of_ne (mem_substitute_of_ne h hslash) hquote
  rw [toList_text]
  exact List.mem_append_right _ (List.mem_append_left _ (List.mem_cons_of_mem _ hescaped))

/-- A challenge cannot be written in Latin-1 if its realm is not in Latin-1. -/
theorem exists_unencodable (h : ¬ c.InLatin1) :
    ∃ e, (Charset.Repertoire.latin1).encode c.text.toList = .error e := by
  cases hencode : (Charset.Repertoire.latin1).encode c.text.toList with
  | error e => exact ⟨e, rfl⟩
  | ok bytes =>
    have hlatin := Charset.Repertoire.exists_encode_latin1_iff.1 ⟨bytes, hencode⟩
    refine absurd (fun d hmem => ?_) h
    by_contra hlarge
    have hquote : d ≠ '"' := by
      rintro rfl
      exact hlarge (by decide)
    have hslash : d ≠ '\\' := by
      rintro rfl
      exact hlarge (by decide)
    exact hlarge (hlatin d (mem_text_of_mem_realm hmem hquote hslash))

/-- A challenge that cannot be written is not sent. -/
theorem commence_unencodable {r : Rejection} (h : ¬ c.InLatin1 ∨ ¬ r.message.Writable)
    (request : Request) :
    ∃ e, c.entryPoint.commence request (some (.rejected r)) =
      { log := [c.note], outcome := .error (.unencodable e) } := by
  have hresponse : ∃ e, c.response (some (.rejected r)) = .error (.unencodable e) := by
    unfold response body
    dsimp only
    cases hencode : Charset.Utf8.encode r.message.toList with
    | error e =>
      exact ⟨e, by rw [Http.Response.plain, hencode]⟩
    | ok bytes =>
      have hwritable := Charset.Utf8.exists_encode_iff.1 ⟨bytes, hencode⟩
      obtain ⟨e, he⟩ := exists_unencodable (h.resolve_right (not_not.2 hwritable))
      exact ⟨e, by rw [Http.Response.plain_of_encode hencode, he]⟩
  obtain ⟨e, he⟩ := hresponse
  refine ⟨e, ?_⟩
  unfold entryPoint
  dsimp only
  rw [he]

/-- A challenge is made for every realm but the empty one. -/
theorem realm_of_ofRealm {realm : Text} (h : ofRealm (some realm) = .ok c) : c.realm = realm := by
  unfold ofRealm at h
  dsimp only at h
  split at h
  · nomatch h
  · rw [← Except.ok.inj h]

end Challenge

/-! ### A gate that rejects -/

/-- The machine on which a gate decides about a request over HTTP: a request without a context is
    given its own. -/
def Machine.atGate (m : Machine) : Except Ending Machine :=
  if m.observation.bound then .ok m else m.opened

/-- The gate of that number rejects a request. -/
def Gate.Rejects (g : Gate) (number : Nat) (m : Machine) (r : Rejection) : Prop :=
  ∃ m' d, m.atGate = .ok m' ∧
    ((g.evaluate number m'.session.request.authorization m'.session.request.pathText).run m').1 =
      .ok d ∧
    d.failure? = some r

theorem Machine.atGate_session {m m' : Machine} (h : m.atGate = .ok m') :
    m'.session.request = m.session.request ∧ m'.session.trace = m.session.trace := by
  unfold atGate at h
  split at h
  · rw [← Except.ok.inj h]
    exact ⟨rfl, rfl⟩
  · unfold opened at h
    split at h
    · rw [← Except.ok.inj h]
      exact ⟨rfl, rfl⟩
    · nomatch h

/-- The rejection for which a gate keeps a request from going on, by what it finds in the context
    and by the header value. -/
def Gate.refusal? (g : Gate) (found : Option Identity) (header : Option Text) :
    Option Rejection :=
  match g.verdict found header with
  | .ok (.rejected false _ r) => some r
  | _ => none

/-- A request that may not go on is handed to the entry point. -/
theorem Gate.descend_of_refusal {g : Gate} {m : Machine} {r : Rejection}
    (h : g.refusal? m.observation.identity m.session.request.authorization = some r)
    (number : Nat) :
    ∃ m', m.Silent m' ∧ g.descend number m =
      .error ((g.entryPoint.commence m.session.request (some (.rejected r))).outcome,
        m'.tell (g.delegation number m.session.request r)) := by
  obtain ⟨hverdict, hsilent⟩ := g.evaluate_ends number m.session.request.authorization
    m.session.request.pathText m
  refine ⟨_, hsilent, ?_⟩
  unfold refusal? at h
  rw [← hverdict] at h
  unfold descend
  dsimp only
  rw [Machine.view_request]
  generalize (g.evaluate number m.session.request.authorization
    m.session.request.pathText).run m = run at h
  obtain ⟨result, after⟩ := run
  dsimp only at h
  split at h
  · rw [← Option.some.inj h]
    exact congrArg Except.error (run_delegate ..)
  · nomatch h

/-- A request that is rejected is handed to the entry point if rejections are not to be ignored. -/
theorem Gate.descend_of_rejects {g : Gate} {number : Nat} {m : Machine} {r : Rejection}
    (hstrict : g.ignoreFailure = false) (h : g.Rejects number m r) :
    ∃ m', m.Silent m' ∧ m.atGate >>= g.descend number =
      .error ((g.entryPoint.commence m.session.request (some (.rejected r))).outcome,
        m'.tell (g.delegation number m.session.request r)) := by
  obtain ⟨m', d, hat, hresult, hfailure⟩ := h
  obtain ⟨hrequest, htrace⟩ := Machine.atGate_session hat
  rw [(g.evaluate_ends ..).1] at hresult
  obtain ⟨username, rfl⟩ := eq_rejected_of_verdict hresult hfailure
  have hrefusal : g.refusal? m'.observation.identity m'.session.request.authorization = some r := by
    unfold refusal?
    rw [hresult, hstrict]
  obtain ⟨after, hsilent, hdescend⟩ := descend_of_refusal hrefusal number
  refine ⟨after, (Machine.silent_of_trace htrace).trans hsilent, ?_⟩
  rw [hat, ← hrequest]
  exact hdescend

/-- A request is of one type only. -/
theorem Request.not_hasType_of_hasType {r : Request} {type other : Text}
    (h : r.hasType type = true) (hne : type ≠ other) : r.hasType other = false := by
  unfold hasType at h ⊢
  split at h
  · rw [← beq_iff_eq.1 h] at hne
    exact beq_eq_false_iff_ne.2 hne
  · nomatch h

/-- A request over HTTP is decided about where a context is bound. -/
theorem Layer.descend_gate {m : Machine} (hhttp : m.session.request.hasType "http" = true)
    (g : Gate) (number : Nat) :
    (Layer.gate g).descend number m = m.atGate >>= g.descend number := by
  unfold Layer.descend Machine.atGate
  dsimp only
  rw [Machine.view_request, if_neg (by rw [Request.isNone_type_of_hasType hhttp]; decide),
    if_pos hhttp, Machine.view_here]
  split <;> rfl

/-- A request over HTTP that is rejected gets the answer of the entry point and no other if
    rejections are not to be ignored. -/
theorem Layer.report_of_strict {g : Gate} {number : Nat} {m : Machine} {r : Rejection}
    (hstrict : g.ignoreFailure = false) (hhttp : m.session.request.hasType "http" = true)
    (h : g.Rejects number m r) (inner : Flow Outcome) :
    let answer := g.entryPoint.commence m.session.request (some (.rejected r))
    ∃ events, Trace.messages events = answer.messages ∧
      Ending.report (((Layer.gate g).flow number inner).run m) =
        (answer.outcome, m.session.trace ++ events) := by
  intro answer
  obtain ⟨m', ⟨before, htrace, hsilent⟩, hdescend⟩ := Gate.descend_of_rejects hstrict h
  refine ⟨before ++ g.delegation number m.session.request r, ?_, ?_⟩
  · rw [Trace.messages_append, hsilent, Gate.messages_delegation]
    rfl
  · rw [Layer.report_run_flow, Layer.descend_gate hhttp, hdescend]
    show (answer.outcome, m'.session.trace ++ g.delegation number m.session.request r) = _
    rw [htrace, List.append_assoc]

/-- **A rejected request is answered with the challenge** if the realm is in Latin-1 and UTF-8 can
    write the message: nothing goes wrong, and what is sent is the response `401` with the
    challenge, the length of the message in UTF-8 and the message itself.  Otherwise the answer
    cannot be written, and nothing is sent. -/
theorem Layer.report_of_rejects {realm : Text} {challenge : Challenge} {g : Gate} {number : Nat}
    {m : Machine} {r : Rejection} (hrealm : Challenge.ofRealm (some realm) = .ok challenge)
    (hentry : g.entryPoint = challenge.entryPoint) (hstrict : g.ignoreFailure = false)
    (hhttp : m.session.request.hasType "http" = true) (h : g.Rejects number m r)
    (inner : Flow Outcome) :
    let report := Ending.report (((Layer.gate g).flow number inner).run m)
    ∃ events, report.2 = m.session.trace ++ events ∧
      ((∀ d ∈ realm.toList, d.toNat < 0x100) → r.message.Writable → report.1 = .ok () ∧
        ∃ bytes, Charset.Utf8.encode r.message.toList = .ok bytes ∧
          Trace.messages events =
            [.responseStart false 401
              [("www-authenticate", challenge.text), ("content-length", Text.ofNat bytes.length),
                ("content-type", "text/plain; charset=utf-8")],
              .responseBody false r.message]) ∧
      ((∃ d ∈ realm.toList, 0x100 ≤ d.toNat) ∨ ¬ r.message.Writable →
        (∃ e, report.1 = .error (.unencodable e)) ∧ Trace.messages events = []) := by
  intro report
  obtain ⟨events, hmessages, hreport⟩ := Layer.report_of_strict hstrict hhttp h inner
  obtain rfl := Challenge.realm_of_ofRealm hrealm
  rw [hentry] at hmessages hreport
  refine ⟨events, congrArg Prod.snd hreport, fun hlatin hwritable => ?_, fun hother => ?_⟩
  · obtain ⟨bytes, hbytes⟩ := Charset.Utf8.exists_encode_iff.2 hwritable
    have hcommence := Challenge.commence_rejected hlatin m.session.request
      (Http.Response.plain_of_encode hbytes 401 [("www-authenticate", challenge.text)])
    rw [hcommence] at hmessages hreport
    refine ⟨congrArg Prod.fst hreport, bytes, hbytes, ?_⟩
    rw [hmessages, Request.not_hasType_of_hasType hhttp (by decide)]
    rfl
  · have hunwritten : ¬ challenge.InLatin1 ∨ ¬ r.message.Writable := by
      refine hother.imp_left ?_
      rintro ⟨d, hmem, hlarge⟩ hlatin
      exact Nat.not_lt.2 hlarge (hlatin d hmem)
    obtain ⟨e, he⟩ := Challenge.commence_unencodable hunwritten m.session.request
    rw [he] at hmessages hreport
    exact ⟨⟨e, congrArg Prod.fst hreport⟩, hmessages⟩

/-- Two gates that reject the same request: one announces a realm in Latin-1 and the other one a
    realm that is not. -/
theorem Layer.report_of_rejects_two :
    let bytes (text : Text) : List UInt8 := text.toList.map fun c => UInt8.ofNat c.toNat
    let header : Http.RawHeader := ⟨bytes "Authorization", bytes "Basic cm9kOmtvYWxh"⟩
    let m : Machine := .start ⟨{ type := some (.text "http"), headers := some [header] }, none⟩
    let r : Rejection := ⟨.disabled, "Zugang für rod gesperrt", some "rod"⟩
    let strict : Authenticator := ⟨true, fun _ => ⟨[], .error (.rejected r)⟩⟩
    let gate (c : Challenge) : Gate := ⟨strict, c.entryPoint, false, "utf-8", .usual⟩
    let west : Challenge := ⟨"Zürich", by decide⟩
    let east : Challenge := ⟨"Łódź", by decide⟩
    let report (c : Challenge) :=
      Ending.report (((Layer.gate (gate c)).flow 0 (.done (.ok ()))).run m)
    (gate west).Rejects 0 m r ∧ (gate east).Rejects 0 m r ∧
      (report west).1 = .ok () ∧
      Trace.messages (report west).2 =
        [.responseStart false 401
          [("www-authenticate", "Basic realm=\"Zürich\""), ("content-length", "24"),
            ("content-type", "text/plain; charset=utf-8")],
          .responseBody false "Zugang für rod gesperrt"] ∧
      (∃ e, (report east).1 = .error (.unencodable e)) ∧ Trace.messages (report east).2 = [] := by
  intro bytes header m r strict gate west east report
  have hvalue : m.session.request.authorization = some ("Basic cm9kOmtvYWxh" : Text) := by rfl
  have hread : Credentials.read .usual "utf-8" (some "Basic cm9kOmtvYWxh") =
      .ok (.ok ⟨"rod", "koala"⟩) := by rfl
  have hrejects : ∀ c, (gate c).Rejects 0 m r := by
    intro c
    refine ⟨Action.enter.apply m, .rejected false "rod" r, rfl, ?_, rfl⟩
    have hidentity := Gate.identity_enter m
    rw [(Gate.evaluate_ends ..).1, hidentity, Action.apply_request, hvalue]
    unfold Gate.verdict
    dsimp only
    rw [hread]
    rfl
  have hwest : Challenge.ofRealm (some "Zürich") = .ok west := rfl
  have heast : Challenge.ofRealm (some "Łódź") = .ok east := rfl
  have hlatin : ∀ d ∈ Text.toList "Zürich", d.toNat < 0x100 := by decide
  have hother : ∃ d ∈ Text.toList "Łódź", 0x100 ≤ d.toNat := ⟨'Ł', by decide, by decide⟩
  have htext : west.text = "Basic realm=\"Zürich\"" := by decide +kernel
  obtain ⟨sent, htrace, hsent, -⟩ :=
    Layer.report_of_rejects hwest rfl rfl rfl (hrejects west) (.done (.ok ()))
  obtain ⟨unsent, htrace', -, hunsent⟩ :=
    Layer.report_of_rejects heast rfl rfl rfl (hrejects east) (.done (.ok ()))
  obtain ⟨hended, written, hwritten, hmessages⟩ := hsent hlatin (by decide)
  have hlength : written.length = 24 := by
    obtain ⟨written', hwritten', hsize⟩ := Charset.Utf8.encode_ofString "Zugang für rod gesperrt"
    cases hwritten.symm.trans hwritten'
    rw [hsize]
    rfl
  obtain ⟨hfailed, hnothing⟩ := hunsent (.inl hother)
  refine ⟨hrejects west, hrejects east, hended, ?_, hfailed, ?_⟩
  · rw [htext, hlength] at hmessages
    exact (congrArg Trace.messages htrace).trans hmessages
  · exact (congrArg Trace.messages htrace').trans hnothing

end Turnstile
