import Turnstile.Codec.Usual
import Turnstile.Proofs.Evaluation
import Turnstile.Proofs.Refusal
import Turnstile.Proofs.Store

namespace Turnstile

/-!
# Refusals that look alike

A client who is refused does not learn whether the name that was tried belongs to an account.

* `Layer.response` — what a client gets to see of a request at a layer;
* `Gate.rejects_iff` — the credentials behind a rejection;
* `Layer.response_eq_of_words` — rejections in the same words get the same response;
* `Layer.response_of_fault` — a fault of the authenticator comes out, and nothing is sent;
* `Store.words_of_rejected` — a store that hides unknown users has one wording for all rejections,
  those of disabled accounts apart;
* `Gate.refusals_alike` — **refusals look alike**, and they stay what they are when an account is
  added for a name, as long as the passwords can be compared.
-/

/-- What a client gets to see of a request at a layer: how it ends, and the messages sent on the
    way. -/
def Layer.response (layer : Layer) (number : Nat) (inner : Flow Outcome) (m : Machine) :
    Outcome × List Http.Message :=
  let report := Ending.report ((layer.flow number inner).run m)
  (report.1, Trace.messages (report.2.drop m.session.trace.length))

/-! ### Words -/

/-- Of a rejection the client is told its words alone. -/
theorem Challenge.commence_congr (c : Challenge) {request request' : Request} {r r' : Rejection}
    (htype : request.hasType "websocket" = request'.hasType "websocket")
    (hwords : r.message = r'.message) :
    c.entryPoint.commence request (some (.rejected r)) =
      c.entryPoint.commence request' (some (.rejected r')) := by
  unfold entryPoint response body
  dsimp only
  rw [htype, hwords]

section

variable {g g' : Gate} {number : Nat} {m m' : Machine} {r r' : Rejection}

/-- A request that is rejected gets the answer of the entry point. -/
theorem Layer.response_of_strict (hstrict : g.ignoreFailure = false)
    (hhttp : m.session.request.hasType "http" = true) (h : g.Rejects number m r)
    (inner : Flow Outcome) :
    (Layer.gate g).response number inner m =
      let answer := g.entryPoint.commence m.session.request (some (.rejected r))
      (answer.outcome, answer.messages) := by
  obtain ⟨events, hmessages, hreport⟩ := Layer.report_of_strict hstrict hhttp h inner
  unfold Layer.response
  rw [hreport]
  dsimp only
  rw [List.drop_left, hmessages]

/-- **The same words, the same response.**  Two gates with one challenge give requests that they
    reject in the same words the same response. -/
theorem Layer.response_eq_of_words {challenge : Challenge}
    (hentry : g.entryPoint = challenge.entryPoint)
    (hentry' : g'.entryPoint = challenge.entryPoint) (hstrict : g.ignoreFailure = false)
    (hstrict' : g'.ignoreFailure = false) (hhttp : m.session.request.hasType "http" = true)
    (hhttp' : m'.session.request.hasType "http" = true) (h : g.Rejects number m r)
    (h' : g'.Rejects number m' r') (hwords : r.message = r'.message) (inner : Flow Outcome) :
    (Layer.gate g).response number inner m = (Layer.gate g').response number inner m' := by
  have htype : m.session.request.hasType "websocket" = m'.session.request.hasType "websocket" := by
    rw [Request.not_hasType_of_hasType hhttp (by decide),
      Request.not_hasType_of_hasType hhttp' (by decide)]
  rw [Layer.response_of_strict hstrict hhttp h, Layer.response_of_strict hstrict' hhttp' h', hentry,
    hentry', challenge.commence_congr htype hwords]

/-! ### Who is asked -/

/-- The credentials behind a rejection: they are in the header value of the request, the context in
    which the gate decides is empty, and the authenticator rejects them. -/
theorem Gate.rejects_iff : g.Rejects number m r ↔
    ∃ m' c, m.atGate = .ok m' ∧ m'.observation.identity = none ∧
      Credentials.read g.registry g.charset m.session.request.authorization = .ok (.ok c) ∧
      (g.authenticator.answer c).reply = .error (.rejected r) := by
  unfold Gate.Rejects
  constructor
  · rintro ⟨m', d, hat, hresult, hfailure⟩
    rw [(g.evaluate_ends ..).1] at hresult
    obtain ⟨username, rfl⟩ := Gate.eq_rejected_of_verdict hresult hfailure
    obtain ⟨hempty, -, c, hread, hreply, -⟩ := Gate.verdict_eq_rejected_iff.1 hresult
    rw [(Machine.atGate_session hat).1] at hread
    exact ⟨m', c, hat, hempty, hread, hreply⟩
  · rintro ⟨m', c, hat, hempty, hread, hreply⟩
    refine ⟨m', .rejected g.ignoreFailure c.username r, hat, ?_, rfl⟩
    rw [(g.evaluate_ends ..).1, (Machine.atGate_session hat).1]
    exact Gate.verdict_eq_rejected_iff.2 ⟨hempty, rfl, c, hread, hreply, rfl⟩

/-- A fault of the authenticator that is no rejection comes out, and nothing is sent. -/
theorem Layer.response_of_fault (hhttp : m.session.request.hasType "http" = true)
    (hat : m.atGate = .ok m') (hempty : m'.observation.identity = none) {c : Credentials}
    (hread : Credentials.read g.registry g.charset m.session.request.authorization = .ok (.ok c))
    {fault : Fault} (hreply : (g.authenticator.answer c).reply = .error fault)
    (hfault : ∀ r, fault ≠ .rejected r) (inner : Flow Outcome) :
    (Layer.gate g).response number inner m = (.error fault, []) := by
  obtain ⟨hrequest, htrace⟩ := Machine.atGate_session hat
  have hdescend : g.descend number m' = .error (.error fault, m'.tell (g.asking number c)) := by
    unfold Gate.descend
    dsimp only
    rw [Machine.view_request, Gate.run_evaluate_of_empty hempty, hrequest, hread]
    dsimp only
    rw [Gate.run_attempt, Gate.run_settle, hreply]
    cases fault with
    | rejected r => exact absurd rfl (hfault r)
    | _ => rfl
  have hreport : Ending.report (((Layer.gate g).flow number inner).run m) =
      (.error fault, m.session.trace ++ g.asking number c) := by
    rw [Layer.report_run_flow, Layer.descend_gate hhttp, hat, ← htrace]
    show Ending.report (goOn (g.descend number m') inner) = _
    rw [hdescend]
    rfl
  unfold Layer.response
  rw [hreport]
  dsimp only
  rw [List.drop_left, Gate.messages_asking]

/-- Where a gate has nothing to decide, finds an identity, or no context can be opened for it, it
    does not matter who its authenticator is. -/
theorem Layer.response_eq_of_unasked
    (h : m.session.request.hasType "http" = true →
      ∀ m', m.atGate = .ok m' → m'.observation.identity ≠ none) (inner : Flow Outcome) :
    (Layer.gate g).response number inner m = (Layer.gate g').response number inner m := by
  have hway : (Layer.gate g).descend number m = (Layer.gate g').descend number m := by
    by_cases hhttp : m.session.request.hasType "http" = true
    · have hskips : ∀ (g : Gate) m', m.atGate = .ok m' → g.descend number m' =
          .ok (m'.tell [.logged (Gate.skipping m'.session.request.pathText)]) := by
        intro g m' hat
        have hfilled : (m'.shared.contexts.current m'.session.binding).isSome :=
          Option.isSome_iff_ne_none.2 (h hhttp m' hat)
        unfold Gate.descend
        dsimp only
        rw [g.run_evaluate_of_filled hfilled]
        rfl
      rw [Layer.descend_gate hhttp, Layer.descend_gate hhttp]
      cases hat : m.atGate with
      | error ending => rfl
      | ok m' => exact (hskips g m' hat).trans (hskips g' m' hat).symm
    · -- requests of other types are not held up
      unfold Layer.descend
      dsimp only
      rw [Machine.view_request, if_neg hhttp, if_neg hhttp]
  unfold Layer.response
  rw [Layer.report_run_flow, Layer.report_run_flow, hway]

end

/-! ### Stores that hide unknown users -/

namespace Store

variable {s : Store} {c : Credentials}

/-- The replies that reject credentials are those for which they do not pass the check. -/
theorem reply_eq_error_iff {fault : Fault} :
    (s.answer c).reply = .error fault ↔ s.check c = .error fault := by
  unfold answer
  exact map_eq_error_iff

/-- Credentials are rejected in the words for a wrong password, unless they name a disabled
    account. -/
theorem words_of_rejected (hhides : s.hidesUnknown = true) {r : Rejection}
    (h : s.check c = .error (.rejected r))
    (henabled : ∀ a, s.find? c.username = some a → a.enabled = true) :
    r.message = "Bad credentials" := by
  have hstuck : ¬ Stuck s.find? c := by
    rintro ⟨a, hfind, ha, hno⟩
    obtain ⟨e, he⟩ := check_of_unwritable hfind ha hno
    nomatch h.symm.trans he
  rw [check_eq hstuck] at h
  cases hfind : s.find? c.username with
  | none =>
    rw [hfind] at h
    cases h
    exact if_pos hhides
  | some a =>
    rw [hfind] at h
    dsimp only at h
    split at h
    · nomatch h
    · cases h
      exact if_pos (henabled a hfind)

/-- A store with an account added. -/
theorem eq_put_of_insert {s' : Store} {a : Account} (h : s.insert a = .ok s') : s' = s.put a := by
  unfold insert at h
  split at h
  · nomatch h
  · exact (Except.ok.inj h).symm

end Store

/-- The credentials that a request presents name an account that is disabled. -/
def Request.NamesDisabled (request : Request) (s : Store) (registry : Registry) (charset : Text) :
    Prop :=
  ∃ c a, Credentials.read registry charset request.authorization = .ok (.ok c) ∧
    s.find? c.username = some a ∧ a.enabled = false

namespace Gate

/-- A gate that looks into a store and answers rejected requests with a challenge. -/
def strict (s : Store) (challenge : Challenge) (registry : Registry) (charset : Text) : Gate where
  authenticator := s.authenticator
  entryPoint := challenge.entryPoint
  ignoreFailure := false
  charset := charset
  registry := registry

variable {s : Store} {challenge : Challenge} {registry : Registry} {charset : Text} {number : Nat}
  {m : Machine}

/-- Requests that do not name a disabled account are rejected in the words for a wrong password. -/
theorem words_of_rejects (hhides : s.hidesUnknown = true) {r : Rejection}
    (h : (strict s challenge registry charset).Rejects number m r)
    (hnames : ¬ m.session.request.NamesDisabled s registry charset) :
    r.message = "Bad credentials" := by
  obtain ⟨m', c, -, -, hread, hreply⟩ := rejects_iff.1 h
  refine Store.words_of_rejected hhides (Store.reply_eq_error_iff.1 hreply) fun a hfind => ?_
  by_contra hdisabled
  exact hnames ⟨c, a, hread, hfind, Bool.eq_false_iff.2 hdisabled⟩

section

variable {a : Account} {password : Text} (henabled : a.enabled = true)
  (hread : Credentials.read registry charset m.session.request.authorization =
    .ok (.ok ⟨a.username, password⟩))

include henabled hread

/-- **An account that is added** for a name changes nothing in the response to a request with that
    name and another password, if the two passwords can be compared. -/
theorem response_put (hhides : s.hidesUnknown = true) (hnone : s.find? a.username = none)
    (hwrong : password ≠ a.password) (hrecorded : a.password.Writable)
    (hpresented : password.Writable) (inner : Flow Outcome) :
    (Layer.gate (strict (s.put a) challenge registry charset)).response number inner m =
      (Layer.gate (strict s challenge registry charset)).response number inner m := by
  by_cases hasked : m.session.request.hasType "http" = true ∧
      ∃ m', m.atGate = .ok m' ∧ m'.observation.identity = none
  · obtain ⟨hhttp, m', hat, hempty⟩ := hasked
    have hbefore : s.check ⟨a.username, password⟩ = .error (.rejected (s.unknown a.username)) :=
      Store.check_of_unknown hnone
    have hafter : (s.put a).check ⟨a.username, password⟩ =
        .error (.rejected ⟨.badCredentials, "Bad credentials", some a.username⟩) := by
      have hfound : (s.put a).find? a.username = some a := by rw [s.find?_put, if_pos rfl]
      rw [Store.check_of_enabled (c := ⟨a.username, password⟩) hfound henabled hrecorded hpresented]
      exact if_neg (Ne.symm hwrong)
    -- the name is rejected before and after, in the same words
    have hrejects : ∀ (s : Store) r, s.check ⟨a.username, password⟩ = .error (.rejected r) →
        (strict s challenge registry charset).Rejects number m r := fun s r hcheck =>
      rejects_iff.2 ⟨m', _, hat, hempty, hread, Store.reply_eq_error_iff.2 hcheck⟩
    have hwords : (s.unknown a.username).message = "Bad credentials" := if_pos hhides
    exact Layer.response_eq_of_words rfl rfl rfl rfl hhttp hhttp (hrejects _ _ hafter)
      (hrejects _ _ hbefore) hwords.symm inner
  · exact Layer.response_eq_of_unasked
      (fun hhttp m' hat hempty => hasked ⟨hhttp, m', hat, hempty⟩) inner

/-- If they can not be compared, a request that was rejected before comes to a fault. -/
theorem response_put_of_unwritable (hhttp : m.session.request.hasType "http" = true)
    {r : Rejection} (hrejects : (strict s challenge registry charset).Rejects number m r)
    (hpasswords : ¬ (a.password.Writable ∧ password.Writable)) (inner : Flow Outcome) :
    ∃ e, (Layer.gate (strict (s.put a) challenge registry charset)).response number inner m =
      (.error (.unencodable e), []) := by
  obtain ⟨m', _, hat, hempty, -, -⟩ := rejects_iff.1 hrejects
  have hfound : (s.put a).find? a.username = some a := by rw [s.find?_put, if_pos rfl]
  obtain ⟨e, hcheck⟩ := Store.check_of_unwritable (c := ⟨a.username, password⟩) hfound henabled
    hpasswords
  have hfault : ∀ r, Fault.unencodable e ≠ .rejected r := nofun
  exact ⟨e, Layer.response_of_fault hhttp hat hempty hread (Store.reply_eq_error_iff.2 hcheck)
    hfault inner⟩

end

/-- **Refusals look alike.**  A store hides unknown users, and a gate that looks into it answers
    rejected requests with a challenge.  Any two requests over HTTP that it rejects get the same
    response, unless one of them names a disabled account.  If an enabled account is added to the
    store for a name that had none, no request with that name and another password than the right
    one gets another response than before, as long as UTF-8 can write the two passwords.  If it can
    not, such a request is no longer rejected: it comes to a fault, and nothing is sent. -/
theorem refusals_alike (hhides : s.hidesUnknown = true) (challenge : Challenge)
    (registry : Registry) (charset : Text) (number : Nat) (inner : Flow Outcome) :
    (∀ m m' r r', m.session.request.hasType "http" = true →
      m'.session.request.hasType "http" = true →
      (strict s challenge registry charset).Rejects number m r →
      (strict s challenge registry charset).Rejects number m' r' →
      ¬ m.session.request.NamesDisabled s registry charset →
      ¬ m'.session.request.NamesDisabled s registry charset →
      (Layer.gate (strict s challenge registry charset)).response number inner m =
        (Layer.gate (strict s challenge registry charset)).response number inner m') ∧
    (∀ a s', s.contains a.username = false → a.enabled = true → s.insert a = .ok s' →
      ∀ m password,
        Credentials.read registry charset m.session.request.authorization =
          .ok (.ok ⟨a.username, password⟩) →
        password ≠ a.password →
        let before := (Layer.gate (strict s challenge registry charset)).response number inner m
        let after := (Layer.gate (strict s' challenge registry charset)).response number inner m
        (a.password.Writable → password.Writable → after = before) ∧
        (¬ (a.password.Writable ∧ password.Writable) →
          m.session.request.hasType "http" = true →
          ∀ r, (strict s challenge registry charset).Rejects number m r →
            ∃ e, after = (.error (.unencodable e), []))) := by
  constructor
  · intro m m' r r' hhttp hhttp' h h' hnames hnames'
    have hwords := (words_of_rejects hhides h hnames).trans
      (words_of_rejects hhides h' hnames').symm
    exact Layer.response_eq_of_words rfl rfl rfl rfl hhttp hhttp' h h' hwords inner
  · intro a s' hcontains henabled hinsert m password hread hwrong
    obtain rfl := Store.eq_put_of_insert hinsert
    have hnone : s.find? a.username = none := by simpa [Store.contains] using hcontains
    exact ⟨fun hrecorded hpresented =>
        response_put henabled hread hhides hnone hwrong hrecorded hpresented inner,
      fun hpasswords hhttp r hrejects =>
        response_put_of_unwritable henabled hread hhttp hrejects hpasswords inner⟩

/-- A wrong password and an unknown user, whose account is then added under another password, and
    the same user with a password that can not be compared. -/
theorem refusals_alike_dianne :
    let bytes (text : Text) : List UInt8 := text.toList.map fun c => UInt8.ofNat c.toNat
    let arriving (value : Text) : Machine := .start
      ⟨{ type := some (.text "http"), headers := some [⟨bytes "Authorization", bytes value⟩] },
        none⟩
    let wrong := arriving "Basic cm9kOndvbWJhdA=="
    let unknown := arriving "Basic ZGlhbm5lOmVtdQ=="
    let half := arriving "Basic ZGlhbm5lOlx1ZDgwMA=="
    let s := (Store.empty true).put ⟨"rod", "koala", [], true⟩
    let s' := s.put ⟨"dianne", "koala", [], true⟩
    let gate (s : Store) (charset : Text) : Gate := strict s ⟨"Zoo", by decide⟩ .usual charset
    let response (s : Store) (charset : Text) (m : Machine) :=
      (Layer.gate (gate s charset)).response 0 (.done (.ok ())) m
    s.hidesUnknown = true ∧
      (gate s "utf-8").Rejects 0 wrong ⟨.badCredentials, "Bad credentials", some "rod"⟩ ∧
      (gate s "utf-8").Rejects 0 unknown ⟨.usernameNotFound, "Bad credentials", some "dianne"⟩ ∧
      ¬ wrong.session.request.NamesDisabled s .usual "utf-8" ∧
      ¬ unknown.session.request.NamesDisabled s .usual "utf-8" ∧
      response s "utf-8" wrong = response s "utf-8" unknown ∧
      response s' "utf-8" unknown = response s "utf-8" unknown ∧
      (gate s "raw_unicode_escape").Rejects 0 half
        ⟨.usernameNotFound, "Bad credentials", some "dianne"⟩ ∧
      ∃ e, response s' "raw_unicode_escape" half = (.error (.unencodable e), []) := by
  intro bytes arriving wrong unknown half s s' gate response
  have hwrong : Credentials.read .usual "utf-8" wrong.session.request.authorization =
      .ok (.ok ⟨"rod", "wombat"⟩) := by decide +kernel
  have hunknown : Credentials.read .usual "utf-8" unknown.session.request.authorization =
      .ok (.ok ⟨"dianne", "emu"⟩) := by decide +kernel
  have hhalf : Credentials.read .usual "raw_unicode_escape" half.session.request.authorization =
      .ok (.ok ⟨"dianne", Text.ofList [.surrogate 0]⟩) := by decide +kernel
  have hrejects : (gate s "utf-8").Rejects 0 wrong
      ⟨.badCredentials, "Bad credentials", some "rod"⟩ :=
    rejects_iff.2 ⟨Action.enter.apply wrong, _, rfl, identity_enter _, hwrong, rfl⟩
  have hrejects' : (gate s "utf-8").Rejects 0 unknown
      ⟨.usernameNotFound, "Bad credentials", some "dianne"⟩ :=
    rejects_iff.2 ⟨Action.enter.apply unknown, _, rfl, identity_enter _, hunknown, rfl⟩
  have hrejects'' : (gate s "raw_unicode_escape").Rejects 0 half
      ⟨.usernameNotFound, "Bad credentials", some "dianne"⟩ :=
    rejects_iff.2 ⟨Action.enter.apply half, _, rfl, identity_enter _, hhalf, rfl⟩
  have hnames : ¬ wrong.session.request.NamesDisabled s .usual "utf-8" := by
    rintro ⟨c, a, hread, hfind, hdisabled⟩
    cases hwrong.symm.trans hread
    cases hfind
    nomatch hdisabled
  have hnames' : ¬ unknown.session.request.NamesDisabled s .usual "utf-8" := by
    rintro ⟨c, a, hread, hfind, -⟩
    cases hunknown.symm.trans hread
    nomatch hfind
  have hhides : s.hidesUnknown = true := rfl
  obtain ⟨htwo, hadded⟩ :=
    refusals_alike hhides ⟨"Zoo", by decide⟩ .usual "utf-8" 0 (.done (.ok ()))
  obtain ⟨-, hadded'⟩ :=
    refusals_alike hhides ⟨"Zoo", by decide⟩ .usual "raw_unicode_escape" 0 (.done (.ok ()))
  have hsame := (hadded ⟨"dianne", "koala", [], true⟩ s' rfl rfl rfl unknown "emu" hunknown
    (by decide)).1 (by decide) (by decide)
  have hother := (hadded' ⟨"dianne", "koala", [], true⟩ s' rfl rfl rfl half _ hhalf
    (by decide)).2 (by decide) rfl _ hrejects''
  exact ⟨hhides, hrejects, hrejects', hnames, hnames',
    htwo _ _ _ _ rfl rfl hrejects hrejects' hnames hnames', hsame, hrejects'', hother⟩

end Gate

end Turnstile
