import Turnstile.Proofs.Coherence

namespace Turnstile

/-!
# The verdict on a header value

* `Machine.Silent` — a stretch of a request on which nothing is sent;
* `Gate.verdict`, `Gate.evaluate_ends` — **an evaluation ends with its verdict**, which depends on
  what the bound context holds, what the header value carries and what the authenticator replies;
* `Gate.eq_rejected_of_verdict`, `Gate.verdict_eq_error_iff` — the rejections and the faults that it
  can end with;
* `Gate.verdict_eq_authenticated_iff`, `Gate.verdict_eq_rejected_iff` — the replies that let a
  request in or reject it;
* `Gate.faults_of_label` — **what can go wrong for a label** of a charset.
-/

/-! ### Nothing sent -/

namespace Machine

/-- A machine that comes from another one without a message sent in between. -/
def Silent (m m' : Machine) : Prop :=
  ∃ events, m'.session.trace = m.session.trace ++ events ∧ Trace.messages events = []

variable {m m' m'' : Machine}

/-- The trace is left alone. -/
theorem silent_of_trace (h : m'.session.trace = m.session.trace) : Silent m m' :=
  ⟨[], by rw [h, List.append_nil], rfl⟩

theorem silent_tell (m : Machine) {events : Trace} (h : Trace.messages events = []) :
    Silent m (m.tell events) :=
  ⟨events, rfl, h⟩

theorem silent_putBound (m : Machine) (slot : Option Identity) : Silent m (m.putBound slot) :=
  silent_of_trace (congrArg Session.trace (m.putBound_session slot))

theorem Silent.trans (h : Silent m m') (h' : Silent m' m'') : Silent m m'' := by
  obtain ⟨events, htrace, hnone⟩ := h
  obtain ⟨later, htrace', hnone'⟩ := h'
  refine ⟨events ++ later, ?_, ?_⟩
  · rw [htrace', htrace, List.append_assoc]
  · rw [Trace.messages_append, hnone, hnone']
    rfl

end Machine

namespace Gate

variable {g : Gate}

/-! ### The verdict -/

/-- How an evaluation ends that finds a context filled or empty. -/
def verdict (g : Gate) (found : Option Identity) (header : Option Text) :
    Except Fault Decision :=
  match found with
  | some _ => .ok .noAttempt
  | none =>
    match Credentials.read g.registry g.charset header with
    | .error fault => .error fault
    | .ok (.error _) => .ok .noAttempt
    | .ok (.ok c) => (g.ending c.username (g.authenticator.answer c).reply).1

/-- The reply of the authenticator decides how an attempt ends, and nothing is sent. -/
theorem settle_ends (g : Gate) (path username : Text) (reply : Except Fault (Option Identity))
    (m : Machine) :
    ((g.settle path username reply).run m).1 = (g.ending username reply).1 ∧
      m.Silent ((g.settle path username reply).run m).2 := by
  rw [run_settle]
  rcases reply with fault | _ | identity
  · cases fault with
    | rejected r => exact ⟨rfl, (m.silent_putBound none).trans (Machine.silent_tell _ rfl)⟩
    | _ => exact ⟨rfl, Machine.silent_of_trace rfl⟩
  · exact ⟨rfl, Machine.silent_of_trace rfl⟩
  · exact ⟨rfl, (m.silent_putBound (some identity)).trans (Machine.silent_tell _ rfl)⟩

/-- **An evaluation ends with its verdict**, and nothing is sent. -/
theorem evaluate_ends (g : Gate) (number : Nat) (header : Option Text) (path : Text)
    (m : Machine) :
    ((g.evaluate number header path).run m).1 = g.verdict m.observation.identity header ∧
      m.Silent ((g.evaluate number header path).run m).2 := by
  unfold verdict
  cases hfound : m.observation.identity with
  | some identity =>
    have hfilled : (m.shared.contexts.current m.session.binding).isSome :=
      Option.isSome_of_mem hfound
    rw [run_evaluate_of_filled hfilled]
    exact ⟨rfl, m.silent_tell rfl⟩
  | none =>
    rw [run_evaluate_of_empty hfound]
    rcases Credentials.read g.registry g.charset header with fault | skip | c
    · exact ⟨rfl, Machine.silent_of_trace rfl⟩
    · exact ⟨rfl, m.silent_tell (Trace.messages_logged _)⟩
    · -- the authenticator is asked before its reply is settled
      have hasked : m.Silent (m.tell (g.asking number c)) :=
        m.silent_tell (g.messages_asking number c)
      obtain ⟨hresult, hsilent⟩ := g.settle_ends path c.username
        (g.authenticator.answer c).reply (m.tell (g.asking number c))
      dsimp only
      rw [run_attempt]
      exact ⟨hresult, hasked.trans hsilent⟩

/-! ### Rejections -/

/-- An attempt that is rejected goes on only if rejections are to be ignored. -/
theorem eq_rejected_of_ending {username : Text} {reply : Except Fault (Option Identity)}
    {d : Decision} {r : Rejection} (h : (g.ending username reply).1 = .ok d)
    (hr : d.failure? = some r) : d = .rejected g.ignoreFailure username r := by
  rcases reply with fault | _ | identity
  · cases fault with
    | rejected r' =>
      rw [← Except.ok.inj h] at hr ⊢
      rw [← Option.some.inj hr]
    | _ => nomatch h
  · nomatch h
  · rw [← Except.ok.inj h] at hr
    nomatch hr

/-- Every rejection is one by the authenticator, of the credentials in the header value. -/
theorem eq_rejected_of_verdict {found : Option Identity} {header : Option Text} {d : Decision}
    {r : Rejection} (h : g.verdict found header = .ok d) (hr : d.failure? = some r) :
    ∃ username, d = .rejected g.ignoreFailure username r := by
  unfold verdict at h
  split at h
  · rw [← Except.ok.inj h] at hr
    nomatch hr
  · split at h
    · nomatch h
    · rw [← Except.ok.inj h] at hr
      nomatch hr
    · exact ⟨_, eq_rejected_of_ending h hr⟩

/-! ### Replies to credentials -/

/-- An identity is established where none is found and the authenticator gives it for the
    credentials in the header value. -/
theorem verdict_eq_authenticated_iff {found : Option Identity} {header : Option Text}
    {username : Text} {identity : Identity} :
    g.verdict found header = .ok (.authenticated username identity) ↔
      found = none ∧ ∃ c, Credentials.read g.registry g.charset header = .ok (.ok c) ∧
        (g.authenticator.answer c).reply = .ok (some identity) ∧ c.username = username := by
  unfold verdict
  cases found with
  | some _ => simp
  | none =>
    rcases Credentials.read g.registry g.charset header with fault | skip | c
    · simp
    · simp
    · rcases hreply : (g.authenticator.answer c).reply with (r | _) | _ | given <;>
        simp [ending, hreply, and_comm]

/-- A request is rejected where no identity is found and the authenticator rejects the credentials
    in the header value. -/
theorem verdict_eq_rejected_iff {found : Option Identity} {header : Option Text} {proceed : Bool}
    {username : Text} {r : Rejection} :
    g.verdict found header = .ok (.rejected proceed username r) ↔
      found = none ∧ proceed = g.ignoreFailure ∧
        ∃ c, Credentials.read g.registry g.charset header = .ok (.ok c) ∧
          (g.authenticator.answer c).reply = .error (.rejected r) ∧ c.username = username := by
  unfold verdict
  cases found with
  | some _ => simp
  | none =>
    rcases Credentials.read g.registry g.charset header with fault | skip | c
    · simp
    · simp
    · rcases hreply : (g.authenticator.answer c).reply with (r | _) | _ | given <;>
        simp [ending, hreply, and_comm, eq_comm]

/-! ### Faults -/

/-- What is wrong with a reply: a fault of the authenticator's own that is no rejection, or that the
    reply gives nothing. -/
def Amiss (reply : Except Fault (Option Identity)) (fault : Fault) : Prop :=
  (reply = .error fault ∧ ∀ r, fault ≠ .rejected r) ∨ (reply = .ok none ∧ fault = .noIdentity)

/-- An attempt ends with what is wrong with the reply. -/
theorem ending_eq_error_iff {username : Text} {reply : Except Fault (Option Identity)}
    {fault : Fault} : (g.ending username reply).1 = .error fault ↔ Amiss reply fault := by
  unfold Amiss
  rcases reply with own | _ | identity
  · cases own with
    | rejected r =>
      constructor
      · intro h
        nomatch h
      · rintro (⟨h, hno⟩ | ⟨h, -⟩)
        · exact absurd (Except.error.inj h).symm (hno r)
        · nomatch h
    | _ =>
      constructor
      · intro h
        rw [← Except.error.inj h]
        exact .inl ⟨rfl, fun r => nofun⟩
      · rintro (⟨h, -⟩ | ⟨h, -⟩)
        · exact congrArg Except.error (Except.error.inj h)
        · nomatch h
  · simp [ending, eq_comm]
  · simp [ending]

/-- An evaluation ends with a fault where the header value can not be read, or with what is wrong
    with the reply to the credentials in it. -/
theorem verdict_eq_error_iff {found : Option Identity} {header : Option Text} {fault : Fault} :
    g.verdict found header = .error fault ↔ found = none ∧
      (Credentials.read g.registry g.charset header = .error fault ∨
        ∃ c, Credentials.read g.registry g.charset header = .ok (.ok c) ∧
          Amiss (g.authenticator.answer c).reply fault) := by
  unfold verdict
  cases found with
  | some identity => simp
  | none =>
    rcases Credentials.read g.registry g.charset header with own | skip | c
    · simp
    · simp
    · simp [ending_eq_error_iff]

/-! ### Labels -/

/-- What goes wrong when bytes are to be read under a label: it names a transform, or the codec that
    it names says more of the bytes than that they write no text. -/
def Unread (label : Text) (coding : Coding) (bytes : List UInt8) (fault : Fault) : Prop :=
  match coding with
  | .transform => fault = .label (.notText label .decoding)
  | .text codec => ∃ h, codec.decode bytes = .error (.other fault h)

section

variable {registry : Registry} {label : Text} {coding : Coding}

/-- Under a label that names something, bytes are read unless that goes wrong. -/
theorem decode_eq_error_other_iff (hlabel : registry.lookup label = .ok coding)
    {bytes : List UInt8} {fault : Fault} :
    (∃ h, registry.decode label bytes = .error (.other fault h)) ↔
      Unread label coding bytes fault := by
  unfold Registry.decode Registry.codec Unread
  rw [hlabel]
  cases coding with
  | text codec => exact Iff.rfl
  | transform =>
    have hother : ReadError.ofFault (.label (.notText label .decoding)) =
        .other (.label (.notText label .decoding)) rfl := dif_pos rfl
    dsimp only
    rw [hother]
    constructor
    · rintro ⟨h, heq⟩
      cases heq
      rfl
    · rintro rfl
      exact ⟨rfl, rfl⟩

/-- Reading goes wrong at the bytes that the header value carries. -/
theorem read_eq_error_iff_unread (hlabel : registry.lookup label = .ok coding)
    {header : Option Text} {fault : Fault} :
    Credentials.read registry label header = .error fault ↔
      ∃ bytes, Credentials.payload header = .ok bytes ∧ Unread label coding bytes fault := by
  simp only [Credentials.read_eq_error_iff, ← decode_eq_error_other_iff hlabel, exists_and_left]

variable {a : Authenticator} {e : EntryPoint} {ignoreFailure : Bool} {g : Gate}

/-- A gate that is made has its parts, and its label names something. -/
theorem lookup_of_make (h : make registry (some a) (some e) ignoreFailure label = .ok g) :
    g = ⟨a, e, ignoreFailure, label, registry⟩ ∧ ∃ coding, registry.lookup label = .ok coding := by
  unfold make at h
  dsimp only at h
  split at h
  · nomatch h
  · split at h
    · rename_i coding hnamed
      exact ⟨(Except.ok.inj h).symm, coding, hnamed⟩
    · nomatch h

/-- If no gate is made for a label the configuration is at fault, unless looking up the label fails
    in another way than that it names nothing. -/
theorem fault_of_make {fault : Fault}
    (h : make registry (some a) (some e) ignoreFailure label = .error fault) :
    fault.kind = .configuration ∨
      registry.lookup label = .error fault ∧ fault.kind.isA .lookup = false := by
  unfold make at h
  dsimp only at h
  split at h
  · rw [← Except.error.inj h]
    exact .inl rfl
  · split at h
    · nomatch h
    · rename_i own hlookup
      rw [← Except.error.inj h]
      split
      · exact .inl rfl
      · rename_i hkind
        exact .inr ⟨hlookup, Bool.eq_false_iff.2 hkind⟩

end

/-- **What can go wrong for a label**, whatever the registry.  Once a gate has been made, its label
    names something, and an evaluation ends with a fault only in an empty context: with what is
    wrong with the reply to the credentials in the header value, or with what goes wrong when the
    bytes that it carries are to be read.  If no gate is made the configuration is at fault, unless
    looking up the label fails in another way than that it names nothing. -/
theorem faults_of_label (registry : Registry) (a : Authenticator) (e : EntryPoint)
    (ignoreFailure : Bool) (label : Text) :
    match make registry (some a) (some e) ignoreFailure label with
    | .ok g => ∃ coding, registry.lookup label = .ok coding ∧ ∀ number header path m fault,
      ((g.evaluate number header path).run m).1 = .error fault ↔
        m.observation.identity = none ∧
          ((∃ c, Credentials.read registry label header = .ok (.ok c) ∧
              Amiss (a.answer c).reply fault) ∨
            ∃ bytes, Credentials.payload header = .ok bytes ∧ Unread label coding bytes fault)
    | .error fault => fault.kind = .configuration ∨
      registry.lookup label = .error fault ∧ fault.kind.isA .lookup = false := by
  cases hmake : make registry (some a) (some e) ignoreFailure label with
  | error fault => exact fault_of_make hmake
  | ok g =>
    obtain ⟨rfl, coding, hlabel⟩ := lookup_of_make hmake
    refine ⟨coding, hlabel, fun number header path m fault => ?_⟩
    rw [(evaluate_ends ..).1, verdict_eq_error_iff, or_comm, read_eq_error_iff_unread hlabel]

/-- A gate is made with the label of a transform, or of a codec that refuses everything, and it
    fails at the first bytes to be read; a null character is not put down to the configuration. -/
theorem faults_of_label_hex :
    let a : Authenticator := ⟨false, fun _ => ⟨[], .ok none⟩⟩
    let e : EntryPoint := ⟨fun _ _ => {}⟩
    let g (label : Text) : Gate := ⟨a, e, false, label, .usual⟩
    let m : Machine := Action.enter.apply (.start ⟨{ type := none }, none⟩)
    make .usual (some a) (some e) false "hex" = .ok (g "hex") ∧
      (((g "hex").evaluate 0 (some "Basic cm9kOmtvYWxh") "/p").run m).1 =
        .error (.label (.notText "hex" .decoding)) ∧
      make .usual (some a) (some e) false "undefined" = .ok (g "undefined") ∧
      (∃ fault, (((g "undefined").evaluate 0 (some "Basic cm9kOmtvYWxh") "/p").run m).1 =
        .error fault) ∧
      make .usual (some a) (some e) false "utf-8\x00" = .error (.label .nullCharacter) := by
  intro a e g m
  have hmake : make .usual (some a) (some e) false "hex" = .ok (g "hex") := by rfl
  have hmake' : make .usual (some a) (some e) false "undefined" = .ok (g "undefined") := by rfl
  have hpayload : Credentials.payload (some "Basic cm9kOmtvYWxh") =
      .ok [0x72, 0x6F, 0x64, 0x3A, 0x6B, 0x6F, 0x61, 0x6C, 0x61] := by rfl
  have hfaults := faults_of_label .usual a e false "hex"
  rw [hmake] at hfaults
  obtain ⟨coding, hcoding, hends⟩ := hfaults
  have hhex : Registry.usual.lookup "hex" = .ok .transform := by rfl
  cases hcoding.symm.trans hhex
  have hfaults' := faults_of_label .usual a e false "undefined"
  rw [hmake'] at hfaults'
  obtain ⟨coding', hcoding', hends'⟩ := hfaults'
  have hundefined : Registry.usual.lookup "undefined" = .ok (.text .undefined) := by rfl
  cases hcoding'.symm.trans hundefined
  exact ⟨hmake, (hends ..).2 ⟨identity_enter _, .inr ⟨_, hpayload, rfl⟩⟩, hmake',
    ⟨_, (hends' ..).2 ⟨identity_enter _, .inr ⟨_, hpayload, rfl, rfl⟩⟩⟩, by rfl⟩

end Gate

end Turnstile
