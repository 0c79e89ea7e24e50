import Turnstile.Service

namespace Turnstile.Service

/-!
# Startup and shutdown

* `settled_eq_ok_iff`, `exists_fault_of_settled` — the services that can be run, and what is wrong
  with all others;
* `raised?` — the fault of one of the parties to a run;
* `run_of_unsettled`, `run_of_startup_fault`, `run_of_started` — a run that does not begin, one that
  ends at startup, and one that goes on;
* `Paired`, `paired_run` — **what happens in a run**: everything at most once and in its order, the
  shutdown exactly if there is something to be shut down;
* `run_pairs_shutdown` — **every run** of every service.
-/

variable {α : Type}

/-! ### Services that can be run -/

section

variable {s : Service} {port : Int} {level : Text}

/-- A service can be run if it has a host and a port in range. -/
theorem settled_eq_ok_iff (hport : s.port = some port) (hlevel : s.logLevel = some level) :
    s.settled = .ok (port, level) ↔ s.host ≠ "" ∧ 1 ≤ port ∧ port ≤ 65535 := by
  unfold settled
  rw [hport, hlevel]
  dsimp only
  by_cases hhost : s.host = ""
  · simp [hhost]
  · by_cases hrange : port < 1 ∨ 65535 < port
    · rw [if_neg hhost, if_pos hrange]
      refine ⟨fun h => (nomatch h), ?_⟩
      rintro ⟨-, hlow, hhigh⟩
      omega
    · rw [if_neg hhost, if_neg hrange]
      refine ⟨fun _ => ⟨hhost, ?_⟩, fun _ => rfl⟩
      omega

/-- Any other service has a bad value for its host or its port. -/
theorem exists_fault_of_settled (hport : s.port = some port)
    (h : s.host = "" ∨ port < 1 ∨ 65535 < port) :
    ∃ fault, s.settled = .error fault ∧ fault.kind = .value := by
  unfold settled
  rw [hport]
  dsimp only
  by_cases hhost : s.host = ""
  · exact ⟨.emptyHost, if_pos hhost, rfl⟩
  · have hrange := h.resolve_left hhost
    rw [if_neg hhost, if_pos hrange]
    exact ⟨.portOutOfRange port, rfl, rfl⟩

end

/-! ### The parties to a run -/

/-- The fault that a party raises, if it is there and raises one. -/
def raised? : Option (Except Fault Unit) → Option Fault
  | some (.error fault) => some fault
  | _ => none

/-- The way a callback ends says whether it has raised a fault. -/
theorem callbackEnd_eq_error_iff {callback : Option (Except Fault Unit)} {fault : Fault} :
    callbackEnd callback = .error fault ↔ raised? callback = some fault := by
  rcases callback with _ | (_ | _) <;> simp [callbackEnd, raised?]

theorem callbackEnd_eq_ok_iff {callback : Option (Except Fault Unit)} :
    callbackEnd callback = .ok () ↔ raised? callback = none := by
  rcases callback with _ | (_ | _) <;> simp [callbackEnd, raised?]

/-- A callback that is there is called. -/
theorem mem_callbackEvents {e event : ServiceEvent α} {callback : Option (Except Fault Unit)} :
    e ∈ callbackEvents event callback ↔ e = event ∧ callback.isSome = true := by
  cases callback <;> simp [callbackEvents]

/-- A callback is called at most once. -/
theorem callbackEvents_sublist (event : ServiceEvent α) (callback : Option (Except Fault Unit)) :
    (callbackEvents event callback).Sublist [event] := by
  cases callback with
  | none => exact List.nil_sublist _
  | some _ => exact List.Sublist.refl _

/-- The fault of the callback at shutdown comes before that of the server. -/
theorem serving_eq_error_iff {app : α} {p : Parties} {fault : Fault} :
    (serving app p).2 = .error fault ↔
      (raised? p.shutdown).or (raised? (some p.server)) = some fault := by
  unfold serving
  dsimp only
  cases hshutdown : callbackEnd p.shutdown with
  | error fault' =>
    rw [callbackEnd_eq_error_iff.1 hshutdown, Option.some_or, Option.some.injEq, Except.error.injEq]
  | ok _ =>
    rw [callbackEnd_eq_ok_iff.1 hshutdown, Option.none_or]
    show callbackEnd (some p.server) = .error fault ↔ _
    exact callbackEnd_eq_error_iff

/-! ### A run -/

/-- The event in which a server is configured: it takes the name of the log level in small
    letters. -/
def configuring (app : α) (host : Text) (port : Int) (level : Text) : ServiceEvent α :=
  .configured app host port (Text.ofList (Text.lower level.toList))

/-- What happens in a run for an application once there is nothing wrong with the service. -/
structure Paired (app : α) (configured : ServiceEvent α) (p : Parties) (r : ServiceRun α) :
    Prop where
  /-- Nothing else happens, nothing twice, and nothing out of order. -/
  order : r.events.Sublist [configured, .startup, .served app, .shutdown]
  configured : configured ∈ r.events
  startup : .startup ∈ r.events ↔ p.startup.isSome = true
  /-- The server is run unless the callback at startup has raised a fault. -/
  served : .served app ∈ r.events ↔ raised? p.startup = none
  /-- The callback at shutdown is called if the server has been run, however it ended. -/
  shutdown : .shutdown ∈ r.events ↔ .served app ∈ r.events ∧ p.shutdown.isSome = true
  /-- The fault that comes out is the first one in this order of the parties, so that none comes out
      if there is none. -/
  fault : ∀ fault, r.outcome = .error fault ↔
    (raised? p.startup).or ((raised? p.shutdown).or (raised? (some p.server))) = some fault

section

variable {s : Service} {app : α} {p : Parties} {port : Int} {level : Text}

/-- Nothing happens in the run of a service that can not be run. -/
theorem run_of_unsettled {fault : Fault} (h : s.settled = .error fault) :
    s.run app p = { outcome := .error fault } := by
  unfold run
  rw [h]

/-- A fault at startup ends the run. -/
theorem run_of_startup_fault (hsettled : s.settled = .ok (port, level)) {fault : Fault}
    (h : raised? p.startup = some fault) :
    (s.run app p).events = configuring app s.host port level :: callbackEvents .startup p.startup ∧
      (s.run app p).outcome = .error fault := by
  unfold run
  rw [hsettled]
  dsimp only
  rw [callbackEnd_eq_error_iff.2 h]
  exact ⟨rfl, rfl⟩

/-- Otherwise the run goes on with serving and shutting down. -/
theorem run_of_started (hsettled : s.settled = .ok (port, level)) (h : raised? p.startup = none) :
    (s.run app p).events = configuring app s.host port level ::
        (callbackEvents .startup p.startup ++ .served app :: callbackEvents .shutdown p.shutdown) ∧
      (s.run app p).outcome = (serving app p).2 := by
  unfold run
  rw [hsettled]
  dsimp only
  rw [callbackEnd_eq_ok_iff.2 h]
  exact ⟨rfl, rfl⟩

/-- **What happens in a run.** -/
theorem paired_run (hsettled : s.settled = .ok (port, level)) :
    Paired app (configuring app s.host port level) p (s.run app p) := by
  cases hstartup : raised? p.startup with
  | some fault =>
    obtain ⟨hevents, houtcome⟩ := run_of_startup_fault (p := p) hsettled hstartup
    have hthere : p.startup.isSome = true := by
      cases hp : p.startup with
      | none =>
        rw [hp] at hstartup
        nomatch hstartup
      | some _ => rfl
    refine ⟨?_, ?_, ?_, ?_, ?_, fun other => ?_⟩
    · rw [hevents]
      exact ((callbackEvents_sublist _ _).trans (List.sublist_append_left _ _)).cons_cons _
    · simp [hevents]
    · simp [hevents, mem_callbackEvents, hthere]
    · simp [hevents, mem_callbackEvents, hstartup, configuring]
    · simp [hevents, mem_callbackEvents, configuring]
    · rw [houtcome, hstartup, Option.some_or, Option.some.injEq, Except.error.injEq]
  | none =>
    obtain ⟨hevents, houtcome⟩ := run_of_started (p := p) hsettled hstartup
    refine ⟨?_, ?_, ?_, ?_, ?_, fun other => ?_⟩
    · rw [hevents]
      exact ((callbackEvents_sublist _ _).append
        ((callbackEvents_sublist _ _).cons_cons _)).cons_cons _
    · simp [hevents]
    · simp [hevents, mem_callbackEvents, configuring]
    · simp [hevents, hstartup]
    · simp [hevents, mem_callbackEvents, configuring]
    · rw [houtcome, serving_eq_error_iff, hstartup, Option.none_or]

end

/-- **Every run**, whatever the application.  A service without a host or with a port out of range
    is refused for its value, and nothing happens.  Any other service is configured once, with the
    name of its log level in small letters; then the callback at startup is called, and unless that
    raises a fault the server is run, and the callback at shutdown is called exactly if it was, even
    if it failed.  The fault that comes out is that of the callback at startup, or else that of the
    callback at shutdown, or else that of the server. -/
theorem run_pairs_shutdown (app : α) (host : Text) (port : Int) (level : Text) (p : Parties) :
    let s : Service := ⟨host, some port, some level⟩
    ((host = "" ∨ port < 1 ∨ 65535 < port) →
      (s.run app p).events = [] ∧
        ∃ fault, (s.run app p).outcome = .error fault ∧ fault.kind = .value) ∧
    (host ≠ "" → 1 ≤ port → port ≤ 65535 →
      Paired app (.configured app host port (Text.ofList (Text.lower level.toList))) p
        (s.run app p)) := by
  intro s
  refine ⟨fun h => ?_, fun hhost hlow hhigh => ?_⟩
  · obtain ⟨fault, hfault, hkind⟩ := exists_fault_of_settled (s := s) rfl h
    rw [run_of_unsettled hfault]
    exact ⟨rfl, fault, rfl, hkind⟩
  · exact paired_run (s := s) ((settled_eq_ok_iff rfl rfl).2 ⟨hhost, hlow, hhigh⟩)

/-- Both the server and the callback at shutdown fail, and the one without a host is refused. -/
theorem run_pairs_shutdown_failing :
    let s : Service := ⟨"0.0.0.0", some 9000, some "DEBUG"⟩
    let server : Fault := .foreign .system "address in use"
    let closing : Fault := .foreign .runtime "not closed"
    let p : Parties := ⟨some (.ok ()), .error server, some (.error closing)⟩
    (s.host ≠ "" ∧ (1 : Int) ≤ 9000 ∧ (9000 : Int) ≤ 65535) ∧
      .shutdown ∈ (s.run () p).events ∧ (s.run () p).outcome = .error closing ∧
      (run { s with host := "" } () p).events = [] := by
  intro s server closing p
  have hhost : s.host ≠ "" := by decide
  have hpaired :=
    (run_pairs_shutdown () s.host 9000 "DEBUG" p).2 hhost (by decide) (by decide)
  have hserved : .served () ∈ (s.run () p).events := hpaired.served.2 rfl
  exact ⟨⟨hhost, by decide, by decide⟩, hpaired.shutdown.2 ⟨hserved, rfl⟩,
    (hpaired.fault closing).2 rfl, ((run_pairs_shutdown () "" 9000 "DEBUG" p).1 (.inl rfl)).1⟩

end Turnstile.Service
