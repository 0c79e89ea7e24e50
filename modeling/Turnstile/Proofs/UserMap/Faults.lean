import Mathlib.Data.List.Forall2
import Turnstile.Fault
import Turnstile.Proofs.Text.Blank
import Turnstile.Proofs.UserMap

namespace Turnstile.UserMap

/-!
# Faulty lines

Reading a user map stops at its first faulty line.

* `Lacks`, `Faulty` — a line that should give an account and does not, and what it lacks;
* `Gives` — the account that stands in a line;
* `accountOfLine_eq_error_iff`, `accountOfLine_eq_ok_iff_gives` — one line: it lacks something, or
  it gives its account;
* `parseLines_eq_error_iff` — **the first faulty line** is the one that is reported, under its
  number among all lines;
* `parse_stops_at_first_fault` — **faults of a user map**.
-/

/-! ### What stands in a line -/

/-- What a trimmed line lacks that should give an account. -/
inductive Lacks : List CodePoint → Problem → Prop
  /-- There is no `=`. -/
  | separator {line : List CodePoint} (hline : CodePoint.char '=' ∉ line) : Lacks line .noUsername
  /-- In front of the first `=` there are only blanks. -/
  | username {name rest : List CodePoint} (hfirst : CodePoint.char '=' ∉ name)
      (hname : Text.Blanks name) :
    Lacks (name ++ .char '=' :: rest) .noUsername
  /-- Between the first `=` and the next comma, or the end of the line, there are only blanks. -/
  | password {name password more : List CodePoint} (hfirst : CodePoint.char '=' ∉ name)
      (hname : ¬ Text.Blanks name)
      (hpassword : Text.Blanks password) (hmore : ∀ c ∈ more.head?, c = ',') :
    Lacks (name ++ .char '=' :: (password ++ more)) (.noPassword (Text.ofList (Text.trim name)))

/-- A line that is neither empty nor a comment once it is trimmed, and lacks something. -/
structure Faulty (raw : List CodePoint) (problem : Problem) : Prop where
  ne : Text.trim raw ≠ []
  uncommented : (Text.trim raw).head? ≠ some (.char '#')
  lacks : Lacks (Text.trim raw) problem

/-- The account that stands in a trimmed line: the username in front of the first `=`, and behind it
    the password and the attributes, with commas between them. -/
inductive Gives : List CodePoint → Account → Prop
  | account {name password : List CodePoint} {attributes : List (List CodePoint)}
      (hfirst : CodePoint.char '=' ∉ name) (hname : ¬ Text.Blanks name)
      (hcomma : CodePoint.char ',' ∉ password) (hpassword : ¬ Text.Blanks password)
      (hattributes : ∀ token ∈ attributes, CodePoint.char ',' ∉ token) :
    Gives (name ++ .char '=' :: (password ++ attributes.flatMap (.char ',' :: ·)))
      { username := Text.ofList (Text.trim name)
        password := Text.ofList (Text.trim password)
        roles := (rolesOf (attributes.map Text.trim)).map Text.ofList
        enabled := enabledOf (attributes.map Text.trim) }

/-! ### One line -/

section

variable {line raw : List CodePoint} {problem : Problem} {a : Account}

theorem isSkipped_eq_false_iff :
    isSkipped line = false ↔ line ≠ [] ∧ line.head? ≠ some (.char '#') := by
  simp [isSkipped]

/-- What comes of a line that is cut at its first `=`. -/
theorem accountOfLine_of_cut {name rest part : List CodePoint} {parts : List (List CodePoint)}
    (hfirst : CodePoint.char '=' ∉ name) (hfields : Text.fields ',' rest = part :: parts) :
    accountOfLine (name ++ .char '=' :: rest) =
      if Text.trim name = [] then .error .noUsername
      else if Text.trim part = [] then .error (.noPassword (Text.ofList (Text.trim name)))
      else .ok
        { username := Text.ofList (Text.trim name)
          password := Text.ofList (Text.trim part)
          roles := (rolesOf (parts.map Text.trim)).map Text.ofList
          enabled := enabledOf (parts.map Text.trim) } := by
  have hcut : Text.cut? '=' (name ++ .char '=' :: rest) = some (name, rest) :=
    Text.cut?_eq_some_iff.2 ⟨rfl, hfirst⟩
  unfold accountOfLine
  simp only [Standing.readAll_eq]
  rw [hcut]
  simp only [hfields, List.map_cons, List.headD_cons, List.tail_cons, List.isEmpty_iff]

/-- A line is cut at its first `=` into a name and further parts. -/
theorem exists_parts (h : CodePoint.char '=' ∈ line) :
    ∃ name part parts, CodePoint.char '=' ∉ name ∧
      line = name ++ .char '=' :: (part ++ parts.flatMap (.char ',' :: ·)) ∧
      CodePoint.char ',' ∉ part ∧ (∀ token ∈ parts, CodePoint.char ',' ∉ token) ∧
      Text.fields ',' (part ++ parts.flatMap (.char ',' :: ·)) = part :: parts := by
  cases hcut : Text.cut? '=' line with
  | none => exact absurd h (Text.cut?_eq_none_iff.1 hcut)
  | some sides =>
    obtain ⟨name, rest⟩ := sides
    obtain ⟨hline, hfirst⟩ := Text.cut?_eq_some_iff.1 hcut
    obtain ⟨part, parts, hfields⟩ := List.exists_cons_of_ne_nil (Text.fields_ne_nil ',' rest)
    have hcomma : ∀ token ∈ part :: parts, CodePoint.char ',' ∉ token := fun token htoken hmem =>
      (Text.mem_of_mem_fields (hfields ▸ htoken) hmem).2 rfl
    have hrest := Text.eq_of_fields hfields
    refine ⟨name, part, parts, hfirst, hrest ▸ hline, hcomma part List.mem_cons_self,
      fun token htoken => hcomma token (List.mem_cons_of_mem _ htoken), hrest ▸ hfields⟩

/-- **A line without an account** lacks what is reported. -/
theorem accountOfLine_eq_error_iff : accountOfLine line = .error problem ↔ Lacks line problem := by
  constructor
  · intro h
    by_cases hseparator : CodePoint.char '=' ∈ line
    · obtain ⟨name, part, parts, hfirst, rfl, -, -, hfields⟩ := exists_parts hseparator
      rw [accountOfLine_of_cut hfirst hfields] at h
      simp only [Text.trim_eq_nil_iff] at h
      split at h
      · rename_i hname
        cases h
        exact .username hfirst hname
      · rename_i hname
        split at h
        · rename_i hpassword
          cases h
          refine .password hfirst hname hpassword fun c hc => ?_
          cases parts with
          | nil => cases hc
          | cons next parts => exact (Option.some.inj hc).symm
        · nomatch h
    · unfold accountOfLine at h
      rw [Text.cut?_eq_none_iff.2 hseparator] at h
      cases h
      exact .separator hseparator
  · rintro (hseparator | ⟨hfirst, hname⟩ | ⟨hfirst, hname, hpassword, hmore⟩)
    · unfold accountOfLine
      rw [Text.cut?_eq_none_iff.2 hseparator]
    · rename_i name rest
      obtain ⟨part, parts, hfields⟩ := List.exists_cons_of_ne_nil (Text.fields_ne_nil ',' rest)
      rw [accountOfLine_of_cut hfirst hfields, if_pos (Text.trim_eq_nil_iff.2 hname)]
    · rename_i name password more
      -- a comma is no blank, so that the blanks behind the `=` are all of the password
      have hcomma : CodePoint.char ',' ∉ password := fun hmem =>
        absurd (hpassword ',' hmem) (by decide)
      obtain ⟨parts, hfields⟩ := Text.fields_append hcomma hmore
      rw [accountOfLine_of_cut hfirst hfields, if_neg (mt Text.trim_eq_nil_iff.1 hname),
        if_pos (Text.trim_eq_nil_iff.2 hpassword)]

/-- **A line with an account** gives the one that stands in it. -/
theorem accountOfLine_eq_ok_iff_gives : accountOfLine line = .ok a ↔ Gives line a := by
  constructor
  · intro h
    by_cases hseparator : CodePoint.char '=' ∈ line
    · obtain ⟨name, part, parts, hfirst, rfl, hcomma, hattributes, hfields⟩ :=
        exists_parts hseparator
      rw [accountOfLine_of_cut hfirst hfields] at h
      simp only [Text.trim_eq_nil_iff] at h
      split at h
      · nomatch h
      · rename_i hname
        split at h
        · nomatch h
        · rename_i hpassword
          cases h
          exact .account hfirst hname hcomma hpassword hattributes
    · rw [accountOfLine_eq_error_iff.2 (.separator hseparator)] at h
      nomatch h
  · rintro ⟨hfirst, hname, hcomma, hpassword, hattributes⟩
    rw [accountOfLine_of_cut hfirst (Text.fields_flatMap hcomma hattributes),
      if_neg (mt Text.trim_eq_nil_iff.1 hname), if_neg (mt Text.trim_eq_nil_iff.1 hpassword)]

/-- A line cannot be read exactly if it is faulty. -/
theorem readLine_eq_error_iff : readLine raw = .error problem ↔ Faulty raw problem := by
  unfold readLine
  cases hskip : isSkipped (Text.trim raw) with
  | true =>
    refine ⟨fun h => (nomatch h), fun h => ?_⟩
    rw [isSkipped_eq_false_iff.2 ⟨h.ne, h.uncommented⟩] at hskip
    nomatch hskip
  | false =>
    obtain ⟨hne, huncommented⟩ := isSkipped_eq_false_iff.1 hskip
    have hline : (accountOfLine (Text.trim raw)).map (fun a => [a]) = .error problem ↔
        Lacks (Text.trim raw) problem := by
      rw [← accountOfLine_eq_error_iff]
      cases accountOfLine (Text.trim raw) <;> simp [Except.map]
    exact hline.trans ⟨fun h => ⟨hne, huncommented, h⟩, fun h => h.lacks⟩

end

/-! ### The first faulty line -/

/-- **The first faulty line** is the one that is reported, with its number among all lines. -/
theorem parseLines_eq_error_iff {number : Nat} {lines : List (List CodePoint)} {e : LineError} :
    parseLines number lines = .error e ↔ ∃ before raw after, lines = before ++ raw :: after ∧
      (∀ earlier ∈ before, ∀ problem, readLine earlier ≠ .error problem) ∧
      readLine raw = .error e.problem ∧ e.line = number + before.length := by
  -- lines that can be read move into `before` one by one, and the number of the next line grows
  induction lines generalizing number with
  | nil => simp [parseLines]
  | cons raw lines ih =>
    rw [parseLines_cons]
    cases hread : readLine raw with
    | error problem =>
      constructor
      · intro h
        cases h
        exact ⟨[], raw, lines, rfl, fun _ hmem => absurd hmem List.not_mem_nil, hread, rfl⟩
      · rintro ⟨_ | ⟨first, before⟩, faulty, after, hlines, hbefore, hfaulty, hnumber⟩
        · cases hlines
          cases hread.symm.trans hfaulty
          cases hnumber
          rfl
        · cases hlines
          exact absurd hread (hbefore raw List.mem_cons_self problem)
    | ok added =>
      have hlater : ((added ++ ·) <$> parseLines (number + 1) lines = .error e) ↔
          parseLines (number + 1) lines = .error e := by
        cases parseLines (number + 1) lines <;> simp [Functor.map, Except.map]
      refine hlater.trans (ih.trans ⟨?_, ?_⟩)
      · rintro ⟨before, faulty, after, rfl, hbefore, hfaulty, hnumber⟩
        refine ⟨raw :: before, faulty, after, rfl, fun earlier hmem => ?_, hfaulty, ?_⟩
        · rcases List.mem_cons.1 hmem with rfl | hmem
          · rw [hread]
            intro problem h
            cases h
          · exact hbefore earlier hmem
        · rw [hnumber, List.length_cons]
          omega
      · rintro ⟨_ | ⟨first, before⟩, faulty, after, hlines, hbefore, hfaulty, hnumber⟩
        · cases hlines
          cases hread.symm.trans hfaulty
        · cases hlines
          refine ⟨before, faulty, after, rfl,
            fun earlier hmem => hbefore earlier (List.mem_cons_of_mem _ hmem), hfaulty, ?_⟩
          rw [hnumber, List.length_cons]
          omega

/-- The lines that count give one account each, in their order. -/
theorem forall₂_of_parseLines {number : Nat} {lines : List (List CodePoint)}
    {accounts : List Account} (h : parseLines number lines = .ok accounts) :
    List.Forall₂ Gives (entries lines) accounts := by
  have hmap := parseLines_eq_ok_iff.1 h
  rw [← List.forall₂_eq_eq_eq, List.forall₂_map_left_iff, List.forall₂_map_right_iff] at hmap
  exact hmap.imp fun line a hline => accountOfLine_eq_ok_iff_gives.1 hline

/-- Where there is a faulty line, the lines cannot be read. -/
theorem exists_error_of_faulty {number : Nat} {lines : List (List CodePoint)} {raw : List CodePoint}
    {problem : Problem} (hraw : raw ∈ lines) (h : Faulty raw problem) :
    ∃ e, parseLines number lines = .error e := by
  cases hparse : parseLines number lines with
  | error e => exact ⟨e, rfl⟩
  | ok accounts =>
    have hcounts := isSkipped_eq_false_iff.2 ⟨h.ne, h.uncommented⟩
    have hentry : Text.trim raw ∈ entries lines :=
      List.mem_filter.2 ⟨List.mem_map_of_mem hraw, by rw [hcounts]; rfl⟩
    -- the account of the line would be among those that have been read
    have hread := List.mem_map_of_mem (f := accountOfLine) hentry
    rw [parseLines_eq_ok_iff.1 hparse, accountOfLine_eq_error_iff.2 h.lacks] at hread
    obtain ⟨a, -, ha⟩ := List.mem_map.1 hread
    nomatch ha

/-- **Faults of a user map.**  A user map cannot be read exactly if one of its lines is faulty.
    What is reported is the first faulty line, by its number among all lines, and what it lacks: a
    username or the `=` behind it, or the password for a username, in different words.  Without a
    faulty line, there is one account for each line that is neither empty nor a comment, in the
    order of the lines. -/
theorem parse_stops_at_first_fault (text : Text) :
    let lines := Text.splitLines text.toList
    ((∃ e, parse text = .error e) ↔ ∃ raw ∈ lines, ∃ problem, Faulty raw problem) ∧
    (∀ e, parse text = .error e ↔ ∃ before raw after, lines = before ++ raw :: after ∧
      (∀ earlier ∈ before, ∀ problem, ¬ Faulty earlier problem) ∧
      Faulty raw e.problem ∧ e.line = before.length + 1) ∧
    ((∀ raw ∈ lines, ∀ problem, ¬ Faulty raw problem) → ∃ accounts, parse text = .ok accounts ∧
      List.Forall₂ Gives
        ((lines.map Text.trim).filter fun line => line ≠ [] ∧ line.head? ≠ some (.char '#'))
        accounts) ∧
    ∀ e : LineError, (Fault.userMap e).kind = .value ∧ (Fault.userMap e).message =
      match e.problem with
      | .noUsername =>
        "Line " ++ Text.ofNat e.line ++ ": expected 'username=password[,ROLE...]'"
      | .noPassword username =>
        "Line " ++ Text.ofNat e.line ++ ": password for '" ++ username ++
          "' must not be empty" := by
  intro lines
  have hfirst : ∀ e, parse text = .error e ↔ ∃ before raw after, lines = before ++ raw :: after ∧
      (∀ earlier ∈ before, ∀ problem, ¬ Faulty earlier problem) ∧
      Faulty raw e.problem ∧ e.line = before.length + 1 := by
    intro e
    unfold parse
    simp only [parseLines_eq_error_iff, ne_eq, readLine_eq_error_iff, Nat.add_comm 1, lines]
  refine ⟨⟨?_, ?_⟩, hfirst, fun hnone => ?_, fun e => ⟨rfl, rfl⟩⟩
  · rintro ⟨e, he⟩
    obtain ⟨before, raw, after, hlines, -, hraw, -⟩ := (hfirst e).1 he
    exact ⟨raw, by simp [hlines], e.problem, hraw⟩
  · rintro ⟨raw, hmem, problem, hraw⟩
    exact exists_error_of_faulty hmem hraw
  · cases hparse : parse text with
    | error e =>
      obtain ⟨before, raw, after, hlines, -, hraw, -⟩ := (hfirst e).1 hparse
      exact absurd hraw (hnone raw (by simp [hlines]) e.problem)
    | ok accounts =>
      have hcounts : entries lines =
          (lines.map Text.trim).filter fun line => line ≠ [] ∧ line.head? ≠ some (.char '#') := by
        refine List.filter_congr fun line _ => ?_
        rw [Bool.eq_iff_iff, Bool.not_eq_true', isSkipped_eq_false_iff, decide_eq_true_iff]
      exact ⟨accounts, rfl, hcounts ▸ forall₂_of_parseLines hparse⟩

/-- A comment, an empty line and an account stand in front of two faulty lines, the first of which
    has no username. -/
theorem parse_stops_at_first_fault_fourth :
    let sound := [(Text.toList "# users"), [], (Text.toList " rod = koala")]
    (∀ raw ∈ sound, ∀ problem, ¬ Faulty raw problem) ∧ Faulty (Text.toList "=x") .noUsername ∧
      Faulty (Text.toList "dianne= ,USER") (.noPassword "dianne") ∧
      parse "# users\r\n\x0b rod = koala\r=x\ndianne= ,USER" = .error ⟨4, .noUsername⟩ ∧
      ∃ accounts, parse "# users\r\n\x0b rod = koala" = .ok accounts ∧
        List.Forall₂ Gives [(Text.toList "rod = koala")] accounts := by
  intro sound
  have hsound : ∀ raw ∈ sound, ∀ problem, ¬ Faulty raw problem := by
    intro raw hraw problem hfaulty
    have hreads : ∀ raw ∈ sound, (readLine raw).toOption.isSome = true := by decide +kernel
    have hread := hreads raw hraw
    rw [readLine_eq_error_iff.2 hfaulty] at hread
    nomatch hread
  have hfourth : Faulty (Text.toList "=x") .noUsername := readLine_eq_error_iff.1 rfl
  have hfifth : Faulty (Text.toList "dianne= ,USER") (.noPassword "dianne") :=
    readLine_eq_error_iff.1 rfl
  refine ⟨hsound, hfourth, hfifth, ?_, ?_⟩
  · exact ((parse_stops_at_first_fault _).2.1 ⟨4, .noUsername⟩).2
      ⟨sound, _, [(Text.toList "dianne= ,USER")], rfl, hsound, hfourth, rfl⟩
  · exact (parse_stops_at_first_fault "# users\r\n\x0b rod = koala").2.2.1 hsound

end Turnstile.UserMap
