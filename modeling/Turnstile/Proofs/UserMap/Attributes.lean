import Turnstile.Proofs.Store
import Turnstile.Proofs.UserMap.Faults
import Turnstile.Proofs.UserMap.RoundTrip

namespace Turnstile.UserMap

/-!
# Attributes

What the attributes behind the password of a line make of its account.

* `Line`, `Line.text` — the parts of a line between its separators;
* `accountOfLine_trim`, `Line.readLine_text_eq_ok_iff` — blanks around a line do not count, so that
  a line gives an account exactly if there are a username and a password;
* `Standing.readAll_insert`, `Standing.readAll_move` — **attributes that come to the same**;
* `Sets`, `LastSets`, `Standing.enabled_readAll_of_lastSets` — **the last status counts**;
* `Line.readLine_text_insert`, `Line.readLine_text_move`, `Line.readLine_text_append_disabled` —
  what may be done to a line, and the account that it then gives;
* `exists_account_of_parse`, `linesGive_of_readLine` — the account of a line among those of a text;
* `attributes_of_line` — all of this for every line of a user map, and what `disabled` at its end
  does.
-/

/-! ### Lines -/

/-- The parts of a line: the name in front of its first `=`, the password, and the attributes behind
    commas. -/
structure Line where
  name : List CodePoint
  password : List CodePoint
  tokens : List (List CodePoint)

namespace Line

/-- A line as it is written. -/
def text (l : Line) : List CodePoint :=
  l.name ++ .char '=' :: (l.password ++ l.tokens.flatMap (.char ',' :: ·))

/-- No part holds the separator that would end it. -/
structure Unbroken (l : Line) : Prop where
  name : CodePoint.char '=' ∉ l.name
  password : CodePoint.char ',' ∉ l.password
  tokens : ∀ token ∈ l.tokens, CodePoint.char ',' ∉ token

/-- What a line needs to give an account; the attributes do not matter. -/
structure Complete (l : Line) : Prop where
  name : ¬ Text.Blanks l.name
  uncommented : (Text.trim l.name).head? ≠ some (.char '#')
  password : ¬ Text.Blanks l.password

/-- The account of a line. -/
def account (l : Line) : Account where
  username := Text.ofList (Text.trim l.name)
  password := Text.ofList (Text.trim l.password)
  roles := (rolesOf (l.tokens.map Text.trim)).map Text.ofList
  enabled := enabledOf (l.tokens.map Text.trim)

end Line

/-! ### Blanks around a line -/

/-- Blanks in front of a line do not count. -/
theorem accountOfLine_append_left {lead : List CodePoint} (h : Text.Blanks lead)
    (line : List CodePoint) : accountOfLine (lead ++ line) = accountOfLine line := by
  have hlead : CodePoint.char '=' ∉ lead := fun hmem => absurd (h '=' hmem) (by decide)
  by_cases hseparator : CodePoint.char '=' ∈ line
  · obtain ⟨name, part, parts, hfirst, rfl, -, -, hfields⟩ := exists_parts hseparator
    have hfirst' : CodePoint.char '=' ∉ lead ++ name := fun hmem =>
      (List.mem_append.1 hmem).elim hlead hfirst
    rw [← List.append_assoc, accountOfLine_of_cut hfirst' hfields,
      accountOfLine_of_cut hfirst hfields, Text.trim_append_left h]
  · have hboth : CodePoint.char '=' ∉ lead ++ line := fun hmem =>
      (List.mem_append.1 hmem).elim hlead hseparator
    rw [accountOfLine_eq_error_iff.2 (.separator hboth),
      accountOfLine_eq_error_iff.2 (.separator hseparator)]

/-- Blanks behind a line do not count. -/
theorem accountOfLine_append_right {tail : List CodePoint} (h : Text.Blanks tail)
    (line : List CodePoint) : accountOfLine (line ++ tail) = accountOfLine line := by
  have hequals : CodePoint.char '=' ∉ tail := fun hmem => absurd (h '=' hmem) (by decide)
  have hcomma : CodePoint.char ',' ∉ tail := fun hmem => absurd (h ',' hmem) (by decide)
  cases hcut : Text.cut? '=' line with
  | none =>
    have hseparator := Text.cut?_eq_none_iff.1 hcut
    have hboth : CodePoint.char '=' ∉ line ++ tail := fun hmem =>
      (List.mem_append.1 hmem).elim hseparator hequals
    rw [accountOfLine_eq_error_iff.2 (.separator hboth),
      accountOfLine_eq_error_iff.2 (.separator hseparator)]
  | some sides =>
    obtain ⟨name, rest⟩ := sides
    obtain ⟨rfl, hfirst⟩ := Text.cut?_eq_some_iff.1 hcut
    -- only the last field is longer, and it is trimmed
    obtain ⟨parts, last, hfields, hlonger⟩ := Text.exists_fields_append hcomma rest
    rw [List.append_assoc, List.cons_append]
    cases parts with
    | nil =>
      rw [accountOfLine_of_cut hfirst hfields, accountOfLine_of_cut hfirst hlonger,
        Text.trim_append_right h]
    | cons part parts =>
      rw [List.cons_append] at hfields hlonger
      rw [accountOfLine_of_cut hfirst hfields, accountOfLine_of_cut hfirst hlonger,
        List.map_append, List.map_append, List.map_singleton, List.map_singleton,
        Text.trim_append_right h]

/-- **Blanks around a line** do not count. -/
theorem accountOfLine_trim (raw : List CodePoint) :
    accountOfLine (Text.trim raw) = accountOfLine raw := by
  obtain ⟨lead, tail, hlead, htail, hraw⟩ := Text.eq_append_trim raw
  calc accountOfLine (Text.trim raw)
      = accountOfLine (Text.trim raw ++ tail) := (accountOfLine_append_right htail _).symm
    _ = accountOfLine (lead ++ (Text.trim raw ++ tail)) :=
      (accountOfLine_append_left hlead _).symm
    _ = accountOfLine raw := congrArg accountOfLine hraw.symm

/-- What a line adds if it gives an account. -/
theorem readLine_eq_ok_singleton_iff {raw : List CodePoint} {a : Account} :
    readLine raw = .ok [a] ↔ isSkipped (Text.trim raw) = false ∧ accountOfLine raw = .ok a := by
  unfold readLine
  rw [accountOfLine_trim]
  cases isSkipped (Text.trim raw) with
  | true => simp
  | false => cases accountOfLine raw <;> simp [Except.map]

/-- A line with an account can be cut into its parts. -/
theorem exists_line_of_readLine {raw : List CodePoint} {a : Account} (h : readLine raw = .ok [a]) :
    ∃ l : Line, l.Unbroken ∧ l.text = raw := by
  have hline := (readLine_eq_ok_singleton_iff.1 h).2
  by_cases hseparator : CodePoint.char '=' ∈ raw
  · obtain ⟨name, part, parts, hfirst, rfl, hpart, hparts, -⟩ := exists_parts hseparator
    exact ⟨⟨name, part, parts⟩, ⟨hfirst, hpart, hparts⟩, rfl⟩
  · rw [accountOfLine_eq_error_iff.2 (.separator hseparator)] at hline
    nomatch hline

namespace Line

variable {l : Line} {a : Account}

/-- The line of a name is neither empty nor a comment if the name is neither. -/
theorem isSkipped_text (hname : ¬ Text.Blanks l.name) :
    isSkipped (Text.trim l.text) = false ↔ (Text.trim l.name).head? ≠ some (.char '#') := by
  have hne : Text.trim l.text ≠ [] := by
    rw [ne_eq, Text.trim_eq_nil_iff]
    exact fun hblanks => hname fun c hc => hblanks c (List.mem_append_left _ hc)
  rw [isSkipped_eq_false_iff, text, Text.head?_trim_append hname]
  exact and_iff_right hne

/-- **The account of a line**: there must be a name and a password, and it must be no comment. -/
theorem readLine_text_eq_ok_iff (hl : l.Unbroken) :
    readLine l.text = .ok [a] ↔ l.Complete ∧ a = l.account := by
  have hcut := accountOfLine_of_cut hl.name (Text.fields_flatMap hl.password hl.tokens)
  rw [readLine_eq_ok_singleton_iff]
  unfold text at hcut ⊢
  rw [hcut]
  simp only [Text.trim_eq_nil_iff]
  constructor
  · rintro ⟨hskip, hline⟩
    split at hline
    · nomatch hline
    · rename_i hname
      split at hline
      · nomatch hline
      · rename_i hpassword
        exact ⟨⟨hname, (isSkipped_text hname).1 hskip, hpassword⟩, (Except.ok.inj hline).symm⟩
  · rintro ⟨⟨hname, huncommented, hpassword⟩, rfl⟩
    refine ⟨(isSkipped_text hname).2 huncommented, ?_⟩
    rw [if_neg hname, if_neg hpassword]
    rfl

end Line

/-! ### One attribute after another -/

instance (token : List CodePoint) : Decidable (IsStatus token) :=
  inferInstanceAs (Decidable (_ ∨ _))

/-- An attribute sets a status if it is the word for it, but for blanks around it and the case of
    its letters. -/
def Sets (enabled : Bool) (token : List CodePoint) : Prop :=
  (Text.trim token).map CodePoint.toLower = (statusWord enabled).toList

/-- The last attribute that sets a status sets this one. -/
def LastSets (enabled : Bool) (tokens : List (List CodePoint)) : Prop :=
  ∃ before token after, tokens = before ++ token :: after ∧ Sets enabled token ∧
    ∀ later ∈ after, ¬ IsStatus (Text.trim later)

namespace Standing

variable {s : Standing} {token : List CodePoint}

/-- What is no status leaves the status as it is. -/
theorem enabled_read (h : status? token = none) : (s.read token).enabled = s.enabled := by
  by_cases hempty : token = []
  · rw [hempty, read_nil]
  · rw [read_of_role h hempty]

/-- A status and an attribute that is none may be read in either order. -/
theorem read_comm {other : List CodePoint} {enabled : Bool} (h : status? token = some enabled)
    (hother : status? other = none) : (s.read token).read other = (s.read other).read token := by
  rw [read_of_status h, read_of_status h]
  by_cases hempty : other = []
  · rw [hempty, read_nil, read_nil]
  · rw [read_of_role hother hempty, read_of_role hother hempty]

theorem readAll_append (before after : List (List CodePoint)) :
    s.readAll (before ++ after) = (s.readAll before).readAll after :=
  List.foldl_append

/-- A status at the end is the one that counts. -/
theorem readAll_concat {enabled : Bool} (h : status? token = some enabled)
    (before : List (List CodePoint)) :
    s.readAll (before ++ [token]) = { s.readAll before with enabled := enabled } := by
  rw [readAll_append, readAll_cons, read_of_status h]
  rfl

/-- **An empty attribute** makes no difference. -/
theorem readAll_insert (before after : List (List CodePoint)) :
    s.readAll (before ++ [] :: after) = s.readAll (before ++ after) := by
  rw [readAll_append, readAll_append, readAll_cons, read_nil]

/-- A status may be read behind attributes that are none. -/
theorem readAll_read {enabled : Bool} (h : status? token = some enabled)
    {between : List (List CodePoint)} (hbetween : ∀ other ∈ between, status? other = none) :
    (s.read token).readAll between = (s.readAll between).read token := by
  induction between generalizing s with
  | nil => rfl
  | cons other between ih =>
    rw [readAll_cons, readAll_cons, read_comm h (hbetween other List.mem_cons_self),
      ih fun o ho => hbetween o (List.mem_cons_of_mem _ ho)]

/-- **A status may move** past attributes that are none. -/
theorem readAll_move {enabled : Bool} (h : status? token = some enabled)
    {between : List (List CodePoint)} (hbetween : ∀ other ∈ between, status? other = none)
    (before after : List (List CodePoint)) :
    s.readAll (before ++ token :: (between ++ after)) =
      s.readAll (before ++ (between ++ token :: after)) := by
  rw [readAll_append, readAll_append, readAll_append, readAll_cons, readAll_cons, readAll_append,
    readAll_read h hbetween]

/-- Attributes that are no status leave the status as it is. -/
theorem enabled_readAll {tokens : List (List CodePoint)}
    (h : ∀ token ∈ tokens, status? token = none) : (s.readAll tokens).enabled = s.enabled := by
  induction tokens generalizing s with
  | nil => rfl
  | cons token tokens ih =>
    rw [readAll_cons, ih fun t ht => h t (List.mem_cons_of_mem _ ht),
      enabled_read (h token List.mem_cons_self)]

/-- Raw attributes set no status if they are none once they are trimmed. -/
theorem status?_of_map_trim {tokens : List (List CodePoint)}
    (h : ∀ token ∈ tokens, ¬ IsStatus (Text.trim token)) :
    ∀ token ∈ tokens.map Text.trim, status? token = none :=
  List.forall_mem_map.2 fun raw hraw => status?_eq_none_iff.2 (h raw hraw)

/-- **The last status counts.** -/
theorem enabled_readAll_of_lastSets {enabled : Bool} {tokens : List (List CodePoint)}
    (h : LastSets enabled tokens) : (s.readAll (tokens.map Text.trim)).enabled = enabled := by
  obtain ⟨before, token, after, rfl, hsets, hafter⟩ := h
  rw [List.map_append, List.map_cons, readAll_append, readAll_cons,
    enabled_readAll (status?_of_map_trim hafter), read_of_status (status?_eq_some_iff.2 hsets)]

/-- A raw status may move past raw attributes that are none. -/
theorem readAll_map_trim_move {status : List CodePoint} (hstatus : IsStatus (Text.trim status))
    {between : List (List CodePoint)} (hbetween : ∀ other ∈ between, ¬ IsStatus (Text.trim other))
    (before after : List (List CodePoint)) :
    s.readAll ((before ++ status :: (between ++ after)).map Text.trim) =
      s.readAll ((before ++ (between ++ status :: after)).map Text.trim) := by
  have hsets : status? (Text.trim status) ≠ none := fun hnone => status?_eq_none_iff.1 hnone hstatus
  obtain ⟨enabled, hsome⟩ := Option.ne_none_iff_exists'.1 hsets
  simpa using
    readAll_move hsome (status?_of_map_trim hbetween) (before.map Text.trim) (after.map Text.trim)

end Standing

/-! ### The account of a line -/

namespace Line

variable {l : Line} {a : Account}

/-- The status and the roles of the account are those that are read off the attributes. -/
theorem account_eq (l : Line) :
    l.account =
      { username := Text.ofList (Text.trim l.name)
        password := Text.ofList (Text.trim l.password)
        roles := (Standing.readAll {} (l.tokens.map Text.trim)).roles.map Text.ofList
        enabled := (Standing.readAll {} (l.tokens.map Text.trim)).enabled } := by
  rw [Standing.readAll_eq]
  rfl

/-- Attributes that come to the same give the same account. -/
theorem readLine_text_of_readAll_eq (hl : l.Unbroken) (h : readLine l.text = .ok [a])
    {tokens : List (List CodePoint)} (htokens : ∀ token ∈ tokens, CodePoint.char ',' ∉ token)
    (hsame : Standing.readAll {} (tokens.map Text.trim) =
      Standing.readAll {} (l.tokens.map Text.trim)) :
    readLine { l with tokens := tokens }.text = .ok [a] := by
  obtain ⟨hcomplete, rfl⟩ := (readLine_text_eq_ok_iff hl).1 h
  have hl' : Unbroken { l with tokens := tokens } := ⟨hl.name, hl.password, htokens⟩
  refine (readLine_text_eq_ok_iff hl').2 ⟨⟨hcomplete.name, hcomplete.uncommented,
    hcomplete.password⟩, ?_⟩
  rw [account_eq, account_eq, hsame]

/-- **Attributes of blanks** may be put in anywhere. -/
theorem readLine_text_insert (hl : l.Unbroken) (h : readLine l.text = .ok [a])
    {front back : List (List CodePoint)} (htokens : l.tokens = front ++ back)
    {blank : List CodePoint} (hblank : Text.Blanks blank) :
    readLine { l with tokens := front ++ blank :: back }.text = .ok [a] := by
  refine readLine_text_of_readAll_eq hl h (fun token htoken => ?_) ?_
  · have hcomma : CodePoint.char ',' ∉ blank := fun hmem => absurd (hblank ',' hmem) (by decide)
    rcases List.mem_cons.1 (List.perm_middle.mem_iff.1 htoken) with rfl | hold
    · exact hcomma
    · exact hl.tokens token (htokens ▸ hold)
  · rw [htokens, List.map_append, List.map_cons, Text.trim_eq_nil_iff.2 hblank,
      Standing.readAll_insert, List.map_append]

/-- **A status may move** past attributes that are none, in either direction. -/
theorem readLine_text_move (hl : l.Unbroken) (h : readLine l.text = .ok [a])
    {front between back : List (List CodePoint)} {status : List CodePoint}
    (hstatus : IsStatus (Text.trim status))
    (hbetween : ∀ other ∈ between, ¬ IsStatus (Text.trim other)) :
    (l.tokens = front ++ status :: (between ++ back) →
      readLine { l with tokens := front ++ (between ++ status :: back) }.text = .ok [a]) ∧
    (l.tokens = front ++ (between ++ status :: back) →
      readLine { l with tokens := front ++ status :: (between ++ back) }.text = .ok [a]) := by
  have hmove := Standing.readAll_map_trim_move (s := {}) hstatus hbetween front back
  -- either way the attributes are the same ones in another order
  have hperm : (front ++ (between ++ status :: back)).Perm
      (front ++ status :: (between ++ back)) := List.perm_middle.append_left front
  refine ⟨fun htokens => ?_, fun htokens => ?_⟩
  · refine readLine_text_of_readAll_eq hl h (fun token ht => hl.tokens token ?_) ?_
    · rw [htokens]
      exact hperm.mem_iff.1 ht
    · rw [htokens, hmove]
  · refine readLine_text_of_readAll_eq hl h (fun token ht => hl.tokens token ?_) ?_
    · rw [htokens]
      exact hperm.mem_iff.2 ht
    · rw [htokens, hmove]

/-- **The word `disabled` at the end** of a line disables its account. -/
theorem readLine_text_append_disabled (hl : l.Unbroken) (h : readLine l.text = .ok [a]) :
    readLine (l.text ++ (Text.toList ",disabled")) = .ok [{ a with enabled := false }] := by
  obtain ⟨hcomplete, rfl⟩ := (readLine_text_eq_ok_iff hl).1 h
  have hword : status? (Text.trim (Text.toList "disabled")) = some false := status?_statusWord false
  have htext : l.text ++ Text.toList ",disabled" =
      text { l with tokens := l.tokens ++ [Text.toList "disabled"] } := by
    have hcomma : (Text.toList ",disabled") = .char ',' :: Text.toList "disabled" := rfl
    simp [text, hcomma]
  have hl' : Unbroken { l with tokens := l.tokens ++ [Text.toList "disabled"] } := by
    refine ⟨hl.name, hl.password, fun token htoken => ?_⟩
    rcases List.mem_append.1 htoken with hold | hnew
    · exact hl.tokens token hold
    · rw [List.mem_singleton.1 hnew]
      decide
  rw [htext, readLine_text_eq_ok_iff hl']
  refine ⟨⟨hcomplete.name, hcomplete.uncommented, hcomplete.password⟩, ?_⟩
  rw [account_eq, account_eq, List.map_append, List.map_singleton, Standing.readAll_concat hword]

end Line

/-! ### A line among others -/

/-- Every text of these lines gives these accounts. -/
def LinesGive (lines : List (List CodePoint)) (accounts : List Account) : Prop :=
  ∀ text : Text, Text.splitLines text.toList = lines → parse text = .ok accounts

/-- A line that counts gives one of the accounts of its text, and the lines in front of it give
    those before. -/
theorem exists_account_of_parse {text : Text} {accounts : List Account}
    (h : parse text = .ok accounts) {before after : List (List CodePoint)} {raw : List CodePoint}
    (hlines : Text.splitLines text.toList = before ++ raw :: after)
    (hcounts : isSkipped (Text.trim raw) = false) :
    ∃ earlier a later, accounts = earlier ++ a :: later ∧ readLine raw = .ok [a] ∧
      (entries before).map accountOfLine = earlier.map .ok ∧
      (entries after).map accountOfLine = later.map .ok := by
  unfold parse at h
  rw [hlines, parseLines_eq_ok_iff, entries_of_counts hcounts, List.map_append, List.map_cons] at h
  obtain ⟨earlier, others, rfl, hbefore, hothers⟩ := List.map_eq_append_iff.1 h.symm
  obtain ⟨a, later, rfl, ha, hafter⟩ := List.map_eq_cons_iff.1 hothers
  rw [accountOfLine_trim] at ha
  exact ⟨earlier, a, later, rfl, readLine_eq_ok_singleton_iff.2 ⟨hcounts, ha.symm⟩, hbefore.symm,
    hafter.symm⟩

/-- A line that gives an account gives it wherever it stands. -/
theorem linesGive_of_readLine {before after : List (List CodePoint)} {earlier later : List Account}
    (hbefore : (entries before).map accountOfLine = earlier.map .ok)
    (hafter : (entries after).map accountOfLine = later.map .ok) {raw : List CodePoint}
    {a : Account} (h : readLine raw = .ok [a]) :
    LinesGive (before ++ raw :: after) (earlier ++ a :: later) := by
  intro text hlines
  obtain ⟨hcounts, ha⟩ := readLine_eq_ok_singleton_iff.1 h
  unfold parse
  rw [hlines, parseLines_eq_ok_iff, entries_of_counts hcounts, List.map_append, List.map_cons,
    List.map_append, List.map_cons, hbefore, hafter, accountOfLine_trim, ha]

/-- **Attributes.**  In a user map that can be read, every line that counts can be cut at its first
    `=` and at the commas behind it, and gives one of the accounts.  The account has the status that
    the last status word among the attributes sets, and is enabled if there is none; its roles are
    all other attributes that are not empty, trimmed, in their order and as often as they are there.
    Attributes of blanks may be put in anywhere, and a status may move past attributes that are
    none: the accounts are the same.  With `disabled` at the end of the line they are the same but
    for this one, which is disabled, and a store that finds it then rejects every password for its
    name. -/
theorem attributes_of_line {text : Text} {accounts : List Account}
    (h : parse text = .ok accounts) {before after : List (List CodePoint)} {raw : List CodePoint}
    (hlines : Text.splitLines text.toList = before ++ raw :: after)
    (hcounts : Text.trim raw ≠ [] ∧ (Text.trim raw).head? ≠ some (.char '#')) :
    (∃ l : Line, l.Unbroken ∧ l.text = raw) ∧
    ∀ l : Line, l.Unbroken → l.text = raw → ∃ earlier a later,
      accounts = earlier ++ a :: later ∧ earlier.length = (entries before).length ∧
      (∀ enabled, LastSets enabled l.tokens → a.enabled = enabled) ∧
      ((∀ token ∈ l.tokens, ¬ IsStatus (Text.trim token)) → a.enabled = true) ∧
      a.roles = ((l.tokens.map Text.trim).filter fun token => token ≠ [] ∧ ¬ IsStatus token).map
        Text.ofList ∧
      (∀ front blank back, l.tokens = front ++ back → Text.Blanks blank →
        LinesGive (before ++ { l with tokens := front ++ blank :: back }.text :: after) accounts) ∧
      (∀ front status between back, IsStatus (Text.trim status) →
        (∀ other ∈ between, ¬ IsStatus (Text.trim other)) →
        (l.tokens = front ++ status :: (between ++ back) →
          LinesGive
            (before ++ { l with tokens := front ++ (between ++ status :: back) }.text :: after)
            accounts) ∧
        (l.tokens = front ++ (between ++ status :: back) →
          LinesGive
            (before ++ { l with tokens := front ++ status :: (between ++ back) }.text :: after)
            accounts)) ∧
      LinesGive (before ++ (raw ++ Text.toList ",disabled") :: after)
        (earlier ++ { a with enabled := false } :: later) ∧
      ∀ (s : Store) password, s.find? a.username = some { a with enabled := false } →
        s.check ⟨a.username, password⟩ =
          .error (.rejected ⟨.disabled, "User is disabled", some a.username⟩) := by
  obtain ⟨earlier, a, later, haccounts, hread, hbefore, hafter⟩ :=
    exists_account_of_parse h hlines (isSkipped_eq_false_iff.2 hcounts)
  refine ⟨exists_line_of_readLine hread, ?_⟩
  rintro l hl rfl
  obtain ⟨-, ha⟩ := (Line.readLine_text_eq_ok_iff hl).1 hread
  have henabled : a.enabled = (Standing.readAll {} (l.tokens.map Text.trim)).enabled := by
    rw [ha, Line.account_eq]
  -- a line in the place of this one that gives the same account
  have hgive : ∀ {raw}, readLine raw = .ok [a] → LinesGive (before ++ raw :: after) accounts :=
    fun hsame => haccounts ▸ linesGive_of_readLine hbefore hafter hsame
  refine ⟨earlier, a, later, haccounts, ?_, fun enabled hlast => ?_, fun hnone => ?_, ?_,
    fun front blank back htokens hblank =>
      hgive (Line.readLine_text_insert hl hread htokens hblank),
    fun front status between back hstatus hbetween => ?_,
    linesGive_of_readLine hbefore hafter (Line.readLine_text_append_disabled hl hread),
    fun s password hfind => Store.check_of_disabled hfind rfl⟩
  · simpa using (congrArg List.length hbefore).symm
  · rw [henabled, Standing.enabled_readAll_of_lastSets hlast]
  · rw [henabled, Standing.enabled_readAll (Standing.status?_of_map_trim hnone)]
  · rw [ha]
    refine congrArg (List.map Text.ofList) (List.filter_congr fun token _ => ?_)
    rw [Bool.eq_iff_iff, decide_eq_true_iff, ← status?_eq_none_iff]
    simp
  · obtain ⟨hback, hforth⟩ := Line.readLine_text_move hl hread hstatus hbetween
    exact ⟨fun htokens => hgive (hback htokens), fun htokens => hgive (hforth htokens)⟩

/-- A line between others has two status words in different letter case, the last of which counts
    until `disabled` is written at the end. -/
theorem attributes_of_line_rod :
    let l : Line := ⟨Text.toList "rod", Text.toList " koala", [Text.toList "ADMIN",
      Text.toList " Disabled", Text.toList "USER", Text.toList "ENABLED", Text.toList "ADMIN"]⟩
    let rod : Account := ⟨"rod", "koala", ["ADMIN", "USER", "ADMIN"], true⟩
    let disabled : Account := { rod with enabled := false }
    let scott : Account := ⟨"scott", "emu", [], true⟩
    parse "# staff\nrod= koala,ADMIN, Disabled,USER,ENABLED,ADMIN\r\nscott=emu" =
        .ok [rod, scott] ∧
      l.Unbroken ∧ LastSets true l.tokens ∧ rod.enabled = true ∧
      parse "# staff\nrod= koala,\t,ADMIN, Disabled,USER,ENABLED,ADMIN\nscott=emu" =
        .ok [rod, scott] ∧
      parse "# staff\rrod= koala,ADMIN, Disabled,USER,ADMIN,ENABLED\nscott=emu\n" =
        .ok [rod, scott] ∧
      parse "# staff\nrod= koala,ADMIN, Disabled,USER,ENABLED,ADMIN,disabled\nscott=emu" =
        .ok [disabled, scott] ∧
      ((Store.empty true).put disabled).check ⟨"rod", "koala"⟩ =
        .error (.rejected ⟨.disabled, "User is disabled", some "rod"⟩) := by
  intro l rod disabled scott
  have hl : l.Unbroken := ⟨by decide, by decide, by decide⟩
  have hparse : parse "# staff\nrod= koala,ADMIN, Disabled,USER,ENABLED,ADMIN\r\nscott=emu" =
      .ok [rod, scott] := by rfl
  have hlast : LastSets true l.tokens :=
    ⟨l.tokens.take 3, Text.toList "ENABLED", [Text.toList "ADMIN"], rfl, by rfl,
      by decide +kernel⟩
  have hlines : Text.splitLines
      (Text.toList "# staff\nrod= koala,ADMIN, Disabled,USER,ENABLED,ADMIN\r\nscott=emu") =
        [Text.toList "# staff"] ++ l.text :: [Text.toList "scott=emu"] := by rfl
  obtain ⟨-, hline⟩ := attributes_of_line hparse hlines (by decide +kernel)
  obtain ⟨earlier, a, later, haccounts, hcount, henabled, -, -, hinsert, hmove, hdisabled,
    hcheck⟩ := hline l hl rfl
  obtain rfl : earlier = [] := List.length_eq_zero_iff.1 hcount
  obtain ⟨rfl, rfl⟩ := List.cons.inj haccounts
  refine ⟨hparse, hl, hlast, henabled true hlast, ?_, ?_, hdisabled _ (by rfl), ?_⟩
  · exact hinsert [] (Text.toList "\t") l.tokens rfl (by decide) _ (by rfl)
  · exact (hmove (l.tokens.take 3) (Text.toList "ENABLED") [Text.toList "ADMIN"] []
      (by decide +kernel) (by decide +kernel)).1 rfl _ (by rfl)
  · exact hcheck ((Store.empty true).put disabled) "koala" rfl

end Turnstile.UserMap
