import Turnstile.Codec.Usual
import Turnstile.Proofs.Credentials.RoundTrip
import Turnstile.Proofs.Store.History
import Turnstile.Proofs.UserMap.RoundTrip
import Turnstile.Proofs.Verdict

namespace Turnstile

/-!
# Who can log in

Which accounts of a user map a gate lets in, when its authenticator looks into the store of that
user map and credentials are written in UTF-8.

* `Gate.Admits` — an evaluation that establishes an identity;
* `Gate.admits_iff` — the account behind an identity;
* `Gate.admits_own_iff` — an account is let in with its own header value if it is enabled and no
  colon is in its name;
* `Gate.logins_of_userMap` — **who can log in**: these accounts, if UTF-8 can write them, and nobody
  else.

A colon in a username moves into the password when the header value is read, so that such
credentials may well open the account of another user.  An account whose name or password holds half
a surrogate pair has no header value at all.
-/

namespace Gate

/-- The evaluation of a header value establishes an identity. -/
def Admits (g : Gate) (number : Nat) (header : Option Text) (path : Text) (m : Machine)
    (identity : Identity) : Prop :=
  ∃ d, ((g.evaluate number header path).run m).1 = .ok d ∧ d.phase = .authenticated ∧
    d.identity? = some identity

/-- Only one kind of decision establishes an identity. -/
theorem admits_iff_verdict {g : Gate} {number : Nat} {header : Option Text} {path : Text}
    {m : Machine} {identity : Identity} :
    g.Admits number header path m identity ↔
      ∃ username, g.verdict m.observation.identity header =
        .ok (.authenticated username identity) := by
  unfold Admits
  rw [(g.evaluate_ends number header path m).1]
  constructor
  · rintro ⟨d, hd, -, hidentity⟩
    cases d with
    | authenticated username i =>
      cases hidentity
      exact ⟨username, hd⟩
    | _ => nomatch hidentity
  · rintro ⟨username, hverdict⟩
    exact ⟨_, hverdict, rfl, rfl⟩

section

variable {g : Gate} {store : Store} {number : Nat} {path : Text} {m : Machine}

/-- The identity that is established is that of an enabled account, whose name and password are in
    the header value. -/
theorem admits_iff (hstore : g.authenticator = store.authenticator)
    (hcharset : g.registry.lookup g.charset = .ok (.text Charset.utf8.codec))
    {header : Option Text} {identity : Identity} :
    g.Admits number header path m identity ↔ m.observation.identity = none ∧
      ∃ a, store.find? a.username = some a ∧ a.enabled = true ∧ identity = a.identity ∧
        Credentials.read g.registry g.charset header = .ok (.ok ⟨a.username, a.password⟩) := by
  have hreply : ∀ c, (g.authenticator.answer c).reply = (store.answer c).reply := by
    intro c
    rw [hstore]
    rfl
  simp only [admits_iff_verdict, verdict_eq_authenticated_iff, hreply]
  constructor
  · rintro ⟨username, hempty, c, hread, hanswer, -⟩
    have hstuck : ¬ Store.Stuck store.find? c := by
      intro hstuck
      obtain ⟨e, he⟩ := Store.answer_of_stuck hstuck
      nomatch hanswer.symm.trans he
    obtain ⟨a, hfind, henabled, hpassword, rfl⟩ :=
      ((Store.judged_answer hstuck).accepted identity).1 hanswer
    have hname := Store.username_of_find? hfind
    refine ⟨hempty, a, hname.symm ▸ hfind, henabled, ?_, ?_⟩
    · simp [Account.identity, hname]
    · rw [hname, ← hpassword]
      exact hread
  · rintro ⟨hempty, a, hfind, henabled, rfl, hread⟩
    -- what has been read can be written, so that the password can be compared
    have hpassword := (Credentials.writable_of_read hcharset hread).2
    have hstuck : ¬ Store.Stuck store.find? ⟨a.username, a.password⟩ := by
      rintro ⟨b, hb, -, hno⟩
      cases hfind.symm.trans hb
      exact hno ⟨hpassword, hpassword⟩
    exact ⟨a.username, hempty, _, hread,
      ((Store.judged_answer hstuck).accepted _).2 ⟨a, hfind, henabled, rfl, rfl⟩, rfl⟩

end

end Gate

/-! ### The header value of an account -/

/-- The credentials of an account. -/
def Account.credentials (a : Account) : Credentials where
  username := a.username
  password := a.password

/-- Credentials that UTF-8 can write have a header value, and it is read as their text is, under
    whatever label of UTF-8. -/
theorem Credentials.header_utf8 {registry : Registry} {label : Text}
    (hlabel : registry.lookup label = .ok (.text Charset.utf8.codec)) {c : Credentials}
    (hwritable : c.username.Writable ∧ c.password.Writable) :
    ∃ value, header registry defaultCharset c = .ok value ∧
      read registry label (some value) = .ok (ofText c.text) := by
  have hdefault : registry.lookup defaultCharset = .ok (.text Charset.utf8.codec) :=
    registry.lookup_utf8
  have hsame : header registry defaultCharset c = header registry label c := by
    unfold header
    rw [encode_of_lookup hdefault, encode_of_lookup hlabel]
  rw [hsame]
  exact read_header hlabel Charset.reversible_utf8 (canWrite_text_iff.2
    (hwritable.imp Charset.Utf8.exists_encode_iff.2 Charset.Utf8.exists_encode_iff.2))

/-- All others have none. -/
theorem Credentials.header_of_unwritable (registry : Registry) {c : Credentials}
    (h : ¬ (c.username.Writable ∧ c.password.Writable)) :
    ∃ e, header registry defaultCharset c = .error (.unencodable e) := by
  have hdefault : registry.lookup defaultCharset = .ok (.text Charset.utf8.codec) :=
    registry.lookup_utf8
  unfold header
  rw [encode_of_lookup hdefault]
  cases hencode : Charset.utf8.encode c.text with
  | ok bytes =>
    have hparts := canWrite_text_iff.1 ⟨bytes, hencode⟩
    exact absurd
      (hparts.imp Charset.Utf8.exists_encode_iff.1 Charset.Utf8.exists_encode_iff.1) h
  | error e =>
    refine ⟨e, ?_⟩
    dsimp only [Charset.codec]
    rw [hencode]
    rfl

/-- The text of credentials, taken apart, gives credentials of the same name only if no colon is in
    the name, and then they are the same altogether. -/
theorem Credentials.eq_of_ofText_text {c c' : Credentials} (h : ofText c.text = .ok c')
    (hname : c'.username = c.username) : c' = c ∧ CodePoint.char ':' ∉ c.username.toList := by
  obtain ⟨htext, -, -, hcolon⟩ := ofText_eq_ok_iff.1 h
  rw [hname] at hcolon
  refine ⟨?_, hcolon⟩
  have hsides : c.username.toList ++ .char ':' :: c.password.toList =
      c.username.toList ++ .char ':' :: c'.password.toList := by
    rw [text, text, hname] at htext
    exact htext
  have hpassword : c.password.toList = c'.password.toList := by simpa using hsides
  cases c'
  cases c
  simp_all [Text.toList_inj]

namespace Gate

section

variable {g : Gate} {store : Store}

/-- **An account is let in with its own header value** if it is enabled and no colon is in its
    name. -/
theorem admits_own_iff (hstore : g.authenticator = store.authenticator)
    (hcharset : g.registry.lookup g.charset = .ok (.text Charset.utf8.codec)) {a : Account}
    (hfind : store.find? a.username = some a) (husername : a.username ≠ "")
    (hpassword : a.password ≠ "") {value : Text}
    (hread : Credentials.read g.registry g.charset (some value) =
      .ok (Credentials.ofText a.credentials.text))
    {number : Nat} {path : Text} {m : Machine} (hempty : m.observation.identity = none) :
    (∃ identity, g.Admits number (some value) path m identity ∧ identity.id = a.username ∧
      identity.roles = a.roles) ↔ a.enabled = true ∧ CodePoint.char ':' ∉ a.username.toList := by
  constructor
  · rintro ⟨identity, hadmits, hid, -⟩
    obtain ⟨-, b, hb, henabled, rfl, hreadb⟩ := (admits_iff hstore hcharset).1 hadmits
    -- the account that is opened has the same name, so that it is the same account
    have hname : b.username = a.username := hid
    cases hfind.symm.trans (hname ▸ hb)
    have hown := Except.ok.inj (hread.symm.trans hreadb)
    exact ⟨henabled, (Credentials.eq_of_ofText_text hown rfl).2⟩
  · rintro ⟨henabled, hcolon⟩
    have hown : Credentials.ofText a.credentials.text = .ok a.credentials :=
      Credentials.ofText_eq_ok_iff.2 ⟨rfl, husername, hpassword, hcolon⟩
    refine ⟨a.identity, (admits_iff hstore hcharset).2 ⟨hempty, a, hfind, henabled, rfl, ?_⟩, rfl,
      rfl⟩
    rw [hread, hown]
    rfl

end

/-- **Who can log in.**  A gate looks into the store of a user map and reads credentials in UTF-8.
    If UTF-8 can write the name and the password of an account, the last one of its name, then on an
    empty context the header value that is written for them establishes an identity of that name
    with the roles of the account if the account is enabled and no colon is in its name, and only
    then.  If it can not, there is no such header value.  No header value at all establishes an
    identity with a colon in its name, or with a name that is not in the user map. -/
theorem logins_of_userMap {text : Text} {accounts : List Account}
    (hparse : UserMap.parse text = .ok accounts) (hidesUnknown : Bool) :
    ∃ store, Store.ofUserMap hidesUnknown text = .ok store ∧
      ∀ g : Gate, g.authenticator = store.authenticator →
        g.registry.lookup g.charset = .ok (.text Charset.utf8.codec) →
        (∀ a, Account.last? accounts a.username = some a →
          let header := Credentials.header g.registry defaultCharset ⟨a.username, a.password⟩
          (a.username.Writable ∧ a.password.Writable → ∃ value, header = .ok value ∧
            ∀ number path m, m.observation.identity = none →
              ((∃ identity, g.Admits number (some value) path m identity ∧
                  identity.id = a.username ∧ identity.roles = a.roles) ↔
                a.enabled = true ∧ CodePoint.char ':' ∉ a.username.toList)) ∧
          (¬ (a.username.Writable ∧ a.password.Writable) →
            ∃ e, header = .error (.unencodable e))) ∧
        ∀ number header path m identity, g.Admits number header path m identity →
          CodePoint.char ':' ∉ identity.id.toList ∧ ∃ a ∈ accounts, a.username = identity.id := by
  obtain ⟨store, hstore, -, hfind⟩ :=
    Store.find?_ofAccounts hidesUnknown (UserMap.username_ne_of_parse hparse)
  refine ⟨store, ?_, fun g hauthenticator hcharset => ⟨fun a hlast => ⟨fun hwritable => ?_,
    Credentials.header_of_unwritable g.registry (c := a.credentials)⟩, ?_⟩⟩
  · unfold Store.ofUserMap
    rw [hparse]
    exact hstore
  · obtain ⟨value, hvalue, hread⟩ :=
      Credentials.header_utf8 (c := a.credentials) hcharset hwritable
    have hformed := UserMap.wellFormed_of_parse hparse a (Account.mem_of_last? hlast).1
    exact ⟨value, hvalue, fun number path m hempty =>
      admits_own_iff hauthenticator hcharset ((hfind _).trans hlast) hformed.username.ne
        hformed.password.ne hread hempty⟩
  · intro number header path m identity hadmits
    obtain ⟨-, a, ha, -, rfl, hread⟩ := (admits_iff hauthenticator hcharset).1 hadmits
    obtain ⟨_, _, _, _, _, -, -, hcolon⟩ := (Credentials.read_eq_ok_iff hcharset).1 hread
    exact ⟨hcolon, a, (Account.mem_of_last? ((hfind _).symm.trans ha)).1, rfl⟩

/-- An account whose password holds half a surrogate pair is enabled and has no colon in its name,
    but nobody can log in with the header value of its name and password, as there is none. -/
theorem no_login_of_half :
    let half : Text := Text.ofList [.surrogate 0]
    let a : Account := ⟨"rod", half, [], true⟩
    UserMap.parse ("rod=" ++ half) = .ok [a] ∧ Account.last? [a] a.username = some a ∧
      (a.enabled = true ∧ CodePoint.char ':' ∉ a.username.toList) ∧
      ∀ (g : Gate) number path m, ¬ ∃ value identity,
        Credentials.header g.registry defaultCharset ⟨a.username, a.password⟩ = .ok value ∧
          g.Admits number (some value) path m identity := by
  intro half a
  refine ⟨by rfl, rfl, by decide, fun g number path m => ?_⟩
  rintro ⟨value, identity, hvalue, -⟩
  obtain ⟨e, he⟩ := Credentials.header_of_unwritable g.registry (c := ⟨"rod", half⟩) (by decide)
  nomatch hvalue.symm.trans he

/-- The header value of `rod:koala` is that of `rod` with another password, so that only `rod` can
    log in with it. -/
theorem logins_of_userMap_colon :
    let text : Text := "rod=koala:x,USER\nrod:koala=x,ADMIN"
    let m : Machine := Action.enter.apply (.start ⟨{ type := none }, none⟩)
    let rod : Account := ⟨"rod", "koala:x", [("USER" : Text)], true⟩
    let other : Account := ⟨"rod:koala", "x", [("ADMIN" : Text)], true⟩
    UserMap.parse text = .ok [rod, other] ∧
      ∃ store, Store.ofUserMap true text = .ok store ∧
        let g : Gate := ⟨store.authenticator, ⟨fun _ _ => {}⟩, false, "UTF8", .usual⟩
        let LogsIn (a : Account) : Prop :=
          ∃ value, Credentials.header .usual defaultCharset ⟨a.username, a.password⟩ = .ok value ∧
            ∃ identity, g.Admits 0 (some value) "/p" m identity ∧ identity.id = a.username ∧
              identity.roles = a.roles
        g.registry.lookup g.charset = .ok (.text Charset.utf8.codec) ∧
          m.observation.identity = none ∧ LogsIn rod ∧ ¬ LogsIn other ∧
          ∀ header identity, g.Admits 0 header "/p" m identity →
            CodePoint.char ':' ∉ identity.id.toList := by
  intro text m rod other
  have hparse : UserMap.parse text = .ok [rod, other] := by decide +kernel
  have hlabel : Registry.usual.lookup "UTF8" = .ok (.text Charset.utf8.codec) := rfl
  have hempty : m.observation.identity = none := identity_enter _
  obtain ⟨store, hstore, hlogins⟩ := logins_of_userMap hparse true
  obtain ⟨hown, hothers⟩ :=
    hlogins ⟨store.authenticator, ⟨fun _ _ => {}⟩, false, "UTF8", .usual⟩ rfl hlabel
  refine ⟨hparse, store, hstore, hlabel, hempty, ?_, ?_, fun header identity hadmits =>
    (hothers _ _ _ _ _ hadmits).1⟩
  · obtain ⟨value, hvalue, hiff⟩ := (hown rod rfl).1 (by decide)
    exact ⟨value, hvalue, (hiff 0 "/p" m hempty).2 (by decide)⟩
  · obtain ⟨value, hvalue, hiff⟩ := (hown other rfl).1 (by decide)
    rintro ⟨value', hvalue', hin⟩
    cases hvalue.symm.trans hvalue'
    exact absurd ((hiff 0 "/p" m hempty).1 hin) (by decide)

end Gate

end Turnstile
