import Turnstile.Authenticator
import Turnstile.Proofs.Store
import Turnstile.Proofs.UserMap

namespace Turnstile

/-!
# User maps one behind the other

Two user maps with a line feed between them are one user map.

* `Account.last?_append_of_mem`, `Account.last?_append_of_not_mem` — the last account of a name, by
  whether the later accounts have that name;
* `Store.ofUserMap_of_parse`, `Store.ofUserMap_eq_error` — the store of a user map that can be read,
  and that any other has none;
* `Store.answer_of_find?` — the account that a store finds for a name settles its answer;
* `UserMap.parse_append` — **the accounts** are those of the one and then those of the other;
* `UserMap.parse_joined` — **the errors and the store** of both.
-/

/-! ### Stores -/

namespace Account

variable {accounts later : List Account} {username : Text}

theorem last?_eq_none_iff :
    last? accounts username = none ↔ username ∉ accounts.map Account.username := by
  unfold last?
  rw [List.getLast?_eq_none_iff, List.filter_eq_nil_iff, List.mem_map]
  simp

/-- Of accounts one behind the other the later ones count. -/
theorem last?_append_of_mem (h : username ∈ later.map Account.username) :
    last? (accounts ++ later) username = last? later username := by
  rw [last?_append]
  cases hlater : last? later username with
  | none => exact absurd h (last?_eq_none_iff.1 hlater)
  | some a => rfl

/-- Under other names they change nothing. -/
theorem last?_append_of_not_mem (h : username ∉ later.map Account.username) :
    last? (accounts ++ later) username = last? accounts username := by
  rw [last?_append, last?_eq_none_iff.2 h, Option.none_or]

end Account

namespace Store

/-- The store of a user map finds the last account of each name. -/
theorem ofUserMap_of_parse {text : Text} {accounts : List Account}
    (h : UserMap.parse text = .ok accounts) (hidesUnknown : Bool) :
    ∃ s, ofUserMap hidesUnknown text = .ok s ∧ s.hidesUnknown = hidesUnknown ∧
      ∀ username, s.find? username = Account.last? accounts username := by
  obtain ⟨s, hs, hfound⟩ := find?_ofAccounts hidesUnknown (UserMap.username_ne_of_parse h)
  refine ⟨s, ?_, hfound⟩
  unfold ofUserMap
  rw [h]
  exact hs

/-- Stores that find the same account for a name answer to it alike. -/
theorem answer_of_find? {s s' : Store} {c : Credentials}
    (hfind : s.find? c.username = s'.find? c.username)
    (hhides : s.hidesUnknown = s'.hidesUnknown) : s.answer c = s'.answer c := by
  unfold answer note contains check unknown
  rw [hfind, hhides]

end Store

namespace UserMap

/-! ### Texts -/

/-- A line feed at the end of a user map makes no difference. -/
theorem parse_newline (text : Text) : parse (text ++ "\n") = parse text := by
  have hnewline : (text ++ "\n").toList = text.toList ++ [.char '\n'] := rfl
  unfold parse
  rw [hnewline]
  rcases Text.splitLines_newline text.toList with h | h
  · rw [h]
  · -- the empty line at the end adds no account
    rw [h, parseLines_append]
    cases parseLines 1 (Text.splitLines text.toList) with
    | error e => rfl
    | ok accounts => exact congrArg Except.ok (List.append_nil accounts)

/-- **The accounts of two user maps** are those of the first and then those of the second, unless
    one of them is faulty; the lines of the second are counted on from those of the first. -/
theorem parse_append (first second : Text) :
    parse (first ++ "\n" ++ second) =
      parse first >>= fun accounts => (accounts ++ ·) <$>
        (parse second).mapError (.behind (Text.splitLines (first ++ "\n").toList).length) := by
  have hnewline : (first ++ "\n").toList = first.toList ++ [.char '\n'] := rfl
  have hjoined : (first ++ "\n" ++ second).toList = first.toList ++ .char '\n' :: second.toList :=
    List.append_assoc first.toList [.char '\n'] second.toList
  rw [← parse_newline first]
  unfold parse
  rw [hjoined, Text.splitLines_append_newline, ← hnewline, parseLines_append, Nat.add_comm 1,
    parseLines_add]

/-- **User maps one behind the other.**  Two user maps are joined by a line feed.  If the first is
    faulty its error is that of both.  If only the second is, its error is found as many lines later
    as there are lines in the first with the line feed.  If neither is, the accounts are those of
    the first and then those of the second; and the authenticator of both answers as that of the
    second under the names that occur there, and as that of the first under all others. -/
theorem parse_joined (first second : Text) :
    (∀ e, parse first = .error e → parse (first ++ "\n" ++ second) = .error e) ∧
    (∀ accounts e, parse first = .ok accounts → parse second = .error e →
      parse (first ++ "\n" ++ second) =
        .error ⟨(Text.splitLines (first ++ "\n").toList).length + e.line, e.problem⟩) ∧
    ∀ accounts later, parse first = .ok accounts → parse second = .ok later →
      parse (first ++ "\n" ++ second) = .ok (accounts ++ later) ∧
      ∀ hidesUnknown, ∃ s s₁ s₂,
        Store.ofUserMap hidesUnknown (first ++ "\n" ++ second) = .ok s ∧
        Store.ofUserMap hidesUnknown first = .ok s₁ ∧
        Store.ofUserMap hidesUnknown second = .ok s₂ ∧
        ∀ c, s.authenticator.answer c =
          if c.username ∈ later.map Account.username then s₂.authenticator.answer c
          else s₁.authenticator.answer c := by
  have hjoined := parse_append first second
  refine ⟨fun e h => ?_, fun accounts e h h' => ?_, fun accounts later h h' => ?_⟩
  · rw [h] at hjoined
    exact hjoined
  · rw [h, h'] at hjoined
    exact hjoined
  · rw [h, h'] at hjoined
    have hboth : parse (first ++ "\n" ++ second) = .ok (accounts ++ later) := hjoined
    refine ⟨hboth, fun hidesUnknown => ?_⟩
    obtain ⟨s, hs, hhides, hfind⟩ := Store.ofUserMap_of_parse hboth hidesUnknown
    obtain ⟨s₁, hs₁, hhides₁, hfind₁⟩ := Store.ofUserMap_of_parse h hidesUnknown
    obtain ⟨s₂, hs₂, hhides₂, hfind₂⟩ := Store.ofUserMap_of_parse h' hidesUnknown
    refine ⟨s, s₁, s₂, hs, hs₁, hs₂, fun c => ?_⟩
    split
    · rename_i hname
      refine Store.answer_of_find? ?_ (hhides.trans hhides₂.symm)
      rw [hfind, hfind₂, Account.last?_append_of_mem hname]
    · rename_i hname
      refine Store.answer_of_find? ?_ (hhides.trans hhides₁.symm)
      rw [hfind, hfind₁, Account.last?_append_of_not_mem hname]

/-- A carriage return at the end of the first text and the line feed behind it are one end of a
    line, and the account of `rod` is written over. -/
theorem parse_joined_rod :
    let first : Text := "rod=koala,ADMIN\nscott=emu\r"
    let rod : Account := ⟨"rod", "koala", ["ADMIN"], true⟩
    let scott : Account := ⟨"scott", "emu", [], true⟩
    parse first = .ok [rod, scott] ∧
      parse "#\n=x" = .error ⟨2, .noUsername⟩ ∧
      parse (first ++ "\n" ++ "#\n=x") = .error ⟨4, .noUsername⟩ ∧
      parse ("rod" ++ "\n" ++ first) = .error ⟨1, .noUsername⟩ ∧
      parse "rod=x,disabled" = .ok [⟨"rod", "x", [], false⟩] ∧
      parse (first ++ "\n" ++ "rod=x,disabled") = .ok [rod, scott, ⟨"rod", "x", [], false⟩] ∧
      ∃ s, Store.ofUserMap true (first ++ "\n" ++ "rod=x,disabled") = .ok s ∧
        (s.authenticator.answer ⟨"rod", "koala"⟩).reply =
          .error (.rejected ⟨.disabled, "User is disabled", some "rod"⟩) ∧
        (s.authenticator.answer ⟨"scott", "emu"⟩).reply = .ok (some scott.identity) := by
  intro first rod scott
  have hfirst : parse first = .ok [rod, scott] := by
    dsimp only [first]
    rfl
  have hcount : (Text.splitLines (first ++ "\n").toList).length = 2 := by
    dsimp only [first]
    rfl
  have hfaulty : parse "#\n=x" = .error ⟨2, .noUsername⟩ := rfl
  have hunnamed : parse "rod" = .error ⟨1, .noUsername⟩ := rfl
  have hlater : parse "rod=x,disabled" = .ok [⟨"rod", "x", [], false⟩] := rfl
  obtain ⟨hboth, hstores⟩ := (parse_joined first "rod=x,disabled").2.2 _ _ hfirst hlater
  have hsecond := (parse_joined first _).2.1 _ _ hfirst hfaulty
  rw [hcount] at hsecond
  refine ⟨hfirst, hfaulty, hsecond, (parse_joined "rod" first).1 _ hunnamed, hlater, hboth, ?_⟩
  obtain ⟨s, s₁, s₂, hs, hs₁, hs₂, hanswer⟩ := hstores true
  have hstore₁ : Store.ofUserMap true first = .ok (((Store.empty true).put rod).put scott) := by
    dsimp only [first]
    rfl
  have hstore₂ : Store.ofUserMap true "rod=x,disabled" =
      .ok ((Store.empty true).put ⟨"rod", "x", [], false⟩) := rfl
  cases hs₁.symm.trans hstore₁
  cases hs₂.symm.trans hstore₂
  refine ⟨s, hs, ?_, ?_⟩
  · rw [hanswer, if_pos (by decide)]
    rfl
  · rw [hanswer, if_neg (by decide)]
    dsimp only [rod, scott]
    rfl

end UserMap

end Turnstile
