import Turnstile.Proofs.Challenge

namespace Turnstile

/-!
# Realms in quotes

A challenge announces its realm in quotes.  A client reads what is between them from left to right,
and takes the character behind a backslash as it is.

* `Reading`, `unquote` — a reader of quoted strings, and how it comes to an end;
* `Challenge.escaped_eq_flatMap` — the two substitutions, one after the other, are one pass over the
  realm;
* `Challenge.unquote_escaped` — what has been escaped is read back, whatever follows it;
* `Challenge.quotes_realm` — **realms are quoted faithfully**.
-/

/-! ### Reading a quoted string -/

/-- How the reading of a quoted string ends, with the content that has been read. -/
inductive Reading
  /-- A quote without a backslash ends the string, and some text follows it. -/
  | closed (content rest : List CodePoint)
  /-- The text ends within the string. -/
  | unclosed (content : List CodePoint)
  /-- The text ends within the string, behind a backslash for which there is no character. -/
  | dangling (content : List CodePoint)
  deriving DecidableEq

/-- A reading that comes after some content has been read already. -/
def Reading.behind (read : List CodePoint) : Reading → Reading
  | .closed content rest => .closed (read ++ content) rest
  | .unclosed content => .unclosed (read ++ content)
  | .dangling content => .dangling (read ++ content)

theorem Reading.behind_behind (first second : List CodePoint) (r : Reading) :
    (r.behind second).behind first = r.behind (first ++ second) := by
  cases r <;> simp [behind]

/-- Reads a quoted string, from behind its opening quote. -/
def unquote : List CodePoint → Reading
  | [] => .unclosed []
  | .char '"' :: cs => .closed [] cs
  | ['\\'] => .dangling []
  | .char '\\' :: c :: cs => (unquote cs).behind [c]
  | c :: cs => (unquote cs).behind [c]

/-- A character that is neither a quote nor a backslash stands for itself. -/
theorem unquote_cons {c : CodePoint} (hquote : c ≠ '"') (hbackslash : c ≠ '\\')
    (cs : List CodePoint) : unquote (c :: cs) = (unquote cs).behind [c] := by
  rw [unquote]
  · exact hquote
  · exact fun h _ => hbackslash h
  · exact fun _ _ h _ => hbackslash h

namespace Challenge

/-! ### One pass over the realm -/

/-- A character of a realm as it stands between the quotes. -/
def escapedChar (c : CodePoint) : List CodePoint :=
  if c = '"' ∨ c = '\\' then ['\\', c] else [c]

/-- The backslashes that stand for quotes are not doubled, as the quotes are substituted last. -/
theorem escaped_eq_flatMap (cs : List CodePoint) : escaped cs = cs.flatMap escapedChar := by
  unfold escaped substitute
  rw [List.flatMap_assoc]
  refine List.flatMap_congr fun c _ => ?_
  by_cases hbackslash : c = '\\'
  · simp [hbackslash, escapedChar]
  · by_cases hquote : c = '"'
    · simp [hquote, escapedChar]
    · simp [hbackslash, hquote, escapedChar]

/-- A character is read back as it was, and the reading goes on behind it. -/
theorem unquote_escapedChar (c : CodePoint) (cs : List CodePoint) :
    unquote (escapedChar c ++ cs) = (unquote cs).behind [c] := by
  unfold escapedChar
  split
  · rfl
  · rename_i h
    obtain ⟨hquote, hbackslash⟩ := not_or.1 h
    exact unquote_cons hquote hbackslash cs

/-- **What has been escaped is read back**, and the reading goes on behind it. -/
theorem unquote_escaped (cs rest : List CodePoint) :
    unquote (escaped cs ++ rest) = (unquote rest).behind cs := by
  rw [escaped_eq_flatMap]
  induction cs with
  | nil => cases h : unquote rest <;> simp [Reading.behind, h]
  | cons c cs ih =>
    rw [List.flatMap_cons, List.append_assoc, unquote_escapedChar, ih, Reading.behind_behind]
    rfl

/-! ### A challenge -/

/-- **Realms are quoted faithfully.**  Every realm but the empty one gives a challenge in which some
    text stands between quotes.  A client that reads this text reads all of it, without a quote that
    ends it early or a backslash at its end, and what it has read is the realm; the quote behind it
    ends the string, whatever follows.  So different realms give different challenges. -/
theorem quotes_realm :
    (∀ realm : Text, realm ≠ "" → ∃ c inside, ofRealm (some realm) = .ok c ∧
      c.text = "Basic realm=" ++ "\"" ++ Text.ofList inside ++ "\"" ∧
      unquote inside = .unclosed realm.toList ∧
      ∀ rest, unquote (inside ++ .char '"' :: rest) = .closed realm.toList rest) ∧
    ∀ c c' : Challenge, c.text = c'.text → c.realm = c'.realm := by
  have hinside : ∀ realm : List CodePoint, unquote (escaped realm) = .unclosed realm := by
    intro realm
    have hread := unquote_escaped realm []
    simpa [unquote, Reading.behind] using hread
  have hclosed : ∀ realm rest : List CodePoint,
      unquote (escaped realm ++ .char '"' :: rest) = .closed realm rest := by
    intro realm rest
    rw [unquote_escaped]
    simp [unquote, Reading.behind]
  refine ⟨fun realm hrealm => ⟨⟨realm, hrealm⟩, escaped realm.toList, ?_, ?_,
    hinside realm.toList, hclosed realm.toList⟩, fun c c' htext => ?_⟩
  · exact dif_neg hrealm
  · rw [← Text.toList_inj, toList_text]
    simp only [Text.toList_append, List.append_assoc, List.cons_append]
    rfl
  · -- the text behind the opening quote is read back from both challenges
    have hquoted := congrArg Text.toList htext
    rw [toList_text, toList_text] at hquoted
    have hbehind : escaped c.realm.toList ++ [.char '"'] = escaped c'.realm.toList ++ [.char '"'] :=
      (List.cons.inj (List.append_cancel_left hquoted)).2
    have hread := congrArg unquote hbehind
    rw [hclosed, hclosed] at hread
    exact Text.toList_inj.1 (Reading.closed.inj hread).1

/-- A realm that tries to end the string and to announce another one. -/
theorem quotes_realm_zoo :
    let realm : Text := "Zoo\\\", realm=\"Den\\"
    realm ≠ "" ∧ ∃ c inside, ofRealm (some realm) = .ok c ∧
      c.text = "Basic realm=\"Zoo\\\\\\\", realm=\\\"Den\\\\\"" ∧
      unquote (inside ++ [.char '"']) = .closed realm.toList [] ∧
      ∀ c' : Challenge, c'.realm ≠ realm → c'.text ≠ c.text := by
  intro realm
  have hrealm : realm ≠ "" := by decide
  obtain ⟨c, inside, hmake, -, -, hclosed⟩ := quotes_realm.1 realm hrealm
  have hc : c.realm = realm := congrArg Challenge.realm (Except.ok.inj hmake).symm
  refine ⟨hrealm, c, inside, hmake, ?_, hclosed [], fun c' hne htext => hne ?_⟩
  · rw [← Text.toList_inj, toList_text, hc]
    dsimp only [realm]
    rfl
  · rw [quotes_realm.2 c' c htext, hc]

end Challenge

end Turnstile
