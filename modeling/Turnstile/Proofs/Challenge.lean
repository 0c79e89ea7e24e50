import Mathlib.Data.List.Basic
import Turnstile.Challenge
import Turnstile.Proofs.Charset.Reversible
import Turnstile.Proofs.Http.Response

namespace Turnstile

/-!
# Challenges that can be sent

* `Challenge.response_rejected`, `Challenge.commence_rejected` — **a realm in Latin-1 gives a
  challenge that can be sent**: a rejected request is answered with it.
-/

/-- Latin-1 writes the texts of characters below `100`. -/
theorem Charset.Repertoire.exists_encode_latin1_iff {cs : List CodePoint} :
    (∃ bytes, latin1.encode cs = .ok bytes) ↔ ∀ c ∈ cs, c.toNat < 0x100 := by
  have hwrite : (Charset.bytewise .latin1).CanWrite cs ↔
      ∀ c ∈ cs, (Charset.bytewise .latin1).lacks c = false := canWrite_iff
  refine hwrite.trans (forall₂_congr fun c _ => ?_)
  show (latin1.byte? c).isNone = false ↔ _
  unfold byte?
  dsimp only
  split <;> simp_all

namespace Challenge

/-- What is written for characters adds only the characters of the form. -/
theorem mem_substitute {c d : CodePoint} {form cs : List CodePoint} (h : d ∈ substitute c form cs) :
    d ∈ form ∨ d ∈ cs := by
  obtain ⟨e, hmem, hd⟩ := List.mem_flatMap.1 h
  split at hd
  · exact .inl hd
  · exact .inr (List.mem_singleton.1 hd ▸ hmem)

/-- Escaping adds only backslashes and quotes. -/
theorem mem_escaped {d : CodePoint} {cs : List CodePoint} (h : d ∈ escaped cs) :
    d = '"' ∨ d = '\\' ∨ d ∈ cs := by
  rcases mem_substitute h with h | h
  · rcases List.mem_pair.1 h with rfl | rfl
    · exact .inr (.inl rfl)
    · exact .inl rfl
  · rcases mem_substitute h with h | h
    · rcases List.mem_pair.1 h with rfl | rfl <;> exact .inr (.inl rfl)
    · exact .inr (.inr h)

/-- The realm is in Latin-1. -/
def InLatin1 (c : Challenge) : Prop :=
  ∀ d ∈ c.realm.toList, d.toNat < 0x100

variable {c : Challenge}

theorem toList_text (c : Challenge) :
    c.text.toList =
      Text.toList "Basic realm=" ++ (.char '"' :: escaped c.realm.toList ++ [.char '"']) := rfl

/-- A challenge for a realm in Latin-1 is in Latin-1. -/
theorem toNat_lt_of_mem_text (h : c.InLatin1) : ∀ d ∈ c.text.toList, d.toNat < 0x100 := by
  -- the realm is in Latin-1, and all that is written around it and into it is in ASCII
  have hscheme : ((Text.toList "Basic realm=").all fun d => decide (d.toNat < 0x100)) = true := rfl
  intro d hmem
  rw [toList_text, List.mem_append, List.mem_append, List.mem_cons, List.mem_singleton] at hmem
  rcases hmem with hmem | (rfl | hmem) | rfl
  · exact of_decide_eq_true (List.all_eq_true.1 hscheme d hmem)
  · decide
  · rcases mem_escaped hmem with rfl | rfl | hmem
    · decide
    · decide
    · exact h d hmem
  · decide

/-- A request that was rejected is told of the rejection. -/
theorem response_rejected (h : c.InLatin1) (r : Rejection) :
    c.response (some (.rejected r)) =
      Http.Response.plain 401 [("www-authenticate", c.text)] r.message := by
  obtain ⟨bytes, hbytes⟩ :=
    Charset.Repertoire.exists_encode_latin1_iff.2 (toNat_lt_of_mem_text h)
  unfold response body
  dsimp only
  rw [hbytes]
  cases Http.Response.plain 401 [("www-authenticate", c.text)] r.message <;> rfl

/-- **A rejected request is answered with the challenge.** -/
theorem commence_rejected (h : c.InLatin1) (request : Request) {r : Rejection}
    {response : Http.Response}
    (hresponse : Http.Response.plain 401 [("www-authenticate", c.text)] r.message = .ok response) :
    c.entryPoint.commence request (some (.rejected r)) =
      { log := [c.note], messages := response.messages (request.hasType "websocket") } := by
  unfold entryPoint
  dsimp only
  rw [response_rejected h, hresponse]

end Challenge

end Turnstile
