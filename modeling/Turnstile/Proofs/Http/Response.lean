import Turnstile.Http.Response
import Turnstile.Proofs.Charset.Utf8

namespace Turnstile.Http.Response

/-!
# Responses that can be written

* `plain_of_encode`, `plain_ofString` — a response of plain text is there if UTF-8 can write its
  body;
* `exists_json_iff`, `json_of_unwritable` — the same for one that holds a value.
-/

/-- A response of plain text is there if its body can be written. -/
theorem plain_of_encode {body : Text} {bytes : List UInt8}
    (h : Charset.Utf8.encode body.toList = .ok bytes) (status : Nat)
    (headers : List (Text × Text)) :
    plain status headers body =
      .ok (.ofBody status headers plainText body bytes.length) := by
  unfold plain
  rw [h]

/-- A body of characters can be written. -/
theorem plain_ofString (status : Nat) (headers : List (Text × Text)) (body : String) :
    plain status headers body = .ok (.notice status headers body) := by
  obtain ⟨bytes, hbytes, hlength⟩ := Charset.Utf8.encode_ofString body
  rw [plain_of_encode hbytes, hlength]
  rfl

/-- A response that holds a value is there if its JSON can be written. -/
theorem exists_json_iff {v : Value} : (∃ r, json v = .ok r) ↔ v.json.Writable := by
  unfold json Text.Writable
  rw [← Charset.Utf8.exists_encode_iff]
  cases Charset.Utf8.encode v.json.toList <;> simp

theorem json_of_unwritable {v : Value} (h : ¬ v.json.Writable) :
    ∃ e, json v = .error (.unencodable e) := by
  unfold json
  cases hencode : Charset.Utf8.encode v.json.toList with
  | ok bytes => exact absurd (Charset.Utf8.exists_encode_iff.1 ⟨bytes, hencode⟩) h
  | error e => exact ⟨e, rfl⟩

end Turnstile.Http.Response
