import Turnstile.Proofs.Charset.Reversible
import Turnstile.Proofs.Credentials.Grammar

namespace Turnstile.Credentials

/-!
# Credentials are read back as they were written

* `payload_written` — the bytes behind the scheme are read back from the header value;
* `read_header` — in a charset that can be undone, the header value of credentials is read as the
  text `username:password` is;
* `ofText_eq_split` — which is taken apart at its first colon;
* `read_undoes_header` — **writing and reading agree** in UTF-8, Latin-1 and ASCII.

Reading undoes writing only for usernames without a colon, since the first colon of the text is the
one that counts.
-/

/-- The bytes behind the scheme are read back. -/
theorem payload_written {bytes : List UInt8} (h : bytes ≠ []) :
    payload (some (scheme ++ " " ++ Text.ofList (Base64.encode bytes))) = .ok bytes := by
  have hspells := Base64.spells_encode bytes
  have hgap : Text.Blanks [' '] := by decide
  have hnothing : Text.Blanks [] := fun _ hc => nomatch hc
  refine payload_eq_ok_iff.2 ⟨_, rfl, [], scheme.toList, [' '], Base64.encode bytes, [], ?_,
    hnothing, hgap, hnothing, by decide, by decide, Base64.encode_ne_nil h, hspells.solid, hspells⟩
  simp only [Text.toList_append, List.append_nil, List.nil_append, List.append_assoc]
  rfl

/-- Text is written by the codec that the label names. -/
theorem encode_of_lookup {registry : Registry} {label : Text} {codec : Codec}
    (hlabel : registry.lookup label = .ok (.text codec)) (text : List CodePoint) :
    registry.encode label text = codec.encode text := by
  unfold Registry.encode Registry.codec
  rw [hlabel]

/-- The header value of credentials is read as their text is. -/
theorem read_header {registry : Registry} {label : Text} {charset : Charset}
    (hlabel : registry.lookup label = .ok (.text charset.codec)) (hcharset : charset.Reversible)
    {c : Credentials} (hwrite : charset.CanWrite c.text) :
    ∃ value, header registry label c = .ok value ∧
      read registry label (some value) = .ok (ofText c.text) := by
  obtain ⟨bytes, hbytes⟩ := hwrite
  have hback := hcharset.decode?_of_encode hbytes
  -- the text holds a colon, so that it is not written as nothing
  have hne : bytes ≠ [] := by
    rintro rfl
    have hnil := charset.decode?_nil.symm.trans hback
    have hlength := congrArg List.length (Option.some.inj hnil)
    simp [text] at hlength
  refine ⟨scheme ++ " " ++ Text.ofList (Base64.encode bytes), ?_, ?_⟩
  · unfold header
    rw [encode_of_lookup hlabel]
    dsimp only [Charset.codec]
    rw [hbytes]
    rfl
  · unfold read
    rw [payload_written hne]
    dsimp only
    rw [decode_of_lookup hlabel]
    dsimp only [Charset.codec]
    rw [hback]

/-- Credentials can be written if their two parts can. -/
theorem canWrite_text_iff {charset : Charset} {c : Credentials} :
    charset.CanWrite c.text ↔
      charset.CanWrite c.username.toList ∧ charset.CanWrite c.password.toList := by
  have htext : c.text = c.username.toList ++ ([.char ':'] ++ c.password.toList) := rfl
  rw [htext, Charset.canWrite_append_iff, Charset.canWrite_append_iff]
  exact and_congr_right fun _ => and_iff_right charset.canWrite_colon

/-- Credentials that are read in a charset that can be undone can be written in it. -/
theorem canWrite_of_read {registry : Registry} {label : Text} {charset : Charset}
    (hlabel : registry.lookup label = .ok (.text charset.codec)) (hcharset : charset.Reversible)
    {value : Option Text} {c : Credentials} (h : read registry label value = .ok (.ok c)) :
    charset.CanWrite c.text := by
  obtain ⟨_, _, bytes, _, htext, -⟩ := (read_eq_ok_iff hlabel).1 h
  exact hcharset.canWrite_of_decode? (Charset.decode_codec_eq_ok_iff.1 htext)

/-- UTF-8 can write the credentials that are read in it. -/
theorem writable_of_read {registry : Registry} {label : Text}
    (hlabel : registry.lookup label = .ok (.text Charset.utf8.codec)) {value : Option Text}
    {c : Credentials} (h : read registry label value = .ok (.ok c)) :
    c.username.Writable ∧ c.password.Writable := by
  have hparts := canWrite_text_iff.1 (canWrite_of_read hlabel Charset.reversible_utf8 h)
  exact hparts.imp Charset.Utf8.exists_encode_iff.1 Charset.Utf8.exists_encode_iff.1

/-- A text is taken apart at its first colon. -/
theorem ofText_eq_split {chars left right : List CodePoint}
    (hchars : chars = left ++ .char ':' :: right) (hcolon : CodePoint.char ':' ∉ left) :
    ofText chars = if left = [] ∨ right = [] then .error .noPair
      else .ok ⟨Text.ofList left, Text.ofList right⟩ := by
  unfold ofText
  rw [Text.cut?_eq_some_iff.2 ⟨hchars, hcolon⟩]
  simp only [Bool.or_eq_true, List.isEmpty_iff]

/-- **Writing and reading agree** in UTF-8, Latin-1 and ASCII.  A header value is written for all
    credentials whose two parts the charset can write.  It is read as the two sides of the first
    colon in `username:password`, or skipped if one side is empty, and so as the very credentials
    exactly if neither part is empty and no colon is in the username.  Conversely, credentials that
    are read from some header value can be written, and are read back. -/
theorem read_undoes_header {registry : Registry} {label : Text} {charset : Charset}
    (hlabel : registry.lookup label = .ok (.text charset.codec))
    (hcharset : charset = .utf8 ∨ charset = .bytewise .latin1 ∨ charset = .bytewise .ascii) :
    (∀ c : Credentials, charset.CanWrite c.username.toList →
      charset.CanWrite c.password.toList →
      ∃ value, header registry label c = .ok value ∧
        (∃ left right,
          c.username.toList ++ .char ':' :: c.password.toList = left ++ .char ':' :: right ∧
          CodePoint.char ':' ∉ left ∧ read registry label (some value) =
            .ok (if left = [] ∨ right = [] then .error .noPair
              else .ok ⟨Text.ofList left, Text.ofList right⟩)) ∧
        (read registry label (some value) = .ok (.ok c) ↔
          c.username ≠ "" ∧ c.password ≠ "" ∧ CodePoint.char ':' ∉ c.username.toList)) ∧
    (∀ h c, read registry label h = .ok (.ok c) →
      ∃ value, header registry label c = .ok value ∧
        read registry label (some value) = .ok (.ok c)) := by
  have hreversible : charset.Reversible := by
    rcases hcharset with rfl | rfl | rfl
    · exact Charset.reversible_utf8
    · exact Charset.reversible_latin1
    · exact Charset.reversible_ascii
  constructor
  · intro c husername hpassword
    obtain ⟨value, hvalue, hread⟩ :=
      read_header hlabel hreversible (canWrite_text_iff.2 ⟨husername, hpassword⟩)
    have hmem : CodePoint.char ':' ∈ c.text := by simp [text]
    obtain ⟨left, right, hsplit, hcolon⟩ := List.eq_append_cons_of_mem hmem
    refine ⟨value, hvalue, ⟨left, right, hsplit, hcolon, ?_⟩, ?_⟩
    · rw [hread, ofText_eq_split hsplit hcolon]
    · rw [hread, Except.ok.injEq, ofText_eq_ok_iff]
      exact and_iff_right rfl
  · intro h c hc
    obtain ⟨_, _, -, -, -, hsides⟩ := (read_eq_ok_iff hlabel).1 hc
    obtain ⟨value, hvalue, hread⟩ :=
      read_header hlabel hreversible (canWrite_of_read hlabel hreversible hc)
    exact ⟨value, hvalue, hread.trans (congrArg Except.ok (ofText_eq_ok_iff.2 ⟨rfl, hsides⟩))⟩

/-- A colon in the password is kept, and a letter outside of ASCII is written in Latin-1. -/
theorem read_undoes_header_latin1 :
    Registry.usual.lookup "L1" = .ok (.text (Charset.codec (.bytewise .latin1))) ∧
      (∃ value, header .usual "L1" ⟨"zoë", "a:b"⟩ = .ok value ∧
        read .usual "L1" (some value) = .ok (.ok ⟨"zoë", "a:b"⟩)) ∧
      ∃ value, header .usual "L1" ⟨"zoë", "x"⟩ = .ok value ∧
        read .usual "L1" (some value) = .ok (.ok ⟨"zoë", "x"⟩) := by
  have hlabel : Registry.usual.lookup "L1" = .ok (.text (Charset.codec (.bytewise .latin1))) := by
    rfl
  have hagree := read_undoes_header hlabel (.inr (.inl rfl))
  obtain ⟨value, hvalue, -, hread⟩ := hagree.1 ⟨"zoë", "a:b"⟩ ⟨_, rfl⟩ ⟨_, rfl⟩
  exact ⟨hlabel, ⟨value, hvalue, hread.2 (by decide)⟩,
    hagree.2 (some "basic em/rOng=") ⟨"zoë", "x"⟩ (by rfl)⟩

end Turnstile.Credentials
