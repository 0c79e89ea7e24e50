import Turnstile.Codec.Usual
import Turnstile.Credentials
import Turnstile.Proofs.Base64
import Turnstile.Proofs.Text.Lower

namespace Turnstile.Credentials

/-!
# The grammar of credentials

Which header values are read as credentials, said without splitting, trimming or changing case.

* `Carries` — a header value that carries bytes: the scheme, and the base64 text of the bytes;
* `Writes`, `Breaks` — a header value that carries the bytes of `username:password`, and one on
  whose bytes the codec fails;
* `payload_eq_ok_iff`, `ofText_eq_ok_iff` — the two halves of reading;
* `read_accepts_grammar` — **exactly the values of the grammar are read**, each as the credentials
  that it writes, and all others are skipped.
-/

/-! ### Header values that carry bytes -/

/-- A header value that carries bytes: blanks, the word `basic` in the letters of ASCII, in either
    case, at least one blank, the base64 text of the bytes, and blanks. -/
def Carries (value : List CodePoint) (bytes : List UInt8) : Prop :=
  ∃ lead word gap symbols tail : List CodePoint,
    value = lead ++ (word ++ (gap ++ (symbols ++ tail))) ∧
    Text.Blanks lead ∧ Text.Blanks gap ∧ Text.Blanks tail ∧ gap ≠ [] ∧
    word.map CodePoint.toLower = Text.toList "basic" ∧
    symbols ≠ [] ∧ Text.Solid symbols ∧ Base64.Spells symbols bytes

/-- The letters of the scheme are letters of ASCII, and none of them is `k`. -/
theorem ascii_basic : ∀ d ∈ Text.toList "basic", d.toNat < 0x80 ∧ d ≠ 'k' := by
  have hall : (Text.toList "basic").all (fun d => decide (d.toNat < 0x80 ∧ d ≠ 'k')) = true := by
    decide
  simpa only [List.all_eq_true, decide_eq_true_eq] using hall

/-- A word is taken for the scheme exactly if it spells it in the letters of ASCII. -/
theorem lower_eq_scheme_iff {word : List CodePoint} :
    Text.lower word = Text.lower scheme.toList ↔
      word.map CodePoint.toLower = Text.toList "basic" := by
  have hscheme : Text.lower scheme.toList = Text.toList "basic" := by decide +kernel
  rw [hscheme, Text.lower_eq_iff ascii_basic]

/-- The letters of the scheme are no blanks. -/
theorem solid_of_toLower {word : List CodePoint}
    (h : word.map CodePoint.toLower = Text.toList "basic") : Text.Solid word := by
  have hsolid : Text.Solid (Text.toList "basic") := by decide
  have hblank : ∀ c : CodePoint, c.toNat < 0x80 →
      (Text.isBlank c.toLower = false → Text.isBlank c = false) :=
    CodePoint.forall_of_forall_lt (by decide +kernel)
  intro c hc
  have hmem : c.toLower ∈ Text.toList "basic" := h ▸ List.mem_map_of_mem hc
  exact hblank c (Text.toNat_lt_of_toLower (ascii_basic _ hmem).1) (hsolid _ hmem)

/-- Bytes are taken from a header value in three steps. -/
theorem payload_eq_ok_iff_steps {header : Option Text} {bytes : List UInt8} :
    payload header = .ok bytes ↔ ∃ value word rest, header = some value ∧
      Text.firstWord? value.toList = some (word, rest) ∧
      Text.lower word = Text.lower scheme.toList ∧
      Base64.decode? (Text.trimRight rest) = some bytes := by
  cases header with
  | none =>
    constructor
    · intro h
      nomatch h
    · rintro ⟨_, _, _, h, -⟩
      nomatch h
  | some value =>
    simp only [payload, Option.getD_some, Option.some.injEq]
    constructor
    · intro h
      split at h
      · nomatch h
      · split at h
        · nomatch h
        · rename_i word rest hfirst
          split at h
          · rename_i hword
            split at h
            · rename_i read hread
              exact ⟨value, word, rest, rfl, hfirst, hword, hread.trans (congrArg some
                (Except.ok.inj h))⟩
            · nomatch h
          · nomatch h
    · rintro ⟨_, word, rest, rfl, hfirst, hword, hread⟩
      split
      · rename_i hnil
        rw [hnil] at hfirst
        nomatch hfirst
      · simp only [hfirst, hword, if_true, hread]

/-- **The first half of reading.**  Bytes are taken from exactly those header values that carry
    them. -/
theorem payload_eq_ok_iff {header : Option Text} {bytes : List UInt8} :
    payload header = .ok bytes ↔ ∃ value, header = some value ∧ Carries value.toList bytes := by
  rw [payload_eq_ok_iff_steps]
  constructor
  · rintro ⟨value, word, rest, rfl, hfirst, hword, hread⟩
    obtain ⟨lead, gap, hvalue, hlead, hgap, hgap_ne, r, rs, hrest, hr⟩ :=
      Text.eq_append_of_firstWord? hfirst
    obtain ⟨tail, htail, htrim⟩ := Text.eq_trimRight_append rest
    have hspells := Base64.decode?_eq_some_iff.1 hread
    refine ⟨value, rfl, lead, word, gap, Text.trimRight rest, tail, by rw [hvalue, ← htrim],
      hlead, hgap, htail, hgap_ne, lower_eq_scheme_iff.1 hword, ?_, hspells.solid, hspells⟩
    -- something other than a blank follows the gap, and it is not trimmed
    intro hnil
    rw [hnil, List.nil_append] at htrim
    have hblank := htail r (by rw [← htrim, hrest]; exact List.mem_cons_self)
    rw [hr] at hblank
    nomatch hblank
  · rintro ⟨value, rfl, lead, word, gap, symbols, tail, hvalue, hlead, hgap, htail, hgap_ne, hword,
      hsymbols_ne, hsolid, hspells⟩
    have hword_ne : word ≠ [] := by
      rintro rfl
      nomatch hword
    obtain ⟨r, rs, rfl⟩ := List.exists_cons_of_ne_nil hsymbols_ne
    refine ⟨value, word, r :: rs ++ tail, rfl, ?_, lower_eq_scheme_iff.2 hword, ?_⟩
    · rw [hvalue]
      exact Text.firstWord?_append hlead (solid_of_toLower hword) hword_ne hgap hgap_ne
        (hsolid r List.mem_cons_self)
    · rw [Text.trimRight_append hsolid htail]
      exact Base64.decode?_eq_some_iff.2 hspells

/-! ### Header values that write credentials -/

/-- **The second half of reading.**  A text is taken for a username and a password if it is the one,
    a colon and the other, there is something on both sides, and it is the first colon. -/
theorem ofText_eq_ok_iff {chars : List CodePoint} {c : Credentials} :
    ofText chars = .ok c ↔
      chars = c.text ∧ c.username ≠ "" ∧ c.password ≠ "" ∧
        CodePoint.char ':' ∉ c.username.toList := by
  unfold ofText
  constructor
  · intro h
    split at h
    · nomatch h
    · rename_i username password hcut
      obtain ⟨hchars, hcolon⟩ := Text.cut?_eq_some_iff.1 hcut
      split at h
      · nomatch h
      · rename_i hne
        simp only [Bool.or_eq_true, List.isEmpty_iff, not_or] at hne
        rw [← Except.ok.inj h]
        simp only [text, ne_eq, Text.ofList_eq_empty_iff]
        exact ⟨hchars, hne.1, hne.2, hcolon⟩
  · rintro ⟨hchars, husername, hpassword, hcolon⟩
    rw [Text.cut?_eq_some_iff.2 ⟨hchars, hcolon⟩]
    simp [Text.toList_eq_nil_iff, husername, hpassword]

/-- A header value that writes credentials: it carries bytes that the codec reads as the username, a
    colon and the password; neither of them is empty, and no colon is in the username. -/
def Writes (codec : Codec) (value : Text) (c : Credentials) : Prop :=
  ∃ bytes, Carries value.toList bytes ∧
    codec.decode bytes = .ok (c.username.toList ++ .char ':' :: c.password.toList) ∧
    c.username ≠ "" ∧ c.password ≠ "" ∧ CodePoint.char ':' ∉ c.username.toList

/-- A header value of which more goes wrong than that its bytes write no text. -/
def Breaks (codec : Codec) (value : Text) (fault : Fault) : Prop :=
  ∃ bytes h, Carries value.toList bytes ∧ codec.decode bytes = .error (.other fault h)

section

variable {registry : Registry} {label : Text} {codec : Codec}

/-- Bytes are read by the codec that the label names. -/
theorem decode_of_lookup (hlabel : registry.lookup label = .ok (.text codec))
    (bytes : List UInt8) : registry.decode label bytes = codec.decode bytes := by
  unfold Registry.decode Registry.codec
  rw [hlabel]

/-- What is read by a codec. -/
theorem read_eq_ok_iff (hlabel : registry.lookup label = .ok (.text codec))
    {header : Option Text} {c : Credentials} :
    read registry label header = .ok (.ok c) ↔
      ∃ value, header = some value ∧ Writes codec value c := by
  unfold read
  simp only [decode_of_lookup hlabel]
  constructor
  · intro h
    split at h
    · nomatch h
    · rename_i bytes hpayload
      obtain ⟨value, hvalue, hcarries⟩ := payload_eq_ok_iff.1 hpayload
      split at h
      · rename_i chars htext
        obtain ⟨rfl, hsides⟩ := ofText_eq_ok_iff.1 (Except.ok.inj h)
        exact ⟨value, hvalue, bytes, hcarries, htext, hsides⟩
      · nomatch h
      · nomatch h
  · rintro ⟨value, rfl, bytes, hcarries, htext, hsides⟩
    rw [payload_eq_ok_iff.2 ⟨value, rfl, hcarries⟩]
    dsimp only
    rw [htext]
    exact congrArg Except.ok (ofText_eq_ok_iff.2 ⟨rfl, hsides⟩)

/-- When reading by a codec fails. -/
theorem read_eq_error_iff_breaks (hlabel : registry.lookup label = .ok (.text codec))
    {header : Option Text} {fault : Fault} :
    read registry label header = .error fault ↔
      ∃ value, header = some value ∧ Breaks codec value fault := by
  rw [read_eq_error_iff]
  simp only [decode_of_lookup hlabel, payload_eq_ok_iff]
  constructor
  · rintro ⟨bytes, h, ⟨value, hvalue, hcarries⟩, hdecode⟩
    exact ⟨value, hvalue, bytes, h, hcarries, hdecode⟩
  · rintro ⟨value, hvalue, bytes, h, hcarries, hdecode⟩
    exact ⟨bytes, h, ⟨value, hvalue, hcarries⟩, hdecode⟩

/-- The codec of a charset says of bytes only that they write no text. -/
theorem not_breaks_charset (charset : Charset) (value : Text) (fault : Fault) :
    ¬ Breaks charset.codec value fault := by
  rintro ⟨bytes, h, -, hdecode⟩
  exact charset.decode_codec_ne_other bytes fault h hdecode

/-- So a header value is always read by the codec of a charset, or it is skipped. -/
theorem exists_read_of_charset {charset : Charset}
    (hlabel : registry.lookup label = .ok (.text charset.codec)) (header : Option Text) :
    ∃ d, read registry label header = .ok d := by
  cases hread : read registry label header with
  | ok d => exact ⟨d, rfl⟩
  | error fault =>
    obtain ⟨value, -, hbreaks⟩ := (read_eq_error_iff_breaks hlabel).1 hread
    exact absurd hbreaks (not_breaks_charset charset value fault)

/-- **Exactly the values of the grammar are read**, whatever the registry and the text codec that
    the label names.  A header value is read as the credentials that it writes by that codec, and it
    fails as the codec breaks on its bytes.  If it does neither, or if there is no header value, it
    is skipped.  The codec of a charset does not break. -/
theorem read_accepts_grammar (hlabel : registry.lookup label = .ok (.text codec))
    (header : Option Text) :
    (∀ c, read registry label header = .ok (.ok c) ↔
      ∃ value, header = some value ∧ Writes codec value c) ∧
    (∀ fault, read registry label header = .error fault ↔
      ∃ value, header = some value ∧ Breaks codec value fault) ∧
    ((∀ value, header = some value →
        (∀ c, ¬ Writes codec value c) ∧ ∀ fault, ¬ Breaks codec value fault) →
      ∃ skip, read registry label header = .ok (.error skip)) ∧
    ∀ charset : Charset, codec = charset.codec → ∀ value fault, ¬ Breaks codec value fault := by
  refine ⟨fun c => read_eq_ok_iff hlabel, fun fault => read_eq_error_iff_breaks hlabel,
    fun hnone => ?_, fun charset hcodec => hcodec ▸ not_breaks_charset charset⟩
  cases hread : read registry label header with
  | error fault =>
    obtain ⟨value, hvalue, hbreaks⟩ := (read_eq_error_iff_breaks hlabel).1 hread
    exact absurd hbreaks ((hnone value hvalue).2 fault)
  | ok d =>
    cases d with
    | error skip => exact ⟨skip, rfl⟩
    | ok c =>
      obtain ⟨value, hvalue, hwrites⟩ := (read_eq_ok_iff hlabel).1 hread
      exact absurd hwrites ((hnone value hvalue).1 c)

end

/-- Blanks outside of ASCII around the scheme, and a letter outside of ASCII in the username. -/
theorem read_accepts_grammar_latin1 :
    Registry.usual.lookup "latin-1" = .ok (.text (Charset.codec (.bytewise .latin1))) ∧
      read .usual "latin-1" (some "\x1cbASIC\u00a0\u3000em/rOng=\u0085") =
        .ok (.ok ⟨"zoë", "x"⟩) ∧
      (∃ skip, read .usual "latin-1" none = .ok (.error skip)) ∧
      ∃ fault, read .usual "undefined" (some "Basic em/rOng=") = .error fault := by
  have hlabel : Registry.usual.lookup "latin-1" =
      .ok (.text (Charset.codec (.bytewise .latin1))) := by rfl
  have hundefined : Registry.usual.lookup "undefined" = .ok (.text .undefined) := by rfl
  have hparts : Text.toList "\x1cbASIC\u00a0\u3000em/rOng=\u0085" =
      [.char '\x1c'] ++ (Text.toList "bASIC" ++
        ([.char '\u00a0', .char '\u3000'] ++
          (Text.toList "em/rOng=" ++ [.char '\u0085']))) := by rfl
  have hblanks : Text.Blanks ['\x1c'] ∧ Text.Blanks ['\u00a0', '\u3000'] ∧
      Text.Blanks ['\u0085'] := by decide
  have hsolid : Text.Solid (Text.toList "em/rOng=") := by decide
  have hspells : Base64.Spells (Text.toList "em/rOng=") [0x7A, 0x6F, 0xEB, 0x3A, 0x78] :=
    Base64.decode?_eq_some_iff.1 (by rfl)
  have hwrites : Writes (Charset.codec (.bytewise .latin1))
      "\x1cbASIC\u00a0\u3000em/rOng=\u0085" ⟨"zoë", "x"⟩ :=
    ⟨_, ⟨_, _, _, _, _, hparts, hblanks.1, hblanks.2.1, hblanks.2.2, by decide, by decide,
      by decide, hsolid, hspells⟩, by rfl, by decide⟩
  have hbreaks : Breaks .undefined "Basic em/rOng=" _ :=
    ⟨_, rfl, ⟨[], Text.toList "Basic", [' '], Text.toList "em/rOng=", [], by rfl, by decide,
      by decide, by decide, by decide, by decide, by decide, hsolid, hspells⟩, rfl⟩
  exact ⟨hlabel, ((read_accepts_grammar hlabel _).1 _).2 ⟨_, rfl, hwrites⟩,
    (read_accepts_grammar hlabel none).2.2.1 (fun _ h => nomatch h),
    _, ((read_accepts_grammar hundefined _).2.1 _).2 ⟨_, rfl, hbreaks⟩⟩

end Turnstile.Credentials
