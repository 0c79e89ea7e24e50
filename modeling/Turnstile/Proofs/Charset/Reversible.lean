import Turnstile.Charset
import Turnstile.Proofs.Charset.Utf8
import Turnstile.Text.Ranges

namespace Turnstile.Charset

/-!
# Charsets that can be undone

* `CanWrite` — the texts that a charset can write; `canWrite_append_iff` takes them apart;
* `Reversible` — a charset that reads what it has written and can write what it has read;
* `reversible_utf8`, `reversible_latin1`, `reversible_ascii` — three charsets that can be undone.
-/

/-- The charset can write the text. -/
def CanWrite (cs : Charset) (text : List CodePoint) : Prop :=
  ∃ bytes, cs.encode text = .ok bytes

/-- A charset that can be undone. -/
structure Reversible (cs : Charset) : Prop where
  /-- What has been written is read as it was. -/
  decode?_of_encode : ∀ {text bytes}, cs.encode text = .ok bytes → cs.decode? bytes = some text
  /-- What has been read can be written. -/
  canWrite_of_decode? : ∀ {text bytes}, cs.decode? bytes = some text → cs.CanWrite text

/-! ### What a charset can write -/

/-- A repertoire lacks what it has no byte for. -/
theorem Repertoire.lacks_writer (r : Repertoire) (c : CodePoint) :
    r.writer.lacks c = (r.byte? c).isNone := by
  unfold Writer.lacks Repertoire.writer
  cases h : r.byte? c <;> simp [h]

/-- UTF-16 lacks the halves of surrogate pairs. -/
theorem Utf16.lacks_writer (codec : Text) (order : Utf16.Order) (c : CodePoint) :
    (Utf16.writer codec order).lacks c = c.isSurrogate := by
  unfold Writer.lacks Utf16.writer
  cases h : c.isSurrogate <;> simp [h]

/-- A character that the charset lacks. -/
def lacks (cs : Charset) (c : CodePoint) : Bool :=
  match cs with
  | .bytewise r => (r.byte? c).isNone
  | .escaped => false
  | _ => c.isSurrogate

/-- A text can be written if each of its characters can. -/
theorem canWrite_iff {cs : Charset} {text : List CodePoint} :
    cs.CanWrite text ↔ ∀ c ∈ text, cs.lacks c = false := by
  have hmap : ∀ {x : Except Unencodable (List UInt8)} {f : List UInt8 → List UInt8},
      (∃ bytes, f <$> x = .ok bytes) ↔ ∃ bytes, x = .ok bytes := by
    intro x f
    cases x <;> simp [Functor.map, Except.map]
  unfold CanWrite lacks
  cases cs with
  | bytewise r =>
    refine Writer.exists_encode_iff.trans (forall₂_congr fun c _ => ?_)
    rw [Repertoire.lacks_writer]
  | utf8 => exact Utf8.exists_encode_iff
  | utf8Signed => exact hmap.trans Utf8.exists_encode_iff
  | utf16 =>
    refine hmap.trans (Writer.exists_encode_iff.trans (forall₂_congr fun c _ => ?_))
    rw [Utf16.lacks_writer]
  | utf16In order =>
    refine Writer.exists_encode_iff.trans (forall₂_congr fun c _ => ?_)
    rw [Utf16.lacks_writer]
  | escaped => simp [Charset.encode]

/-- A text can be written if its two parts can. -/
theorem canWrite_append_iff {cs : Charset} {left right : List CodePoint} :
    cs.CanWrite (left ++ right) ↔ cs.CanWrite left ∧ cs.CanWrite right := by
  simp only [canWrite_iff, List.forall_mem_append]

/-- Every charset can write a colon. -/
theorem canWrite_colon (cs : Charset) : cs.CanWrite [.char ':'] := by
  refine canWrite_iff.2 fun c hc => ?_
  rw [List.mem_singleton.1 hc]
  cases cs with
  | bytewise r => cases r <;> rfl
  | _ => rfl

/-- No text but the empty one is written as nothing. -/
theorem decode?_nil (cs : Charset) : cs.decode? [] = some [] := by
  cases cs with
  | bytewise r => rfl
  | utf8 => rfl
  | utf8Signed => rfl
  | utf16 => rfl
  | utf16In order => rfl
  | escaped => rfl

/-! ### Three charsets -/

/-- UTF-8 can be undone. -/
theorem reversible_utf8 : Reversible .utf8 where
  decode?_of_encode {text bytes} h := by
    show (Utf8.decode bytes).toOption = some text
    rw [Utf8.decode_of_encode h]
    rfl
  canWrite_of_decode? {text bytes} h := by
    replace h : (Utf8.decode bytes).toOption = some text := h
    cases hdecode : Utf8.decode bytes with
    | error e =>
      rw [hdecode] at h
      nomatch h
    | ok text' =>
      rw [hdecode] at h
      rw [← Option.some.inj h]
      exact Utf8.exists_encode_of_decode hdecode

/-- A repertoire can be undone if each of its bytes can. -/
theorem reversible_bytewise {r : Repertoire}
    (hread : ∀ c b, r.byte? c = some b → r.char? b = some c)
    (hwrite : ∀ b c, r.char? b = some c → (r.byte? c).isSome) : Reversible (.bytewise r) where
  decode?_of_encode {text bytes} h := by
    obtain ⟨hall, rfl⟩ := Writer.encode_eq_ok_iff.1 h
    show (text.flatMap r.writer.bytes).mapM r.char? = some text
    clear h
    induction text with
    | nil => rfl
    | cons c cs ih =>
      obtain ⟨hc, hcs⟩ := List.forall_mem_cons.1 hall
      rw [Repertoire.lacks_writer, Option.isNone_eq_false_iff, Option.isSome_iff_exists] at hc
      obtain ⟨b, hb⟩ := hc
      have hbytes : r.writer.bytes c = [b] := by
        unfold Writer.bytes Repertoire.writer
        simp [hb]
      rw [List.flatMap_cons, hbytes, List.singleton_append, List.mapM_cons, hread c b hb, ih hcs]
      rfl
  canWrite_of_decode? {text bytes} h := by
    have hchars : bytes.mapM r.char? = some text := h
    refine canWrite_iff.2 ?_
    clear h
    induction bytes generalizing text with
    | nil =>
      rw [← Option.some.inj hchars]
      exact fun _ hc => nomatch hc
    | cons b bs ih =>
      rw [List.mapM_cons] at hchars
      obtain ⟨c, hc, hrest⟩ := Option.bind_eq_some_iff.1 hchars
      obtain ⟨cs, hcs, heq⟩ := Option.bind_eq_some_iff.1 hrest
      rw [← Option.some.inj heq]
      intro d hd
      rcases List.mem_cons.1 hd with rfl | hd
      · exact Option.isNone_eq_false_iff.2 (hwrite b d hc)
      · exact ih hcs d hd

/-- The character of a byte that a character is written as. -/
theorem ofNat_toNat_ofNat {c : CodePoint} (h : c.toNat < 0x100) :
    CodePoint.ofNat (UInt8.ofNat c.toNat).toNat = c := by
  rw [Utf8.toNat_ofNat_of_lt h, CodePoint.ofNat_toNat]

/-- A byte stands for the character of its number. -/
theorem toNat_ofNat_toNat (b : UInt8) : (CodePoint.ofNat b.toNat).toNat = b.toNat := by
  have hb := b.toNat_lt
  exact CodePoint.toNat_ofNat (by omega)

/-- Latin-1 can be undone. -/
theorem reversible_latin1 : Reversible (.bytewise .latin1) := by
  refine reversible_bytewise (fun c b h => ?_) (fun b c h => ?_)
  · unfold Repertoire.byte? at h
    dsimp only at h
    split at h
    · rename_i hlt
      rw [← Option.some.inj h]
      exact congrArg some (ofNat_toNat_ofNat hlt)
    · nomatch h
  · have hc : CodePoint.ofNat b.toNat = c := Option.some.inj h
    have hlt : c.toNat < 0x100 := by
      rw [← hc, toNat_ofNat_toNat]
      exact b.toNat_lt
    unfold Repertoire.byte?
    dsimp only
    rw [if_pos hlt]
    rfl

/-- ASCII can be undone. -/
theorem reversible_ascii : Reversible (.bytewise .ascii) := by
  refine reversible_bytewise (fun c b h => ?_) (fun b c h => ?_)
  · unfold Repertoire.byte? at h
    dsimp only at h
    split at h
    · rename_i hlt
      have hb : UInt8.ofNat c.toNat < 0x80 := by
        rw [UInt8.lt_iff_toNat_lt, Utf8.toNat_ofNat_of_lt (by omega)]
        exact hlt
      rw [← Option.some.inj h]
      unfold Repertoire.char?
      dsimp only
      rw [if_pos hb, ofNat_toNat_ofNat (by omega)]
    · nomatch h
  · unfold Repertoire.char? at h
    dsimp only at h
    split at h
    · rename_i hb
      have hlt : c.toNat < 0x80 := by
        rw [← Option.some.inj h, toNat_ofNat_toNat]
        exact UInt8.lt_iff_toNat_lt.1 hb
      unfold Repertoire.byte?
      dsimp only
      rw [if_pos hlt]
      rfl
    · nomatch h

end Turnstile.Charset
