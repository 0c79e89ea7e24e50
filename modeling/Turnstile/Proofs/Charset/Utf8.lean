import Mathlib.Algebra.Group.Nat.Defs
import Mathlib.Data.List.Basic
import Mathlib.Tactic.SplitIfs
import Turnstile.Charset.Utf8
import Turnstile.Proofs.Charset.Writer
import Turnstile.Proofs.Results

namespace Turnstile.Charset.Utf8

/-!
# UTF-8 is read back as it was written

* `Partial.Awaits` — what the decoder knows before the next byte of a character;
* `decodeFrom_encodeChar` — one character is read back, whatever follows it;
* `encode_eq_ok_iff` — a text has bytes exactly if no half of a surrogate pair is in it;
* `decode_of_encode` — **round trip**: the bytes of a text write that text;
* `encode_inj` — so different texts have different bytes;
* `exists_encode_of_decode` — and what bytes write can be written;
* `encode_ofString` — a text of characters has as many bytes as its size in UTF-8.

The first byte of a character fixes how many bytes follow and which values the second one may have
(`ofLead?_two`, `ofLead?_three`, `ofLead?_four`); all later ones are plain continuation bytes.
-/

/-! ### Continuation bytes -/

theorem toNat_continuation (n : Nat) : (continuation n).toNat = 0x80 + n % 0x40 := by
  unfold continuation
  rw [UInt8.toNat_ofNat']
  omega

/-- Inside a character: the number read so far, the count of bytes missing after the next one, and a
    value that the next one may have. -/
structure Partial.Awaits (p : Partial) (value missing next : Nat) : Prop where
  value : p.value = value
  missing : p.missing = missing
  low : p.low.toNat ≤ next
  high : next ≤ p.high.toNat

/-- A continuation byte that the decoder awaits is within its bounds. -/
theorem Partial.Awaits.bounds {p : Partial} {value missing n : Nat}
    (h : p.Awaits value missing (0x80 + n % 0x40)) :
    p.low ≤ continuation n ∧ continuation n ≤ p.high := by
  rw [UInt8.le_iff_toNat_le, UInt8.le_iff_toNat_le, toNat_continuation]
  exact ⟨h.low, h.high⟩

/-- The last byte of a character ends it. -/
theorem decodeFrom_last {p : Partial} {value n : Nat} (h : p.Awaits value 0 (0x80 + n % 0x40))
    (pos : Nat) (bytes : List UInt8) :
    decodeFrom pos (some p) (continuation n :: bytes) =
      (CodePoint.ofNat (value * 0x40 + n % 0x40) :: ·) <$> decodeFrom (pos + 1) none bytes := by
  rw [decodeFrom, if_pos h.bounds, toNat_continuation, h.missing, h.value]
  simp

/-- Any other byte adds its six bits, and after it the next one may be any continuation byte. -/
theorem decodeFrom_next {p : Partial} {value missing n : Nat}
    (h : p.Awaits value (missing + 1) (0x80 + n % 0x40)) (pos : Nat) (bytes : List UInt8)
    (k : Nat) :
    ∃ q : Partial, q.Awaits (value * 0x40 + n % 0x40) missing (0x80 + k % 0x40) ∧
      decodeFrom pos (some p) (continuation n :: bytes) = decodeFrom (pos + 1) (some q) bytes := by
  refine ⟨⟨p.start, p.byte, value * 0x40 + n % 0x40, missing, 0x80, 0xBF⟩, ⟨rfl, rfl, ?_, ?_⟩, ?_⟩
  · exact Nat.le_add_right _ _
  · show 0x80 + k % 0x40 ≤ 0xBF
    omega
  · rw [decodeFrom, if_pos h.bounds, toNat_continuation, h.missing, h.value]
    simp

/-! ### First bytes -/

theorem toNat_ofNat_of_lt {n : Nat} (h : n < 0x100) : (UInt8.ofNat n).toNat = n := by
  rw [UInt8.toNat_ofNat']
  omega

/-- A first byte of several leads into the inside of a character. -/
theorem decodeFrom_lead {b : UInt8} {p : Partial} {pos : Nat} (hb : 0x80 ≤ b.toNat)
    (hp : Partial.ofLead? pos b = some p) (bytes : List UInt8) :
    decodeFrom pos none (b :: bytes) = decodeFrom (pos + 1) (some p) bytes := by
  have hlt : ¬ b < 0x80 := by
    rw [UInt8.lt_iff_toNat_lt]
    exact Nat.not_lt.2 hb
  rw [decodeFrom, if_neg hlt, hp]

/-- What the first byte of two promises. -/
theorem ofLead?_two {b : UInt8} {n : Nat} (hb : b.toNat = 0xC0 + n / 0x40) (h : 0x80 ≤ n)
    (h' : n < 0x800) (pos : Nat) :
    ∃ p, Partial.ofLead? pos b = some p ∧ p.Awaits (n / 0x40) 0 (0x80 + n % 0x40) := by
  unfold Partial.ofLead?
  simp only [UInt8.le_iff_toNat_le, ← UInt8.toNat_inj, UInt8.reduceToNat]
  -- the bounds of the number contradict all cases but one
  split_ifs
  any_goals refine ⟨_, rfl, ⟨?_, rfl, ?_, ?_⟩⟩
  any_goals simp only [UInt8.reduceToNat]
  all_goals omega

/-- What the first byte of three promises: after `E0` and `ED` not every continuation byte may
    follow, and the numbers in question need none of the others. -/
theorem ofLead?_three {b : UInt8} {n : Nat} (hb : b.toNat = 0xE0 + n / 0x1000) (h : 0x800 ≤ n)
    (h' : n < 0xD800 ∨ 0xDFFF < n ∧ n < 0x10000) (pos : Nat) :
    ∃ p, Partial.ofLead? pos b = some p ∧
      p.Awaits (n / 0x1000) 1 (0x80 + n / 0x40 % 0x40) := by
  unfold Partial.ofLead?
  simp only [UInt8.le_iff_toNat_le, ← UInt8.toNat_inj, UInt8.reduceToNat]
  split_ifs
  any_goals refine ⟨_, rfl, ⟨?_, rfl, ?_, ?_⟩⟩
  any_goals simp only [UInt8.reduceToNat]
  all_goals omega

/-- What the first byte of four promises. -/
theorem ofLead?_four {b : UInt8} {n : Nat} (hb : b.toNat = 0xF0 + n / 0x40000) (h : 0x10000 ≤ n)
    (h' : n < 0x110000) (pos : Nat) :
    ∃ p, Partial.ofLead? pos b = some p ∧
      p.Awaits (n / 0x40000) 2 (0x80 + n / 0x1000 % 0x40) := by
  unfold Partial.ofLead?
  simp only [UInt8.le_iff_toNat_le, ← UInt8.toNat_inj, UInt8.reduceToNat]
  split_ifs
  any_goals refine ⟨_, rfl, ⟨?_, rfl, ?_, ?_⟩⟩
  any_goals simp only [UInt8.reduceToNat]
  all_goals omega

/-! ### Characters and texts -/

/-- **One character.** It is read back, and reading goes on behind its bytes. -/
theorem decodeFrom_encodeChar {c : CodePoint} (h : c.isSurrogate = false) (pos : Nat)
    (bytes : List UInt8) :
    ∃ pos', decodeFrom pos none (encodeChar c ++ bytes) =
      (c :: ·) <$> decodeFrom pos' none bytes := by
  have hvalid : c.toNat < 0xD800 ∨ 0xDFFF < c.toNat ∧ c.toNat < 0x110000 := by
    have hlt := c.toNat_lt
    have hno := mt CodePoint.isSurrogate_eq_true_iff.2 (Bool.eq_false_iff.1 h)
    omega
  have hback : CodePoint.ofNat c.toNat = c := CodePoint.ofNat_toNat c
  unfold encodeChar
  generalize c.toNat = n at hvalid hback ⊢
  dsimp only
  split_ifs with h1 h2 h3
  · -- one byte
    have hb := toNat_ofNat_of_lt (n := n) (by omega)
    have hlt : UInt8.ofNat n < 0x80 := by
      rw [UInt8.lt_iff_toNat_lt, hb]
      exact h1
    refine ⟨pos + 1, ?_⟩
    rw [List.singleton_append, decodeFrom, if_pos hlt, hb, hback]
  · -- two bytes
    have hb := toNat_ofNat_of_lt (n := 0xC0 + n / 0x40) (by omega)
    obtain ⟨p, hlead, hp⟩ := ofLead?_two hb (by omega) h2 pos
    refine ⟨pos + 1 + 1, ?_⟩
    rw [List.cons_append, List.singleton_append, decodeFrom_lead (by omega) hlead,
      decodeFrom_last hp, show n / 0x40 * 0x40 + n % 0x40 = n by omega, hback]
  · -- three bytes
    have hb := toNat_ofNat_of_lt (n := 0xE0 + n / 0x1000) (by omega)
    obtain ⟨p, hlead, hp⟩ := ofLead?_three hb (by omega) (by omega) pos
    obtain ⟨q, hq, hnext⟩ := decodeFrom_next hp (pos + 1) (continuation n :: bytes) n
    refine ⟨pos + 1 + 1 + 1, ?_⟩
    simp only [List.cons_append, List.nil_append]
    rw [decodeFrom_lead (by omega) hlead, hnext, decodeFrom_last hq,
      show (n / 0x1000 * 0x40 + n / 0x40 % 0x40) * 0x40 + n % 0x40 = n by omega, hback]
  · -- four bytes
    have hb := toNat_ofNat_of_lt (n := 0xF0 + n / 0x40000) (by omega)
    obtain ⟨p, hlead, hp⟩ := ofLead?_four hb (by omega) (by omega) pos
    obtain ⟨q, hq, hnext⟩ := decodeFrom_next hp (pos + 1)
      (continuation (n / 0x40) :: continuation n :: bytes) (n / 0x40)
    obtain ⟨r, hr, hlater⟩ := decodeFrom_next hq (pos + 1 + 1) (continuation n :: bytes) n
    refine ⟨pos + 1 + 1 + 1 + 1, ?_⟩
    simp only [List.cons_append, List.nil_append]
    rw [decodeFrom_lead (by omega) hlead, hnext, hlater, decodeFrom_last hr,
      show ((n / 0x40000 * 0x40 + n / 0x1000 % 0x40) * 0x40 + n / 0x40 % 0x40) * 0x40 + n % 0x40
        = n by omega, hback]

/-- A text has bytes exactly if no half of a surrogate pair is in it. -/
theorem encode_eq_ok_iff {cs : List CodePoint} {bytes : List UInt8} :
    encode cs = .ok bytes ↔
      (∀ c ∈ cs, c.isSurrogate = false) ∧ bytes = cs.flatMap encodeChar := by
  have hlacks : ∀ c, writer.lacks c = c.isSurrogate := by
    intro c
    unfold Writer.lacks writer
    cases h : c.isSurrogate <;> simp [h]
  unfold encode
  rw [Writer.encode_eq_ok_iff]
  simp only [hlacks]
  refine and_congr_right fun h => ?_
  have hbytes : cs.flatMap writer.bytes = cs.flatMap encodeChar := by
    refine List.flatMap_congr fun c hc => ?_
    unfold Writer.bytes writer
    simp only [h c hc, Bool.false_eq_true, if_false, Option.getD_some]
  rw [hbytes]

/-- A text can be written exactly if no half of a surrogate pair is in it. -/
theorem exists_encode_iff {cs : List CodePoint} :
    (∃ bytes, encode cs = .ok bytes) ↔ ∀ c ∈ cs, c.isSurrogate = false := by
  simp only [encode_eq_ok_iff, exists_and_left, exists_eq, and_true]

theorem decodeFrom_flatMap {cs : List CodePoint} (h : ∀ c ∈ cs, c.isSurrogate = false)
    (pos : Nat) : decodeFrom pos none (cs.flatMap encodeChar) = .ok cs := by
  induction cs generalizing pos with
  | nil => rfl
  | cons c cs ih =>
    obtain ⟨hc, hcs⟩ := List.forall_mem_cons.1 h
    obtain ⟨pos', hback⟩ := decodeFrom_encodeChar hc pos (cs.flatMap encodeChar)
    rw [List.flatMap_cons, hback, ih hcs pos']
    rfl

/-- **Round trip.** The bytes of a text write that text. -/
theorem decode_of_encode {cs : List CodePoint} {bytes : List UInt8} (h : encode cs = .ok bytes) :
    decode bytes = .ok cs := by
  obtain ⟨hall, rfl⟩ := encode_eq_ok_iff.1 h
  exact decodeFrom_flatMap hall 0

/-- Different texts have different bytes. -/
theorem encode_inj {cs ds : List CodePoint} {bytes : List UInt8} (h : encode cs = .ok bytes)
    (h' : encode ds = .ok bytes) : cs = ds :=
  Except.ok.inj ((decode_of_encode h).symm.trans (decode_of_encode h'))

/-! ### What bytes can write -/

/-- The decoder may come from the inside of a character to this number. -/
def Partial.LeadsTo (p : Partial) (n : Nat) : Prop :=
  ∃ next rest, p.low.toNat ≤ next ∧ next ≤ p.high.toNat ∧ rest < 0x40 ^ p.missing ∧
    n = (p.value * 0x40 + (next - 0x80)) * 0x40 ^ p.missing + rest

/-- From the inside of a character the decoder never comes to half a surrogate pair. -/
def Partial.Sound (p : Partial) : Prop :=
  ∀ n, p.LeadsTo n → n < 0xD800 ∨ 0xDFFF < n

/-- No first byte leads to half a surrogate pair. -/
theorem Partial.sound_of_lead {start : Nat} {b : UInt8} {p : Partial}
    (h : ofLead? start b = some p) : p.Sound := by
  unfold ofLead? at h
  simp only [UInt8.le_iff_toNat_le, ← UInt8.toNat_inj, UInt8.reduceToNat] at h
  rintro n ⟨next, rest, hlow, hhigh, hrest, rfl⟩
  -- in each case the bounds of the second byte keep the number off the halves
  split_ifs at h <;> cases h <;> simp only [UInt8.reduceToNat, Nat.reducePow] at * <;> omega

/-- Neither does a further byte. -/
theorem Partial.Sound.step {p : Partial} (h : p.Sound) {missing : Nat}
    (hmissing : p.missing = missing + 1) {b : UInt8} (hlow : p.low ≤ b) (hhigh : b ≤ p.high) :
    Sound ⟨p.start, p.byte, p.value * 0x40 + (b.toNat - 0x80), missing, 0x80, 0xBF⟩ := by
  rintro n ⟨next, rest, hnext, hnext', hrest, hn⟩
  refine h n ⟨b.toNat, (next - 0x80) * 0x40 ^ missing + rest, UInt8.le_iff_toNat_le.1 hlow,
    UInt8.le_iff_toNat_le.1 hhigh, ?_, ?_⟩
  · rw [hmissing, Nat.pow_succ]
    have hdigit : next - 0x80 ≤ 0x3F := by
      have hbound : next ≤ 0xBF := hnext'
      omega
    have hle := Nat.mul_le_mul_right (0x40 ^ missing) hdigit
    dsimp only at hrest
    omega
  · rw [hn, hmissing, Nat.pow_succ]
    dsimp only
    rw [Nat.add_mul, Nat.mul_assoc, Nat.mul_comm 0x40, Nat.add_assoc]

/-- A number that is no half of a surrogate pair is the number of a character. -/
theorem isSurrogate_ofNat {n : Nat} (h : n < 0xD800 ∨ 0xDFFF < n) :
    (CodePoint.ofNat n).isSurrogate = false := by
  unfold CodePoint.ofNat
  rw [dif_neg (by omega)]
  rfl

/-- What bytes write holds no half of a surrogate pair. -/
theorem forall_of_decodeFrom {pos : Nat} {p : Option Partial} (hp : ∀ q ∈ p, q.Sound)
    {bytes : List UInt8} {cs : List CodePoint} (h : decodeFrom pos p bytes = .ok cs) :
    ∀ c ∈ cs, c.isSurrogate = false := by
  induction bytes generalizing pos p cs with
  | nil =>
    cases p with
    | none =>
      rw [← Except.ok.inj h]
      exact fun _ hc => nomatch hc
    | some q => nomatch h
  | cons b bytes ih =>
    have hnone : ∀ q ∈ (none : Option Partial), q.Sound := fun _ hq => (nomatch hq)
    cases p with
    | none =>
      rw [decodeFrom] at h
      split at h
      · rename_i hascii
        obtain ⟨rest, hrest, rfl⟩ := map_eq_ok_iff.1 h
        refine List.forall_mem_cons.2 ⟨?_, ih hnone hrest⟩
        exact isSurrogate_ofNat (.inl (Nat.lt_trans (UInt8.lt_iff_toNat_lt.1 hascii) (by decide)))
      · cases hlead : Partial.ofLead? pos b with
        | none =>
          rw [hlead] at h
          nomatch h
        | some q =>
          rw [hlead] at h
          exact ih (fun _ hq => Option.mem_some.1 hq ▸ Partial.sound_of_lead hlead) h
    | some q =>
      have hq := hp q rfl
      rw [decodeFrom] at h
      split at h
      · rename_i hbounds
        cases hmissing : q.missing with
        | zero =>
          rw [hmissing] at h
          obtain ⟨rest, hrest, rfl⟩ := map_eq_ok_iff.1 h
          refine List.forall_mem_cons.2 ⟨isSurrogate_ofNat (hq _ ?_), ih hnone hrest⟩
          refine ⟨b.toNat, 0, UInt8.le_iff_toNat_le.1 hbounds.1,
            UInt8.le_iff_toNat_le.1 hbounds.2, ?_, ?_⟩ <;> rw [hmissing]
          · decide
          · rw [Nat.pow_zero, Nat.mul_one, Nat.add_zero]
        | succ missing =>
          rw [hmissing] at h
          exact ih (fun _ hr => Option.mem_some.1 hr ▸ hq.step hmissing hbounds.1 hbounds.2) h
      · nomatch h

/-- **What bytes write** can be written. -/
theorem exists_encode_of_decode {bytes : List UInt8} {cs : List CodePoint}
    (h : decode bytes = .ok cs) : ∃ written, encode cs = .ok written :=
  exists_encode_iff.2 (forall_of_decodeFrom (p := none) (fun _ hq => nomatch hq) h)

/-! ### Sizes -/

/-- A character has the number of bytes that UTF-8 gives it. -/
theorem length_encodeChar (c : Char) : (encodeChar (.char c)).length = c.utf8Size := by
  have hval : c.val.toNat = c.toNat := rfl
  have hnum : (CodePoint.char c).toNat = c.toNat := rfl
  unfold encodeChar Char.utf8Size
  simp only [UInt32.le_iff_toNat_le, UInt32.toNat_ofNatLT, hval, hnum]
  -- both sides compare the number of the character with the same bounds
  split_ifs <;> first | rfl | omega

/-- The bytes of characters are as many as their size in UTF-8. -/
theorem length_flatMap_encodeChar (cs : List Char) :
    ((cs.map CodePoint.char).flatMap encodeChar).length = (String.ofList cs).utf8ByteSize := by
  induction cs with
  | nil => rfl
  | cons c cs ih =>
    have hcons : String.ofList (c :: cs) = String.singleton c ++ String.ofList cs := by
      rw [String.singleton_eq_ofList, ← String.ofList_append]
      rfl
    rw [hcons, String.utf8ByteSize_append, String.utf8ByteSize_singleton, ← ih,
      ← length_encodeChar, List.map_cons, List.flatMap_cons, List.length_append]

/-- **A text of characters** can be written, in as many bytes as its size in UTF-8. -/
theorem encode_ofString (s : String) :
    ∃ bytes, encode (Text.ofString s).toList = .ok bytes ∧ bytes.length = s.utf8ByteSize := by
  refine ⟨_, encode_eq_ok_iff.2 ⟨fun c hc => ?_, rfl⟩, ?_⟩
  · obtain ⟨c, -, rfl⟩ := List.mem_map.1 hc
    rfl
  · show ((s.toList.map CodePoint.char).flatMap encodeChar).length = _
    rw [length_flatMap_encodeChar, String.ofList_toList]

end Turnstile.Charset.Utf8
