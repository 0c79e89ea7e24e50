namespace Turnstile

/-!
# Code points and texts

* `CodePoint` — a character, or one half of a surrogate pair on its own;
* `CodePoint.toNat`, `CodePoint.ofNat` — the number of a code point;
* `Text` — code points in a row;
* `Text.ofString` — the text of a string, which holds characters alone;
* `Text.Writable` — the texts that hold nothing else.

Texts come from parties that do not check whether the halves of surrogate pairs are in pairs.  A
half on its own is no character, and no bytes of UTF-8 write it, so that not every text is a
string.
-/

/-! ### Code points -/

/-- A character, or one half of a surrogate pair on its own. -/
inductive CodePoint
  | char (c : Char)
  | surrogate (n : Fin 0x800)
  deriving DecidableEq, Repr

namespace CodePoint

instance : Coe Char CodePoint := ⟨.char⟩

/-- The number of a code point. -/
def toNat : CodePoint → Nat
  | .char c => c.toNat
  | .surrogate n => 0xD800 + n.val

/-- The code point of a number. -/
def ofNat (n : Nat) : CodePoint :=
  if h : 0xD800 ≤ n ∧ n < 0xE000 then .surrogate ⟨n - 0xD800, by omega⟩
  else .char (Char.ofNat n)

/-- No character has the number of a surrogate. -/
theorem toNat_char_lt_or (c : Char) : c.toNat < 0xD800 ∨ (0xDFFF < c.toNat ∧ c.toNat < 0x110000) :=
  c.valid

theorem toNat_lt (c : CodePoint) : c.toNat < 0x110000 := by
  cases c with
  | char c =>
    show c.toNat < 0x110000
    have := toNat_char_lt_or c
    omega
  | surrogate n =>
    show 0xD800 + n.val < 0x110000
    omega

/-- A code point is the one of its number. -/
@[simp] theorem ofNat_toNat (c : CodePoint) : ofNat c.toNat = c := by
  unfold ofNat
  cases c with
  | char c =>
    have hno : ¬ (0xD800 ≤ c.toNat ∧ c.toNat < 0xE000) := by
      have := toNat_char_lt_or c
      omega
    exact (dif_neg hno).trans (congrArg char (Char.ofNat_toNat c))
  | surrogate n =>
    have hyes : 0xD800 ≤ 0xD800 + n.val ∧ 0xD800 + n.val < 0xE000 := by omega
    refine (dif_pos hyes).trans (congrArg surrogate (Fin.ext ?_))
    exact Nat.add_sub_cancel_left ..

/-- The code point of a number in range has that number. -/
theorem toNat_ofNat {n : Nat} (h : n < 0x110000) : (ofNat n).toNat = n := by
  unfold ofNat
  split
  · rename_i hsurrogate
    exact Nat.add_sub_cancel' hsurrogate.1
  · rename_i hno
    have hvalid : n.isValidChar := by
      unfold Nat.isValidChar
      omega
    show (Char.ofNat n).toNat = n
    unfold Char.ofNat
    rw [dif_pos hvalid]
    rfl

/-- Code points of one number are the same. -/
theorem toNat_inj {c d : CodePoint} : c.toNat = d.toNat ↔ c = d :=
  ⟨fun h => by rw [← ofNat_toNat c, h, ofNat_toNat], congrArg toNat⟩

/-- What holds for every number below a bound holds for the code points of these numbers. -/
theorem forall_of_forall_lt {bound : Nat} {P : CodePoint → Prop}
    (h : ∀ n < bound, P (ofNat n)) : ∀ c : CodePoint, c.toNat < bound → P c := by
  intro c hc
  have hn := h c.toNat hc
  rwa [ofNat_toNat] at hn

/-- One half of a surrogate pair. -/
def isSurrogate : CodePoint → Bool
  | .char _ => false
  | .surrogate _ => true

theorem isSurrogate_eq_true_iff {c : CodePoint} :
    c.isSurrogate = true ↔ 0xD800 ≤ c.toNat ∧ c.toNat < 0xE000 := by
  cases c with
  | char c =>
    have hvalid := toNat_char_lt_or c
    refine ⟨fun h => (nomatch h), fun h => ?_⟩
    have hbounds : 0xD800 ≤ c.toNat ∧ c.toNat < 0xE000 := h
    omega
  | surrogate n =>
    have hlt := n.isLt
    refine ⟨fun _ => ?_, fun _ => rfl⟩
    show 0xD800 ≤ 0xD800 + n.val ∧ 0xD800 + n.val < 0xE000
    omega

/-- A decimal digit of ASCII. -/
def isDigit : CodePoint → Bool
  | .char c => c.isDigit
  | .surrogate _ => false

/-- A letter or a decimal digit of ASCII. -/
def isAlphanum : CodePoint → Bool
  | .char c => c.isAlphanum
  | .surrogate _ => false

/-- The small letter of a capital letter of ASCII; all else stays as it is. -/
def toLower : CodePoint → CodePoint
  | .char c => .char c.toLower
  | .surrogate n => .surrogate n

/-- The capital letter of a small letter of ASCII; all else stays as it is. -/
def toUpper : CodePoint → CodePoint
  | .char c => .char c.toUpper
  | .surrogate n => .surrogate n

end CodePoint

/-! ### Texts -/

/-- Code points in a row. -/
structure Text where
  ofList ::
  toList : List CodePoint
  deriving DecidableEq, Repr

namespace Text

/-- The text of a string. -/
@[coe] def ofString (s : String) : Text :=
  ⟨s.toList.map .char⟩

instance : Coe String Text := ⟨ofString⟩

instance : Inhabited Text := ⟨""⟩

instance : Append Text := ⟨fun s t => ⟨s.toList ++ t.toList⟩⟩

@[simp] theorem toList_ofList (cs : List CodePoint) : (ofList cs).toList = cs := rfl

@[simp] theorem ofList_toList (t : Text) : ofList t.toList = t := rfl

@[simp] theorem ofList_comp_toList : ofList ∘ toList = id := rfl

@[simp] theorem toList_append (s t : Text) : (s ++ t).toList = s.toList ++ t.toList := rfl

theorem ofList_append (cs ds : List CodePoint) : ofList (cs ++ ds) = ofList cs ++ ofList ds := rfl

theorem toList_inj {s t : Text} : s.toList = t.toList ↔ s = t :=
  ⟨fun h => congrArg ofList h, congrArg toList⟩

theorem ofList_eq_empty_iff {cs : List CodePoint} : ofList cs = "" ↔ cs = [] :=
  toList_inj.symm

theorem toList_eq_nil_iff {t : Text} : t.toList = [] ↔ t = "" :=
  toList_inj (s := t) (t := "")

/-- The number of code points. -/
def length (t : Text) : Nat :=
  t.toList.length

/-- Texts one behind the other with a separator between them. -/
def intercalate (separator : Text) (texts : List Text) : Text :=
  ofList (separator.toList.intercalate (texts.map toList))

/-- The digits of a number to a base. -/
def digits (base n : Nat) : List CodePoint :=
  (Nat.toDigits base n).map .char

/-- A natural number in decimal. -/
def ofNat (n : Nat) : Text :=
  ofList (digits 10 n)

/-- An integer in decimal. -/
def ofInt : Int → Text
  | .ofNat n => ofNat n
  | .negSucc n => "-" ++ ofNat (n + 1)

/-- No half of a surrogate pair is in the text, so that UTF-8 can write it. -/
def Writable (t : Text) : Prop :=
  ∀ c ∈ t.toList, c.isSurrogate = false

instance (t : Text) : Decidable t.Writable :=
  inferInstanceAs (Decidable (∀ c ∈ t.toList, c.isSurrogate = false))

/-- A text comes before another or is the same, in the order of code points. -/
def precedes (s t : Text) : Bool :=
  !(t.toList.map CodePoint.toNat).lex (s.toList.map CodePoint.toNat) fun m n => decide (m < n)

end Text

end Turnstile
