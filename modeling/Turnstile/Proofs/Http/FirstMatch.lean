import Mathlib.Data.List.Induction
import Mathlib.Data.List.Nodup
import Turnstile.Proofs.Charset.Reversible
import Turnstile.Proofs.Http.Headers

namespace Turnstile.Http

/-!
# The first header of each name

* `names_headerMap`, `nodup_names_headerMap` — **the names** of the header map: each in its place of
  first occurrence, and none twice;
* `prefix_headerMap_append` — further headers only add names at the end;
* `headerMap_of_nodup` — headers of different names are all kept;
* `RawHeader.ofEntry`, `RawHeader.ofEntry_entry` — an entry written as a header again: the name in
  small letters is in Latin-1, and its small letters are its own;
* `headerMap_finds_first` — **first match**: looking up a name is searching for its first header.
-/

/-- What a header adds to the header map: its name in small letters, and its value. -/
def RawHeader.entry (h : RawHeader) : Text × Text :=
  (h.key, h.text)

/-! ### Names -/

/-- A name is added unless it is there. -/
theorem names_addNew (entries : List (Text × Text)) (name value : Text) :
    (addNew entries name value).map Prod.fst =
      if name ∈ entries.map Prod.fst then entries.map Prod.fst
      else entries.map Prod.fst ++ [name] := by
  have hthere : (entries.any fun e => e.1 == name) = true ↔ name ∈ entries.map Prod.fst := by
    simp
  unfold addNew
  simp only [hthere]
  split
  · rfl
  · rw [List.map_append]
    rfl

/-- One more header at the end is added last. -/
theorem headerMap_concat (headers : List RawHeader) (h : RawHeader) :
    headerMap (headers ++ [h]) = addNew (headerMap headers) h.key h.text :=
  List.foldl_append

/-- **The names** of the header map are those of the headers, in the order of first occurrence. -/
theorem names_headerMap (headers : List RawHeader) :
    (headerMap headers).map Prod.fst = (headers.map RawHeader.key).eraseDups := by
  induction headers using List.reverseRecOn with
  | nil => rfl
  | append_singleton headers h ih =>
    rw [headerMap_concat, names_addNew, ih, List.map_append, List.eraseDups_append]
    simp only [List.mem_eraseDups, List.map_cons, List.map_nil, List.removeAll, List.filter_cons,
      List.filter_nil, List.elem_eq_mem]
    by_cases hthere : h.key ∈ headers.map RawHeader.key
    · simp [hthere]
    · simp [hthere, List.eraseDups_cons]

/-- No name is there twice. -/
theorem nodup_names_headerMap (headers : List RawHeader) :
    ((headerMap headers).map Prod.fst).Nodup := by
  induction headers using List.reverseRecOn with
  | nil => exact List.nodup_nil
  | append_singleton headers h ih =>
    rw [headerMap_concat, names_addNew]
    split
    · exact ih
    · rename_i hnew
      refine List.nodup_append.2 ⟨ih, List.nodup_singleton _, ?_⟩
      rintro name hname _ hlast rfl
      exact hnew (List.mem_singleton.1 hlast ▸ hname)

/-- Further headers only add names at the end. -/
theorem prefix_headerMap_append (headers more : List RawHeader) :
    headerMap headers <+: headerMap (headers ++ more) := by
  induction more using List.reverseRecOn with
  | nil => exact (List.append_nil headers).symm ▸ List.prefix_rfl
  | append_singleton more h ih =>
    rw [← List.append_assoc, headerMap_concat]
    refine ih.trans ?_
    unfold addNew
    split
    · exact List.prefix_rfl
    · exact List.prefix_append _ _

/-! ### The header map as headers -/

/-- Each entry is that of a header. -/
theorem exists_of_mem_headerMap {headers : List RawHeader} {e : Text × Text}
    (he : e ∈ headerMap headers) : ∃ h ∈ headers, e = h.entry := by
  induction headers using List.reverseRecOn with
  | nil => nomatch he
  | append_singleton headers h ih =>
    rw [headerMap_concat] at he
    have hcases : e ∈ headerMap headers ∨ e = h.entry := by
      unfold addNew at he
      split at he
      · exact .inl he
      · exact (List.mem_append.1 he).imp_right List.mem_singleton.1
    rcases hcases with hold | hnew
    · obtain ⟨h', hmem, heq⟩ := ih hold
      exact ⟨h', List.mem_append_left _ hmem, heq⟩
    · exact ⟨h, List.mem_append_right _ (List.mem_singleton_self h), hnew⟩

/-- Headers of different names are all kept. -/
theorem headerMap_of_nodup {headers : List RawHeader} (h : (headers.map RawHeader.key).Nodup) :
    headerMap headers = headers.map RawHeader.entry := by
  induction headers using List.reverseRecOn with
  | nil => rfl
  | append_singleton headers last ih =>
    rw [List.map_append, List.nodup_append] at h
    obtain ⟨hnodup, -, hlast⟩ := h
    have hnew : ¬ (headers.map RawHeader.entry).any (fun e => e.1 == last.key) = true := by
      simp only [List.any_eq_true, List.mem_map, beq_iff_eq, not_exists, not_and]
      rintro _ ⟨old, hold, rfl⟩
      exact hlast _ (List.mem_map_of_mem hold) _ (List.mem_singleton_self _)
    rw [headerMap_concat, ih hnodup, addNew, if_neg hnew, List.map_append]
    rfl

/-! ### Small letters in Latin-1 -/

/-- The byte of the small letter in Latin-1. -/
def smallByte (b : UInt8) : UInt8 :=
  if (0x41 ≤ b ∧ b ≤ 0x5A) ∨ (0xC0 ≤ b ∧ b ≤ 0xDE ∧ b ≠ 0xD7) then b + 0x20 else b

/-- Of the runs of capital letters only the first three begin in Latin-1. -/
theorem find?_lowerRuns {n : Nat} (h : n < 0x100) :
    (Text.lowerRuns.find? fun r => r.has n) = (Text.lowerRuns.take 3).find? fun r => r.has n := by
  have hlater : ∀ r ∈ Text.lowerRuns.drop 3, 0x100 ≤ r.first := by decide +kernel
  have hnone : ((Text.lowerRuns.drop 3).find? fun r => r.has n) = none := by
    refine List.find?_eq_none.2 fun r hr hhas => ?_
    simp only [Text.LowerRun.has, Bool.and_eq_true, decide_eq_true_eq] at hhas
    have hfirst := hlater r hr
    omega
  rw [← Option.or_none (o := (Text.lowerRuns.take 3).find? fun r => r.has n), ← hnone,
    ← List.find?_append, List.take_append_drop]

/-- A character of Latin-1 has a small letter in Latin-1, which is its own small letter. -/
theorem lowerChar_latin1 (b : UInt8) :
    Text.lowerChar (CodePoint.ofNat b.toNat) = [CodePoint.ofNat (smallByte b).toNat] ∧
      smallByte (smallByte b) = smallByte b := by
  have hall : ∀ n < 256,
      ((Text.lowerRuns.take 3).find? fun r => r.has n).elim [CodePoint.ofNat n]
          (fun r => [CodePoint.ofNat (r.small + (n - r.first))]) =
        [CodePoint.ofNat (smallByte (UInt8.ofNat n)).toNat] ∧
      smallByte (smallByte (UInt8.ofNat n)) = smallByte (UInt8.ofNat n) := by
    decide +kernel
  have hb := hall b.toNat b.toNat_lt
  rw [UInt8.ofNat_toNat] at hb
  have hlt := b.toNat_lt
  have hdotted : b.toNat ≠ 0x130 := by omega
  unfold Text.lowerChar
  rw [Charset.toNat_ofNat_toNat, if_neg hdotted, find?_lowerRuns hlt]
  revert hb
  cases (Text.lowerRuns.take 3).find? fun r => r.has b.toNat with
  | none => exact id
  | some r => exact id

/-- A text in Latin-1 in small letters. -/
theorem lower_latin1 (bytes : List UInt8) :
    Text.lower (latin1 bytes) = latin1 (bytes.map smallByte) := by
  have hsigma : CodePoint.char 'Σ' ∉ latin1 bytes := by
    intro hmem
    obtain ⟨b, -, hb⟩ := List.mem_map.1 hmem
    have hcode := congrArg CodePoint.toNat hb
    rw [Charset.toNat_ofNat_toNat] at hcode
    have hlt := b.toNat_lt
    have hcapital : (CodePoint.char 'Σ').toNat = 0x3A3 := rfl
    omega
  rw [Text.lower_eq_flatMap hsigma]
  unfold latin1
  rw [List.flatMap_map, List.map_map, List.map_eq_flatMap]
  simp only [(lowerChar_latin1 _).1, Function.comp_apply]

/-- Latin-1 gives back the bytes of a text. -/
theorem encode_latin1 (bytes : List UInt8) :
    Charset.Repertoire.latin1.encode (latin1 bytes) = .ok bytes := by
  have hown : ∀ b : UInt8,
      Charset.Repertoire.latin1.writer.write? (CodePoint.ofNat b.toNat) = some [b] := by
    intro b
    show (Charset.Repertoire.latin1.byte? (CodePoint.ofNat b.toNat)).map (fun b => [b]) = _
    unfold Charset.Repertoire.byte?
    dsimp only
    rw [Charset.toNat_ofNat_toNat, if_pos b.toNat_lt, UInt8.ofNat_toNat]
    rfl
  refine Charset.Writer.encode_eq_ok_iff.2 ⟨fun c hc => ?_, ?_⟩
  · obtain ⟨b, -, rfl⟩ := List.mem_map.1 hc
    unfold Charset.Writer.lacks
    rw [hown]
    rfl
  · unfold latin1 Charset.Writer.bytes
    rw [List.flatMap_map]
    simp only [hown, Option.getD_some, List.flatMap_singleton']

namespace RawHeader

/-- A header with the name in small letters. -/
def lowered (h : RawHeader) : RawHeader :=
  ⟨h.name.map smallByte, h.value⟩

/-- The header of a name and a value, both written in Latin-1. -/
def ofEntry (e : Text × Text) : Except Charset.Unencodable RawHeader := do
  return ⟨← Charset.Repertoire.latin1.encode e.1.toList,
    ← Charset.Repertoire.latin1.encode e.2.toList⟩

/-- Small letters have the same entry. -/
theorem entry_lowered (h : RawHeader) : h.lowered.entry = h.entry := by
  have hsmall : (h.name.map smallByte).map smallByte = h.name.map smallByte := by
    rw [List.map_map]
    exact List.map_congr_left fun b _ => (lowerChar_latin1 b).2
  unfold entry key lowered
  rw [lower_latin1, lower_latin1, hsmall]
  rfl

/-- The entry of a header can be written as a header, which is the same one in small letters. -/
theorem ofEntry_entry (h : RawHeader) : ofEntry h.entry = .ok h.lowered := by
  unfold ofEntry entry key text
  rw [Text.toList_ofList, Text.toList_ofList, lower_latin1, encode_latin1, encode_latin1]
  rfl

/-- Entries of headers can be written as headers, whose entries they are. -/
theorem exists_mapM_ofEntry {entries : List (Text × Text)}
    (h : ∀ e ∈ entries, ∃ header : RawHeader, e = header.entry) :
    ∃ again, entries.mapM ofEntry = .ok again ∧ again.map entry = entries := by
  induction entries with
  | nil => exact ⟨[], rfl, rfl⟩
  | cons e entries ih =>
    obtain ⟨header, rfl⟩ := h e List.mem_cons_self
    obtain ⟨again, hagain, hentries⟩ := ih fun e he => h e (List.mem_cons_of_mem _ he)
    refine ⟨header.lowered :: again, ?_, ?_⟩
    · rw [List.mapM_cons, ofEntry_entry, hagain]
      rfl
    · rw [List.map_cons, entry_lowered, hentries]

end RawHeader

/-! ### First match -/

/-- **First match.**  The names of the header map are pairwise different, they are the names of the
    headers in small letters, each in its place of first occurrence, and the value of a name is that
    of its first header.  So further headers at the end change no value that is there, an order in
    which the headers of one name follow each other as before changes no value at all, and the
    header map that is written as headers again is its own header map. -/
theorem headerMap_finds_first (headers : List RawHeader) :
    ((headerMap headers).map Prod.fst).Nodup ∧
    (headerMap headers).map Prod.fst =
      (headers.map fun h => Text.ofList (Text.lower (latin1 h.name))).eraseDups ∧
    (∀ name, header? name headers = (headers.find? fun h => h.key == name).map RawHeader.text) ∧
    (∀ more name value, header? name headers = some value →
      header? name (headers ++ more) = some value) ∧
    (∀ reordered : List RawHeader,
      (∀ name, (reordered.filter fun h => h.key == name) =
        headers.filter fun h => h.key == name) →
      ∀ name, header? name reordered = header? name headers) ∧
    ∃ again, (headerMap headers).mapM RawHeader.ofEntry = .ok again ∧
      headerMap again = headerMap headers := by
  refine ⟨nodup_names_headerMap headers, names_headerMap headers,
    fun name => header?_eq_find? name headers, fun more name value h => ?_,
    fun reordered h name => ?_, ?_⟩
  · obtain ⟨added, hadded⟩ := prefix_headerMap_append headers more
    have hthere : (headerMap headers).lookup name = some value := h
    unfold header?
    rw [← hadded, List.lookup_append, hthere, Option.some_or]
  · -- the first header of a name is the first of those of that name
    rw [header?_eq_find?, header?_eq_find?, ← List.head?_filter, ← List.head?_filter, h name]
  · have hfrom : ∀ e ∈ headerMap headers, ∃ h : RawHeader, e = h.entry :=
      fun e he => (exists_of_mem_headerMap he).imp fun _ h => h.2
    obtain ⟨again, hagain, hentries⟩ := RawHeader.exists_mapM_ofEntry hfrom
    refine ⟨again, hagain, ?_⟩
    have hnames : again.map RawHeader.key = (headerMap headers).map Prod.fst := by
      rw [← hentries, List.map_map]
      rfl
    rw [headerMap_of_nodup (hnames ▸ nodup_names_headerMap headers), hentries]

/-- `Authorization` twice in different letter case, with `É` between them or in front. -/
theorem headerMap_finds_first_authorization :
    let bytes (text : Text) : List UInt8 := text.toList.map fun c => UInt8.ofNat c.toNat
    let first : RawHeader := ⟨bytes "Authorization", bytes "Basic cm9kOmtvYWxh"⟩
    let second : RawHeader := ⟨bytes "AUTHORIZATION", bytes "Basic eDp5"⟩
    let other : RawHeader := ⟨[0xC9], [0x7A]⟩
    header? "authorization" [first, other] = some ("Basic cm9kOmtvYWxh" : Text) ∧
      header? "authorization" [first, other, second] = some ("Basic cm9kOmtvYWxh" : Text) ∧
      (∀ name, ([other, first, second].filter fun h => h.key == name) =
        [first, other, second].filter fun h => h.key == name) ∧
      header? "authorization" [other, first, second] =
        header? "authorization" [first, other, second] ∧
      (headerMap [first, other, second]).map Prod.fst = [("authorization" : Text), "é"] := by
  intro bytes first second other
  have hthere : header? "authorization" [first, other] = some ("Basic cm9kOmtvYWxh" : Text) := by
    decide +kernel
  have hdiffers : first.key ≠ other.key := by decide +kernel
  -- two neighbours of different names may change places
  have hswap : ∀ {h h' : RawHeader}, h.key ≠ h'.key → ∀ later name,
      ((h' :: h :: later).filter fun h => h.key == name) =
        (h :: h' :: later).filter fun h => h.key == name := by
    intro h h' hne later name
    by_cases hname : h.key = name
    · have hname' : ¬ h'.key = name := fun heq => hne (hname.trans heq.symm)
      simp [hname, hname']
    · simp [List.filter_cons, hname]
  have hreordered := hswap hdiffers [second]
  have hnames := (headerMap_finds_first [first, other, second]).2.1
  exact ⟨hthere, (headerMap_finds_first [first, other]).2.2.2.1 [second] _ _ hthere, hreordered,
    (headerMap_finds_first _).2.2.2.2.1 _ hreordered _, hnames.trans (by decide +kernel)⟩

end Turnstile.Http
