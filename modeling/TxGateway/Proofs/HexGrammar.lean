import TxGateway.Proofs.QuantityGrammar
/-!
# The grammar of hex texts

Which texts are hex texts, and for which cause any other text is refused, said without running the
reader. `Hex.Spell` gives the bytes that digits stand for, two digits for each byte; `Hex.FirstBad`
points to the first byte of a text in UTF-8 that is no digit; `Hex.Reads` puts both together, with
one case for each outcome.

* `Hex.spell_iff_toLower` : the spellings of a byte string are its digits in any letter case;
* `Hex.pairs_eq_error_iff` : reading stops at the first bad byte, wherever in a pair it stands;
* `Hex.decode_eq_iff_reads` : decoding comes to the outcome that the grammar gives;
* `Hex.reads_hex_texts` : all of it together, for byte strings and for addresses.
-/

namespace TxGateway

namespace Digits

/-- A character is a hex digit for a value if its small letter is the digit written for it. -/
theorem isDigitFor_iff_toLower {c : Char} {value : Nat} :
    IsDigitFor 16 c value ↔ value < 16 ∧ c.toLower = Nat.digitChar value := by
  constructor
  · intro h
    have hzero : '0'.toNat = 48 := rfl
    have ha : 'a'.toNat = 97 := rfl
    have hA : 'A'.toNat = 65 := rfl
    have hcode : c.toNat < 256 := by
      rw [IsDigitFor, hzero, ha, hA] at h
      omega
    -- The character is the one with the code of a byte.
    have hbyte : Char.ofNat (UInt8.ofNat c.toNat).toNat = c := by
      rw [UInt8.toNat_ofNat', Nat.mod_eq_of_lt hcode, Char.ofNat_toNat]
    have hvalue : value? (Char.ofNat (UInt8.ofNat c.toNat).toNat) = some value := by
      rw [hbyte]
      exact value?_eq_some_iff.mpr h
    obtain ⟨hbound, -, hlower⟩ := Hex.toLower_of_value? hvalue
    rw [hbyte] at hlower
    exact ⟨hbound, hlower⟩
  · rintro ⟨hvalue, h⟩
    rw [← value?_eq_some_iff, ← value?_toLower, h, value?_digitChar value hvalue]

/-- Two hex digits denote sixteen times the value of the first and the value of the second. -/
theorem denote_pair_iff {high low : Char} {number : Nat} :
    Denote 16 [high, low] number ↔
      ∃ first second, IsDigitFor 16 high first ∧ IsDigitFor 16 low second ∧
        16 * first + second = number := by
  have hplaces : ∀ first second : Nat,
      Nat.ofDigits 16 [first, second].reverse = 16 * first + second := by
    intro first second
    simp [Nat.ofDigits_cons]
    omega
  constructor
  · rintro ⟨values, hvalues, rfl⟩
    cases hvalues with
    | @cons _ first _ _ hfirst hrest =>
      cases hrest with
      | @cons _ second _ _ hsecond hrest =>
        cases hrest
        exact ⟨first, second, hfirst, hsecond, (hplaces first second).symm⟩
  · rintro ⟨first, second, hfirst, hsecond, rfl⟩
    exact ⟨[first, second], .cons hfirst (.cons hsecond .nil), hplaces first second⟩

end Digits

namespace Hex

open Digits (Denote IsDigitFor)

/-! ## Spellings of byte strings -/

/-- The digits of a byte string, in any letter case: two for each byte, that denote it. -/
inductive Spell : List Char → Bytes → Prop
  | nil : Spell [] []
  | cons {high low : Char} {byte : UInt8} {digits : List Char} {bytes : Bytes}
      (value : Denote 16 [high, low] byte.toNat) (rest : Spell digits bytes) :
      Spell (high :: low :: digits) (byte :: bytes)

/-- Two digits denote a byte if their small letters are the digits written for it. -/
theorem denote_pair_iff_toLower {high low : Char} {byte : UInt8} :
    Denote 16 [high, low] byte.toNat ↔ [high.toLower, low.toLower] = byteDigits byte := by
  rw [Digits.denote_pair_iff]
  simp only [Digits.isDigitFor_iff_toLower]
  constructor
  · rintro ⟨first, second, ⟨hfirst, hhigh⟩, ⟨hsecond, hlow⟩, hvalue⟩
    rw [hhigh, hlow, ← byteDigits_ofNat hfirst hsecond, hvalue, UInt8.ofNat_toNat]
  · intro h
    obtain ⟨hhigh, hlow⟩ := List.cons_eq_cons.mp h
    obtain ⟨hfirst, hsecond⟩ := halves_lt byte
    exact ⟨byte.toNat / 16, byte.toNat % 16, ⟨hfirst, hhigh⟩,
      ⟨hsecond, List.head_eq_of_cons_eq hlow⟩, Nat.div_add_mod _ _⟩

/-- **Letter case.** The spellings of a byte string are its digits in any letter case. -/
theorem spell_iff_toLower {text : List Char} {bytes : Bytes} :
    Spell text bytes ↔ text.map Char.toLower = digits bytes := by
  constructor
  · intro h
    induction h with
    | nil => rfl
    | cons value _ ih =>
      rw [digits_cons, ← denote_pair_iff_toLower.mp value, ← ih]
      rfl
  · intro h
    induction bytes generalizing text with
    | nil =>
      obtain rfl := List.map_eq_nil_iff.mp h
      exact .nil
    | cons byte bytes ih =>
      obtain ⟨high, others, rfl, hhigh, h⟩ := List.map_eq_cons_iff.mp h
      obtain ⟨low, rest, rfl, hlow, hrest⟩ := List.map_eq_cons_iff.mp h
      refine .cons (denote_pair_iff_toLower.mpr ?_) (ih hrest)
      rw [hhigh, hlow]
      rfl

/-- Digits are read as the byte string that they spell. -/
theorem ofDigits_eq_ok_iff_spell {text : List Char} {bytes : Bytes} :
    ofDigits text = .ok bytes ↔ Spell text bytes := by
  rw [ofDigits_eq_ok_iff, spell_iff_toLower]

/-- The digits that are written for a byte string spell it. -/
theorem spell_digits (bytes : Bytes) : Spell (digits bytes) bytes :=
  ofDigits_eq_ok_iff_spell.mp (ofDigits_digits bytes)

/-- There are two digits for each byte. -/
theorem Spell.length_eq {text : List Char} {bytes : Bytes} (h : Spell text bytes) :
    text.length = 2 * bytes.length := by
  induction h with
  | nil => rfl
  | cons _ _ ih =>
    simp only [List.length_cons, ih]
    omega

/-! ## The first byte that is no digit -/

/-- A byte is the code of a hex digit. -/
def IsDigitByte (byte : UInt8) : Prop := ∃ value, IsDigitFor 16 (Char.ofNat byte.toNat) value

/-- The first byte of a text in UTF-8 that is no digit, and its place. -/
def FirstBad (encoded : Bytes) (byte : UInt8) (index : Nat) : Prop :=
  encoded[index]? = some byte ∧ ¬ IsDigitByte byte ∧
    ∀ earlier < index, ∀ other, encoded[earlier]? = some other → IsDigitByte other

/-- A bad byte in front is the first one. -/
theorem firstBad_head {head : UInt8} (rest : Bytes) (h : ¬ IsDigitByte head) :
    FirstBad (head :: rest) head 0 :=
  ⟨rfl, h, fun earlier hlt => absurd hlt (Nat.not_lt_zero earlier)⟩

/-- The first bad byte is still the first one behind a digit. -/
theorem FirstBad.behind {head byte : UInt8} {rest : Bytes} {index : Nat}
    (h : FirstBad rest byte index) (hhead : IsDigitByte head) :
    FirstBad (head :: rest) byte (index + 1) := by
  obtain ⟨hbyte, hbad, hearlier⟩ := h
  refine ⟨hbyte, hbad, ?_⟩
  intro earlier hlt other hother
  cases earlier with
  | zero =>
    obtain rfl := Option.some.inj hother
    exact hhead
  | succ earlier => exact hearlier earlier (Nat.lt_of_succ_lt_succ hlt) other hother

/-- The first bad byte stands in front, or it is the first one behind a digit. -/
theorem FirstBad.cases_cons {head byte : UInt8} {rest : Bytes} {index : Nat}
    (h : FirstBad (head :: rest) byte index) :
    (¬ IsDigitByte head ∧ byte = head ∧ index = 0) ∨
      (IsDigitByte head ∧ ∃ place, FirstBad rest byte place ∧ index = place + 1) := by
  obtain ⟨hbyte, hbad, hearlier⟩ := h
  cases index with
  | zero =>
    obtain rfl := Option.some.inj hbyte
    exact Or.inl ⟨hbad, rfl, rfl⟩
  | succ place =>
    refine Or.inr ⟨hearlier 0 (Nat.succ_pos place) head rfl, place, ⟨hbyte, hbad, ?_⟩, rfl⟩
    intro earlier hlt other hother
    exact hearlier (earlier + 1) (Nat.succ_lt_succ hlt) other hother

/-- A byte is read as the value that it is a digit for. -/
theorem nibble_eq_ok_iff {position value : Nat} {byte : UInt8} :
    nibble position byte = .ok value ↔ IsDigitFor 16 (Char.ofNat byte.toNat) value := by
  rw [← Digits.value?_eq_some_iff, nibble]
  cases Digits.value? (Char.ofNat byte.toNat) with
  | none =>
    constructor
    · intro h
      cases h
    · intro h
      cases h
  | some found => rw [Except.ok.injEq, Option.some.injEq]

/-- A byte is refused when it is no digit, with its place. -/
theorem nibble_eq_error_iff {position : Nat} {byte : UInt8} {cause : HexError} :
    nibble position byte = .error cause ↔
      ¬ IsDigitByte byte ∧ cause = .badDigit byte position := by
  have hdigit : IsDigitByte byte ↔ ∃ value, nibble position byte = .ok value := by
    simp only [nibble_eq_ok_iff, IsDigitByte]
  rw [hdigit]
  unfold nibble
  cases Digits.value? (Char.ofNat byte.toNat) with
  | none =>
    constructor
    · intro h
      cases h
      refine ⟨?_, rfl⟩
      rintro ⟨value, h⟩
      cases h
    · rintro ⟨-, rfl⟩
      rfl
  | some found =>
    constructor
    · intro h
      cases h
    · rintro ⟨hnone, -⟩
      exact absurd ⟨found, rfl⟩ hnone

/-- **The first bad byte.** Pairs are refused at the first byte that is no digit, which may be the
first or the second of its pair. -/
theorem pairs_eq_error_iff {position : Nat} {encoded : Bytes} {cause : HexError}
    (heven : encoded.length % 2 = 0) :
    pairs position encoded = .error cause ↔
      ∃ byte index, FirstBad encoded byte index ∧ cause = .badDigit byte (position + index) := by
  fun_induction pairs position encoded with
  | case1 position high low rest ih =>
    have hrest : rest.length % 2 = 0 := by
      simp only [List.length_cons] at heven
      omega
    -- The bad byte is the first of the pair or the second, or it stands behind the pair.
    constructor
    · intro h
      rcases Fallible.bind_eq_error_iff.mp h with hhigh | ⟨first, hhigh, h⟩
      · obtain ⟨hbad, rfl⟩ := nibble_eq_error_iff.mp hhigh
        exact ⟨high, 0, firstBad_head _ hbad, rfl⟩
      have hfirst : IsDigitByte high := ⟨first, nibble_eq_ok_iff.mp hhigh⟩
      rcases Fallible.bind_eq_error_iff.mp h with hlow | ⟨second, hlow, h⟩
      · obtain ⟨hbad, rfl⟩ := nibble_eq_error_iff.mp hlow
        exact ⟨low, 1, (firstBad_head rest hbad).behind hfirst, rfl⟩
      have hsecond : IsDigitByte low := ⟨second, nibble_eq_ok_iff.mp hlow⟩
      rcases Fallible.bind_eq_error_iff.mp h with htail | ⟨bytes, htail, h⟩
      · obtain ⟨byte, index, hbad, rfl⟩ := (ih hrest).mp htail
        refine ⟨byte, index + 2, (hbad.behind hsecond).behind hfirst, ?_⟩
        rw [Nat.add_assoc, Nat.add_comm 2]
      · cases h
    · rintro ⟨byte, index, hbad, rfl⟩
      rw [Fallible.bind_eq_error_iff]
      rcases hbad.cases_cons with ⟨hhigh, rfl, rfl⟩ | ⟨⟨first, hfirst⟩, index, hbehind, rfl⟩
      · exact Or.inl (nibble_eq_error_iff.mpr ⟨hhigh, rfl⟩)
      refine Or.inr ⟨first, nibble_eq_ok_iff.mpr hfirst, ?_⟩
      rw [Fallible.bind_eq_error_iff]
      rcases hbehind.cases_cons with ⟨hlow, rfl, rfl⟩ | ⟨⟨second, hsecond⟩, index, htail, rfl⟩
      · exact Or.inl (nibble_eq_error_iff.mpr ⟨hlow, rfl⟩)
      refine Or.inr ⟨second, nibble_eq_ok_iff.mpr hsecond, ?_⟩
      rw [Fallible.bind_eq_error_iff]
      refine Or.inl ((ih hrest).mpr ⟨byte, index, htail, ?_⟩)
      rw [Nat.add_assoc position 2, Nat.add_comm 2]
  | case2 encoded position hshort =>
    -- Fewer than two bytes are left, and an even number of them: none, and none of them is bad.
    constructor
    · intro h
      cases h
    · rintro ⟨byte, index, ⟨hbyte, -, -⟩, -⟩
      cases encoded with
      | nil => cases hbyte
      | cons high encoded =>
        cases encoded with
        | nil => cases heven
        | cons low encoded => exact absurd rfl (hshort high low encoded)

/-! ## Outcomes -/

/-- A text starts with the marker, in either letter case, and goes on with digits or what stands in
their place. -/
def Marked (core digits : List Char) : Prop :=
  core = '0' :: 'x' :: digits ∨ core = '0' :: 'X' :: digits

/-- What a text comes to that has no white space around it. Without the marker it is refused; behind
the marker its length in bytes is looked at first, then its first byte that is no digit; else it
spells a byte string. -/
inductive Reads (core : List Char) : Except HexError Bytes → Prop
  | unmarked (none : ∀ digits, ¬ Marked core digits) : Reads core (.error .missingMarker)
  | odd {digits : List Char} (marked : Marked core digits) (odd : (utf8 digits).length % 2 = 1) :
      Reads core (.error .oddLength)
  | bad {digits : List Char} {byte : UInt8} {index : Nat} (marked : Marked core digits)
      (even : (utf8 digits).length % 2 = 0) (first : FirstBad (utf8 digits) byte index) :
      Reads core (.error (.badDigit byte index))
  | spelled {digits : List Char} {bytes : Bytes} (marked : Marked core digits)
      (spell : Spell digits bytes) : Reads core (.ok bytes)

/-- What follows the marker is what a marked text goes on with. -/
theorem afterMarker?_eq_some_iff {core digits : List Char} :
    afterMarker? core = some digits ↔ Marked core digits := by
  constructor
  · intro h
    unfold afterMarker? at h
    split at h
    · cases h
      exact Or.inl rfl
    · cases h
      exact Or.inr rfl
    · cases h
  · rintro (rfl | rfl)
    · rfl
    · rfl

/-- Nothing follows the marker where there is none. -/
theorem afterMarker?_eq_none_iff {core : List Char} :
    afterMarker? core = none ↔ ∀ digits, ¬ Marked core digits := by
  simp only [← afterMarker?_eq_some_iff]
  exact Option.eq_none_iff_forall_ne_some

/-- Digits are refused for their number, or else at the first byte that is none. -/
theorem ofDigits_eq_error_iff {text : List Char} {cause : HexError} :
    ofDigits text = .error cause ↔
      ((utf8 text).length % 2 = 1 ∧ cause = .oddLength) ∨
      ((utf8 text).length % 2 = 0 ∧
        ∃ byte index, FirstBad (utf8 text) byte index ∧ cause = .badDigit byte index) := by
  rw [ofDigits]
  by_cases hodd : (utf8 text).length % 2 = 1
  · simp [hodd, eq_comm]
  · have heven : (utf8 text).length % 2 = 0 := by omega
    simp [heven, pairs_eq_error_iff heven]

/-- What a marked text comes to is decided by what follows the marker. -/
theorem decode_of_marked {text : String} {core digits : List Char}
    (hcore : Text.IsCore text.toList core) (hmarked : Marked core digits) :
    decode text = ofDigits digits := by
  rw [decode, Text.trim_eq_of_isCore hcore, afterMarker?_eq_some_iff.mpr hmarked]

/-- A text without a marker is refused. -/
theorem decode_of_unmarked {text : String} {core : List Char}
    (hcore : Text.IsCore text.toList core) (hnone : ∀ digits, ¬ Marked core digits) :
    decode text = .error .missingMarker := by
  rw [decode, Text.trim_eq_of_isCore hcore, afterMarker?_eq_none_iff.mpr hnone]

/-- **Decoding.** A text comes to the outcome that the grammar gives to what it is without the white
space around it. -/
theorem decode_eq_iff_reads {text : String} {core : List Char}
    (hcore : Text.IsCore text.toList core) {result : Except HexError Bytes} :
    decode text = result ↔ Reads core result := by
  constructor
  · rintro rfl
    by_cases hmarker : ∃ digits, Marked core digits
    · obtain ⟨digits, hmarked⟩ := hmarker
      rw [decode_of_marked hcore hmarked]
      cases hread : ofDigits digits with
      | ok bytes => exact .spelled hmarked (ofDigits_eq_ok_iff_spell.mp hread)
      | error cause =>
        rcases ofDigits_eq_error_iff.mp hread with ⟨hodd, rfl⟩ | ⟨heven, byte, index, hbad, rfl⟩
        · exact .odd hmarked hodd
        · exact .bad hmarked heven hbad
    · have hnone := not_exists.mp hmarker
      rw [decode_of_unmarked hcore hnone]
      exact .unmarked hnone
  · intro h
    cases h with
    | unmarked none => exact decode_of_unmarked hcore none
    | odd marked odd =>
      rw [decode_of_marked hcore marked]
      exact ofDigits_eq_error_iff.mpr (Or.inl ⟨odd, rfl⟩)
    | bad marked even first =>
      rw [decode_of_marked hcore marked]
      exact ofDigits_eq_error_iff.mpr (Or.inr ⟨even, _, _, first, rfl⟩)
    | spelled marked spell =>
      rw [decode_of_marked hcore marked]
      exact ofDigits_eq_ok_iff_spell.mpr spell

/-- Behind the marker, an even number of bytes that are all digits spells a byte string. -/
theorem exists_spell_of_forall_isDigitByte {digits : List Char}
    (heven : (utf8 digits).length % 2 = 0) (hdigits : ∀ byte ∈ utf8 digits, IsDigitByte byte) :
    ∃ bytes, Spell digits bytes := by
  cases hread : ofDigits digits with
  | ok bytes => exact ⟨bytes, ofDigits_eq_ok_iff_spell.mp hread⟩
  | error cause =>
    exfalso
    rcases ofDigits_eq_error_iff.mp hread with ⟨hodd, -⟩ | ⟨-, byte, index, ⟨hbyte, hbad, -⟩, -⟩
    · omega
    · exact hbad (hdigits byte (List.mem_of_getElem? hbyte))

/-- Spellings consist of hex digits. -/
theorem Spell.forall_isDigit {text : List Char} {bytes : Bytes} (h : Spell text bytes) :
    ∀ c ∈ text, Digits.isDigit 16 c = true := by
  induction h with
  | nil => simp
  | @cons high low byte digits bytes value _ ih =>
    intro c hc
    rw [show high :: low :: digits = [high, low] ++ digits from rfl, List.mem_append] at hc
    rcases hc with hpair | hrest
    · exact value.forall_isDigit (by omega) c hpair
    · exact ih c hrest

/-- A marker and the digits of a byte string, in any letter case, have no white space around them.
-/
theorem isCore_of_spell {text digits : List Char} {bytes : Bytes} (hmarked : Marked text digits)
    (h : Spell digits bytes) : Text.IsCore text text := by
  have htight : ∀ c ∈ text, Text.isBlank c = false := by
    rcases hmarked with rfl | rfl
    · exact Quantity.isBlank_of_marked (Or.inl rfl) h.forall_isDigit
    · exact Quantity.isBlank_of_marked (Or.inr rfl) h.forall_isDigit
  have hcore := Text.isCore_trim text
  rwa [Text.trim_of_forall_not_isBlank htight] at hcore

/-- **Hex texts.** What a text is decoded to is decided by what it is without the white space around
it: without a marker it is refused as unmarked; behind the marker an odd number of bytes is refused
as such, whatever the bytes are; then the first byte that is no digit is refused, with its place;
and an even number of digits is accepted, as the bytes that they spell. An address is read where
twenty bytes are, refused for the cause for which a byte string is, and for its length where another
number of bytes is read. Every byte string is read from its digits behind a marker, in any letter
case; and what a text is decoded to is written as that text, without white space and in lower case.
-/
theorem reads_hex_texts :
    (∀ text, ∃ core, Text.IsCore text core) ∧
    (∀ text core result, Text.IsCore text.toList core →
      (decode text = result ↔ Reads core result)) ∧
    (∀ text core digits, Text.IsCore text.toList core → Marked core digits →
      (utf8 digits).length % 2 = 0 → (∀ byte ∈ utf8 digits, IsDigitByte byte) →
      ∃ bytes, Spell digits bytes ∧ decode text = .ok bytes) ∧
    (∀ text address, Address.ofText text = .ok address ↔ decode text = .ok address.bytes) ∧
    (∀ text cause, Address.ofText text = .error cause ↔
      decode text = .error cause ∨
      ∃ bytes, decode text = .ok bytes ∧ bytes.length ≠ 20 ∧ cause = .wrongLength 20 bytes.length) ∧
    (∀ text digits bytes, Marked text.toList digits → Spell digits bytes →
      decode text = .ok bytes) ∧
    (∀ digits bytes, Spell digits bytes ↔ digits.map Char.toLower = Hex.digits bytes) ∧
    (∀ bytes, IsLowerText (encode bytes) bytes) ∧
    (∀ text core bytes, Text.IsCore text.toList core → decode text = .ok bytes →
      (encode bytes).toList = core.map Char.toLower) := by
  refine ⟨fun text => ⟨_, Text.isCore_trim text⟩, fun _ _ _ hcore => decode_eq_iff_reads hcore, ?_,
    fun _ _ => decodeFixed_eq_ok_iff, fun _ _ => decodeFixed_eq_error_iff, ?_,
    fun _ _ => spell_iff_toLower, isLowerText_encode, ?_⟩
  · intro text core digits hcore hmarked heven hdigits
    obtain ⟨bytes, hspell⟩ := exists_spell_of_forall_isDigitByte heven hdigits
    exact ⟨bytes, hspell, (decode_eq_iff_reads hcore).mpr (.spelled hmarked hspell)⟩
  · intro text digits bytes hmarked hspell
    exact (decode_eq_iff_reads (isCore_of_spell hmarked hspell)).mpr (.spelled hmarked hspell)
  · intro text core bytes hcore hdecode
    rw [encode_of_decode hdecode, Text.trim_eq_of_isCore hcore, String.toList_ofList]

/-- A character of more than one byte is refused at its first byte, and an odd number of bytes comes
before it. -/
example : decode "0xab\u00e9f" = .error (.oddLength) ∧
    decode " 0XaB\u00e9 " = .error (.badDigit 0xc3 2) := by decide

end Hex

end TxGateway
