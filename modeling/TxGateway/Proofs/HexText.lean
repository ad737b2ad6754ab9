import Mathlib.Data.List.TakeWhile
import TxGateway.Hex
import TxGateway.Proofs.Fallible
/-!
# Hex texts and byte strings

`Text.IsCore` says what a text is apart from the white space around it, which is what trimming
leaves. `Hex.IsLowerText` says what the canonical text of a byte string is, digit by digit. Encoding
writes it, decoding reads it back, and a text in any other letter case or with white space around it
is decoded to the bytes whose canonical text is its own, trimmed and in lower case.
-/

namespace TxGateway

/-! ## Trimming -/

namespace Text

/-- White space of any length. -/
def Blank (text : List Char) : Prop := ∀ c ∈ text, isBlank c = true

/-- No white space is white space. -/
theorem blank_nil : Blank [] := by
  intro c hc
  cases hc

/-- Two texts that differ only in letter case and in the white space around them. -/
def Same (first second : String) : Prop :=
  (trim first.toList).map Char.toLower = (trim second.toList).map Char.toLower

/-- No character between `0` and `f` is white space. -/
theorem isBlank_of_code {c : Char} (h : 48 ≤ c.toNat ∧ c.toNat ≤ 102) : isBlank c = false := by
  simp only [isBlank, Bool.or_eq_false_iff, Bool.and_eq_false_iff, decide_eq_false_iff_not,
    beq_eq_false_iff_ne]
  omega

/-- White space stands at neither end of a text. -/
def IsTight (text : List Char) : Prop :=
  (∀ c ∈ text.head?, isBlank c = false) ∧ ∀ c ∈ text.getLast?, isBlank c = false

/-- What is left of a text without the white space around it. -/
def IsCore (text core : List Char) : Prop :=
  ∃ before after, Blank before ∧ Blank after ∧ IsTight core ∧ text = before ++ (core ++ after)

/-- Where no white space stands in front, nothing is dropped. -/
theorem dropWhile_of_head? {text : List Char} (h : ∀ c ∈ text.head?, isBlank c = false) :
    text.dropWhile isBlank = text := by
  cases text with
  | nil => rfl
  | cons c text => simp [h c rfl]

/-- After dropping, no white space stands in front. -/
theorem isBlank_of_head?_dropWhile {text : List Char} {c : Char}
    (h : c ∈ (text.dropWhile isBlank).head?) : isBlank c = false := by
  rw [← List.find?_not_eq_head?_dropWhile, Option.mem_def] at h
  simpa using List.find?_some h

/-- Trimming takes away the white space around a text and nothing else. -/
theorem trim_eq_of_isCore {text core : List Char} (h : IsCore text core) : trim text = core := by
  obtain ⟨before, after, hbefore, hafter, ⟨hhead, hlast⟩, rfl⟩ := h
  have hback : (core ++ after).reverse.dropWhile isBlank = core.reverse := by
    rw [List.reverse_append,
      List.dropWhile_append_of_pos fun c hc => hafter c (List.mem_reverse.mp hc)]
    apply dropWhile_of_head?
    rwa [List.head?_reverse]
  rw [trim, List.dropWhile_append_of_pos hbefore]
  cases core with
  | nil =>
    have hnone : after.dropWhile isBlank = [] := List.dropWhile_eq_nil_iff.mpr hafter
    rw [List.nil_append, hnone]
    rfl
  | cons c core =>
    have hfront : (c :: core ++ after).dropWhile isBlank = c :: core ++ after :=
      dropWhile_of_head? hhead
    rw [hfront, trimEnd, hback, List.reverse_reverse]

/-- What is left by trimming has no white space around it, and what is taken away is white space. -/
theorem isCore_trim (text : List Char) : IsCore text (trim text) := by
  have hblank : ∀ rest : List Char, Blank (rest.takeWhile isBlank) :=
    fun rest c hc => List.mem_takeWhile_imp hc
  have hback : text.dropWhile isBlank =
      trim text ++ ((text.dropWhile isBlank).reverse.takeWhile isBlank).reverse := by
    rw [trim, trimEnd, ← List.reverse_append, List.takeWhile_append_dropWhile, List.reverse_reverse]
  refine ⟨text.takeWhile isBlank, ((text.dropWhile isBlank).reverse.takeWhile isBlank).reverse,
    hblank text, ?_, ⟨?_, ?_⟩, ?_⟩
  · intro c hc
    exact hblank _ c (List.mem_reverse.mp hc)
  · -- The first character was the first one before the white space at the end was dropped.
    intro c hc
    have hfront : c ∈ (text.dropWhile isBlank).head? := by
      rw [hback, List.head?_append, Option.mem_def.mp hc]
      rfl
    exact isBlank_of_head?_dropWhile hfront
  · intro c hc
    rw [trim, trimEnd, List.getLast?_reverse] at hc
    exact isBlank_of_head?_dropWhile hc
  · rw [← hback, List.takeWhile_append_dropWhile]

/-- White space around a text that has none is what trimming takes away. -/
theorem trim_padded {before core after : List Char} (hbefore : Blank before) (hafter : Blank after)
    (hcore : ∀ c ∈ core, isBlank c = false) : trim (before ++ (core ++ after)) = core :=
  trim_eq_of_isCore ⟨before, after, hbefore, hafter, ⟨fun c hc => hcore c (List.mem_of_head? hc),
    fun c hc => hcore c (List.mem_of_getLast? hc)⟩, rfl⟩

/-- A text without white space is left as it is by trimming. -/
theorem trim_of_forall_not_isBlank {text : List Char} (h : ∀ c ∈ text, isBlank c = false) :
    trim text = text := by
  have htrim := trim_padded blank_nil blank_nil h
  rwa [List.append_nil] at htrim

/-- What trimming takes away is white space. -/
theorem exists_padding (text : List Char) :
    ∃ before after, Blank before ∧ Blank after ∧ text = before ++ (trim text ++ after) := by
  obtain ⟨before, after, hbefore, hafter, -, htext⟩ := isCore_trim text
  exact ⟨before, after, hbefore, hafter, htext⟩

end Text

namespace Hex

/-! ## The canonical text of a byte string -/

/-- A hex digit in lower case. -/
def isLowerDigit (c : Char) : Bool := ('0' ≤ c && c ≤ '9') || ('a' ≤ c && c ≤ 'f')

/-- The digits of a byte string: two for each byte, the one of higher value first. -/
inductive AreLowerDigits : List Char → Bytes → Prop
  | nil : AreLowerDigits [] []
  | cons {high low : Char} {byte : UInt8} {digits : List Char} {bytes : Bytes}
      (lower : isLowerDigit high = true ∧ isLowerDigit low = true)
      (value : Digits.ofDigits 16 [high, low] = byte.toNat)
      (rest : AreLowerDigits digits bytes) :
      AreLowerDigits (high :: low :: digits) (byte :: bytes)

/-- The canonical text of a byte string: the marker `0x`, and its digits in lower case. -/
def IsLowerText (text : String) (bytes : Bytes) : Prop :=
  ∃ digits, text.toList = '0' :: 'x' :: digits ∧ AreLowerDigits digits bytes

/-- The digits for numbers below sixteen are in lower case. -/
theorem isLowerDigit_digitChar {number : Nat} (h : number < 16) :
    isLowerDigit (Nat.digitChar number) = true := by
  have all : ∀ n, n < 16 → isLowerDigit (Nat.digitChar n) = true := by decide
  exact all number h

/-- A byte has two digits: its halves are below sixteen. -/
theorem halves_lt (byte : UInt8) : byte.toNat / 16 < 16 ∧ byte.toNat % 16 < 16 := by
  have hbyte : byte.toNat < 256 := byte.toNat_lt_size
  constructor
  · omega
  · omega

/-- A byte is sixteen times the value of its first digit and the value of its second. -/
theorem ofDigits_byteDigits (byte : UInt8) :
    Digits.ofDigits 16 (byteDigits byte) = byte.toNat := by
  obtain ⟨hhigh, hlow⟩ := halves_lt byte
  simp only [byteDigits, Digits.ofDigits, List.foldl_cons, List.foldl_nil,
    Digits.value?_digitChar _ hhigh, Digits.value?_digitChar _ hlow, Option.getD_some]
  omega

/-- The digits that are written are the digits of the byte string. -/
theorem areLowerDigits_digits (bytes : Bytes) : AreLowerDigits (digits bytes) bytes := by
  induction bytes with
  | nil => exact .nil
  | cons byte bytes ih =>
    obtain ⟨hhigh, hlow⟩ := halves_lt byte
    refine .cons ⟨?_, ?_⟩ (ofDigits_byteDigits byte) ih
    · exact isLowerDigit_digitChar hhigh
    · exact isLowerDigit_digitChar hlow

/-- Encoding writes the canonical text. -/
theorem isLowerText_encode (bytes : Bytes) : IsLowerText (encode bytes) bytes :=
  ⟨digits bytes, by simp [encode], areLowerDigits_digits bytes⟩

/-- Every character of the digits is a digit in lower case. -/
theorem AreLowerDigits.forall_isLowerDigit {text : List Char} {bytes : Bytes}
    (h : AreLowerDigits text bytes) : ∀ c ∈ text, isLowerDigit c = true := by
  induction h with
  | nil => simp
  | cons lower _ _ ih =>
    intro c hc
    rcases List.mem_cons.mp hc with rfl | hc
    · exact lower.1
    · rcases List.mem_cons.mp hc with rfl | hc
      · exact lower.2
      · exact ih c hc

/-- There are two digits for each byte. -/
theorem AreLowerDigits.length_eq {text : List Char} {bytes : Bytes}
    (h : AreLowerDigits text bytes) : text.length = 2 * bytes.length := by
  induction h with
  | nil => rfl
  | cons _ _ _ ih =>
    simp only [List.length_cons, ih]
    omega

/-- No hex digit is white space. -/
theorem isBlank_of_isLowerDigit {c : Char} (h : isLowerDigit c = true) :
    Text.isBlank c = false := by
  simp only [isLowerDigit, Bool.or_eq_true, Bool.and_eq_true, decide_eq_true_eq, Char.le_def,
    UInt32.le_iff_toNat_le] at h
  apply Text.isBlank_of_code
  change (48 ≤ c.toNat ∧ c.toNat ≤ 57) ∨ (97 ≤ c.toNat ∧ c.toNat ≤ 102) at h
  omega

/-- Digits behind the marker are left as they are by trimming. -/
theorem trim_marked {digits : List Char} (h : ∀ c ∈ digits, isLowerDigit c = true) :
    Text.trim ('0' :: 'x' :: digits) = '0' :: 'x' :: digits := by
  apply Text.trim_of_forall_not_isBlank
  intro c hc
  rcases List.mem_cons.mp hc with rfl | hc
  · decide
  · rcases List.mem_cons.mp hc with rfl | hc
    · decide
    · exact isBlank_of_isLowerDigit (h c hc)

/-! ## Reading back what was written -/

/-- A digit takes one byte of UTF-8, its code. -/
theorem utf8_digitChar {number : Nat} (h : number < 16) :
    String.utf8EncodeChar (Nat.digitChar number) = [UInt8.ofNat (Nat.digitChar number).toNat] := by
  have all : ∀ n, n < 16 →
      String.utf8EncodeChar (Nat.digitChar n) = [UInt8.ofNat (Nat.digitChar n).toNat] := by decide
  exact all number h

/-- The byte of a digit is read as the number that the digit stands for. -/
theorem nibble_digitChar (position : Nat) {number : Nat} (h : number < 16) :
    nibble position (UInt8.ofNat (Nat.digitChar number).toNat) = .ok number := by
  have all : ∀ n, n < 16 →
      Digits.value? (Char.ofNat (UInt8.ofNat (Nat.digitChar n).toNat).toNat) = some n := by decide
  simp only [nibble, all number h]

/-- The digits of a byte take the first two bytes of UTF-8. -/
theorem utf8_digits_cons (byte : UInt8) (bytes : Bytes) :
    utf8 (digits (byte :: bytes)) =
      UInt8.ofNat (Nat.digitChar (byte.toNat / 16)).toNat ::
        UInt8.ofNat (Nat.digitChar (byte.toNat % 16)).toNat :: utf8 (digits bytes) := by
  obtain ⟨hhigh, hlow⟩ := halves_lt byte
  simp [utf8, byteDigits, utf8_digitChar hhigh, utf8_digitChar hlow]

/-- Digits take as many bytes of UTF-8 as there are digits. -/
theorem length_utf8_digits (bytes : Bytes) : (utf8 (digits bytes)).length = 2 * bytes.length := by
  induction bytes with
  | nil => rfl
  | cons byte bytes ih =>
    rw [utf8_digits_cons, List.length_cons, List.length_cons, List.length_cons, ih]
    omega

/-- Pairs of written digits are read as the bytes they were written for. -/
theorem pairs_utf8_digits (position : Nat) (bytes : Bytes) :
    pairs position (utf8 (digits bytes)) = .ok bytes := by
  induction bytes generalizing position with
  | nil => rfl
  | cons byte bytes ih =>
    obtain ⟨hhigh, hlow⟩ := halves_lt byte
    rw [utf8_digits_cons, pairs, nibble_digitChar position hhigh,
      nibble_digitChar (position + 1) hlow, ih (position + 2)]
    show Except.ok (UInt8.ofNat (16 * (byte.toNat / 16) + byte.toNat % 16) :: bytes) = _
    rw [Nat.div_add_mod, UInt8.ofNat_toNat]

/-- An encoded text is left as it is by trimming. -/
theorem trim_encode (bytes : Bytes) :
    Text.trim (encode bytes).toList = '0' :: 'x' :: digits bytes := by
  rw [encode, String.toList_ofList]
  exact trim_marked (areLowerDigits_digits bytes).forall_isLowerDigit

/-- Written digits are read as the bytes they were written for. -/
theorem ofDigits_digits (bytes : Bytes) : ofDigits (digits bytes) = .ok bytes := by
  have heven : (utf8 (digits bytes)).length % 2 ≠ 1 := by
    rw [length_utf8_digits]
    omega
  rw [ofDigits, if_neg heven, pairs_utf8_digits]

/-- **Reading back.** Decoding an encoded byte string gives it back. -/
theorem decode_encode (bytes : Bytes) : decode (encode bytes) = .ok bytes := by
  rw [decode, trim_encode]
  exact ofDigits_digits bytes

/-- A byte string of a fixed length is read where a byte string of that length is. -/
theorem decodeFixed_eq_ok_iff {size : Nat} {text : String} {fixed : FixedBytes size} :
    decodeFixed size text = .ok fixed ↔ decode text = .ok fixed.bytes := by
  rw [decodeFixed, Fallible.bind_eq_ok_iff]
  constructor
  · rintro ⟨bytes, hdecode, h⟩
    split at h
    · cases h
      exact hdecode
    · cases h
  · intro h
    refine ⟨fixed.bytes, h, ?_⟩
    rw [dif_pos fixed.length_eq]
    rfl

/-- A byte string of a fixed length is refused where no byte string is read, for the same cause, and
where one of another length is. -/
theorem decodeFixed_eq_error_iff {size : Nat} {text : String} {cause : HexError} :
    decodeFixed size text = .error cause ↔
      decode text = .error cause ∨
      ∃ bytes, decode text = .ok bytes ∧ bytes.length ≠ size ∧
        cause = .wrongLength size bytes.length := by
  rw [decodeFixed, Fallible.bind_eq_error_iff]
  refine or_congr_right (exists_congr fun bytes => and_congr_right fun _ => ?_)
  by_cases hlength : bytes.length = size
  · rw [dif_pos hlength]
    constructor
    · intro h
      cases h
    · rintro ⟨hother, -⟩
      exact absurd hlength hother
  · rw [dif_neg hlength]
    constructor
    · intro h
      cases h
      exact ⟨hlength, rfl⟩
    · rintro ⟨-, rfl⟩
      rfl

/-- A byte string of a fixed length is read back from its text. -/
theorem decodeFixed_encode {size : Nat} (fixed : FixedBytes size) :
    decodeFixed size (encode fixed.bytes) = .ok fixed :=
  decodeFixed_eq_ok_iff.mpr (decode_encode fixed.bytes)

/-! ## Texts that are read -/

/-- What the value of a byte says about it: it is ASCII, and its lower-case form is the digit for
the value. -/
theorem toLower_of_value? {byte : UInt8} {value : Nat}
    (h : Digits.value? (Char.ofNat byte.toNat) = some value) :
    value < 16 ∧ byte.toNat < 128 ∧ (Char.ofNat byte.toNat).toLower = Nat.digitChar value := by
  have all : ∀ code, code < 256 → ∀ v ∈ Digits.value? (Char.ofNat code),
      v < 16 ∧ code < 128 ∧ (Char.ofNat code).toLower = Nat.digitChar v := by decide +kernel
  exact all byte.toNat byte.toNat_lt_size value h

/-- A byte that is read as a number is the code of a digit for it, in either letter case. -/
theorem toLower_of_nibble {position : Nat} {byte : UInt8} {value : Nat}
    (h : nibble position byte = .ok value) :
    value < 16 ∧ byte.toNat < 128 ∧ (Char.ofNat byte.toNat).toLower = Nat.digitChar value := by
  unfold nibble at h
  split at h
  · next found hfound =>
    cases h
    exact toLower_of_value? hfound
  · cases h

/-- The two digits of a byte that is made of two values. -/
theorem byteDigits_ofNat {high low : Nat} (hhigh : high < 16) (hlow : low < 16) :
    byteDigits (UInt8.ofNat (16 * high + low)) = [Nat.digitChar high, Nat.digitChar low] := by
  have hvalue : (UInt8.ofNat (16 * high + low)).toNat = 16 * high + low := by
    rw [UInt8.toNat_ofNat']
    omega
  have hfirst : (16 * high + low) / 16 = high := by omega
  have hsecond : (16 * high + low) % 16 = low := by omega
  rw [byteDigits, hvalue, hfirst, hsecond]

/-- Pairs that are read are ASCII, and in lower case they are the digits of what was read. -/
theorem toLower_of_pairs {position : Nat} {encoded bytes : Bytes}
    (heven : encoded.length % 2 = 0) (h : pairs position encoded = .ok bytes) :
    (∀ byte ∈ encoded, byte.toNat < 128) ∧
      encoded.map (fun byte => (Char.ofNat byte.toNat).toLower) = digits bytes := by
  fun_induction pairs position encoded generalizing bytes with
  | case1 position high low rest ih =>
    obtain ⟨first, hfirst, h⟩ := Fallible.bind_eq_ok_iff.mp h
    obtain ⟨second, hsecond, h⟩ := Fallible.bind_eq_ok_iff.mp h
    obtain ⟨tail, htail, h⟩ := Fallible.bind_eq_ok_iff.mp h
    cases h
    obtain ⟨hfirst, hhigh, hhighDigit⟩ := toLower_of_nibble hfirst
    obtain ⟨hsecond, hlow, hlowDigit⟩ := toLower_of_nibble hsecond
    have hrest : rest.length % 2 = 0 := by
      simp only [List.length_cons] at heven
      omega
    obtain ⟨hascii, hdigits⟩ := ih hrest htail
    refine ⟨?_, ?_⟩
    · intro byte hbyte
      rcases List.mem_cons.mp hbyte with rfl | hbyte
      · exact hhigh
      · rcases List.mem_cons.mp hbyte with rfl | hbyte
        · exact hlow
        · exact hascii byte hbyte
    · rw [List.map_cons, List.map_cons, hdigits, hhighDigit, hlowDigit, digits_cons,
        byteDigits_ofNat hfirst hsecond]
      rfl
  | case2 encoded position hshort =>
    -- Fewer than two bytes are left, and an even number of them: none.
    cases h
    cases encoded with
    | nil => exact ⟨by simp, rfl⟩
    | cons byte encoded =>
      cases encoded with
      | nil => simp at heven
      | cons other encoded => exact absurd rfl (hshort byte other encoded)

/-- A character whose bytes are ASCII is the character with the code of its one byte. -/
theorem utf8EncodeChar_of_ascii {c : Char}
    (h : ∀ byte ∈ String.utf8EncodeChar c, byte.toNat < 128) :
    ∃ byte : UInt8, String.utf8EncodeChar c = [byte] ∧ Char.ofNat byte.toNat = c := by
  unfold String.utf8EncodeChar at h ⊢
  dsimp only at h ⊢
  split
  · next hone =>
    refine ⟨UInt8.ofNat c.val.toNat, rfl, ?_⟩
    have hcode : (UInt8.ofNat c.val.toNat).toNat = c.toNat := by
      rw [UInt8.toNat_ofNat']
      show c.val.toNat % 256 = c.val.toNat
      omega
    rw [hcode, Char.ofNat_toNat]
  · next hmore =>
    -- A character outside ASCII starts with a byte that is not ASCII.
    rw [if_neg hmore] at h
    exfalso
    split at h
    · have := h _ List.mem_cons_self
      rw [UInt8.toNat_ofNat'] at this
      omega
    · split at h
      · have := h _ List.mem_cons_self
        rw [UInt8.toNat_ofNat'] at this
        omega
      · have := h _ List.mem_cons_self
        rw [UInt8.toNat_ofNat'] at this
        omega

/-- A text whose bytes are ASCII is spelled by them, one character for each. -/
theorem map_utf8_of_ascii {text : List Char} (h : ∀ byte ∈ utf8 text, byte.toNat < 128) :
    (utf8 text).map (fun byte => Char.ofNat byte.toNat) = text := by
  induction text with
  | nil => rfl
  | cons c text ih =>
    have hhead : ∀ byte ∈ String.utf8EncodeChar c, byte.toNat < 128 := by
      intro byte hbyte
      exact h byte (by simp [utf8, hbyte])
    have htail : ∀ byte ∈ utf8 text, byte.toNat < 128 := by
      intro byte hbyte
      exact h byte (List.mem_append_right _ hbyte)
    obtain ⟨byte, hbyte, hc⟩ := utf8EncodeChar_of_ascii hhead
    have hsplit : utf8 (c :: text) = String.utf8EncodeChar c ++ utf8 text := rfl
    rw [hsplit, hbyte, List.map_append, ih htail, List.map_singleton, hc]
    rfl

/-- Digits that are read are, in lower case, the digits of what was read. -/
theorem toLower_of_ofDigits {text : List Char} {bytes : Bytes} (h : ofDigits text = .ok bytes) :
    text.map Char.toLower = digits bytes := by
  unfold ofDigits at h
  dsimp only at h
  split at h
  · cases h
  · next heven =>
    obtain ⟨hascii, hdigits⟩ := toLower_of_pairs (by omega) h
    calc text.map Char.toLower
        = ((utf8 text).map fun byte => Char.ofNat byte.toNat).map Char.toLower := by
          rw [map_utf8_of_ascii hascii]
      _ = (utf8 text).map fun byte => (Char.ofNat byte.toNat).toLower := List.map_map
      _ = digits bytes := hdigits

/-- **Reading and writing again.** The canonical text of what a text denotes is the text itself,
trimmed and in lower case. -/
theorem encode_of_decode {text : String} {bytes : Bytes} (h : decode text = .ok bytes) :
    encode bytes = String.ofList ((Text.trim text.toList).map Char.toLower) := by
  unfold decode at h
  split at h
  · next digits hmarker =>
    have hdigits := toLower_of_ofDigits h
    unfold afterMarker? at hmarker
    split at hmarker
    · next rest hrest =>
      cases hmarker
      rw [hrest, encode, ← hdigits]
      rfl
    · next rest hrest =>
      cases hmarker
      rw [hrest, encode, ← hdigits]
      rfl
    · cases hmarker
  · cases h

/-- Only ASCII characters have a lower-case form in ASCII. -/
theorem ascii_of_toLower {c : Char} (h : c.toLower.toNat < 128) : c.toNat < 128 := by
  unfold Char.toLower at h
  split at h
  · next hupper =>
    have hcode : c.toNat ≤ 90 := hupper.2
    omega
  · exact h

/-- A character whose lower-case form is a digit is a digit of the same value, and takes one byte.
-/
theorem digit_of_toLower {c : Char} {number : Nat} (hnumber : number < 16)
    (h : c.toLower = Nat.digitChar number) :
    String.utf8EncodeChar c = [UInt8.ofNat c.toNat] ∧
      ∀ position, nibble position (UInt8.ofNat c.toNat) = .ok number := by
  have hdigit : (Nat.digitChar number).toNat < 128 := by
    have all : ∀ n, n < 16 → (Nat.digitChar n).toNat < 128 := by decide
    exact all number hnumber
  have hcode : c.toNat < 128 := ascii_of_toLower (h ▸ hdigit)
  have all : ∀ code, code < 128 → ∀ n, n < 16 → (Char.ofNat code).toLower = Nat.digitChar n →
      String.utf8EncodeChar (Char.ofNat code) = [UInt8.ofNat code] ∧
        Digits.value? (Char.ofNat (UInt8.ofNat code).toNat) = some n := by decide +kernel
  have hc := all c.toNat hcode number hnumber
  rw [Char.ofNat_toNat] at hc
  obtain ⟨hbyte, hvalue⟩ := hc h
  refine ⟨hbyte, fun position => ?_⟩
  simp only [nibble, hvalue]

/-- Digits in any letter case are read as the bytes that the digits in lower case are written for.
-/
theorem pairs_of_toLower {text : List Char} {bytes : Bytes}
    (h : text.map Char.toLower = digits bytes) :
    (utf8 text).length = 2 * bytes.length ∧
      ∀ position, pairs position (utf8 text) = .ok bytes := by
  induction bytes generalizing text with
  | nil =>
    obtain rfl := List.map_eq_nil_iff.mp h
    exact ⟨rfl, fun _ => rfl⟩
  | cons byte bytes ih =>
    obtain ⟨hhigh, hlow⟩ := halves_lt byte
    obtain ⟨high, others, rfl, hfirst, h⟩ := List.map_eq_cons_iff.mp h
    obtain ⟨low, rest, rfl, hsecond, hrest⟩ := List.map_eq_cons_iff.mp h
    obtain ⟨hfirstByte, hfirst⟩ := digit_of_toLower hhigh hfirst
    obtain ⟨hsecondByte, hsecond⟩ := digit_of_toLower hlow hsecond
    obtain ⟨hlength, hpairs⟩ := ih hrest
    have hutf8 : utf8 (high :: low :: rest) =
        UInt8.ofNat high.toNat :: UInt8.ofNat low.toNat :: utf8 rest := by
      simp [utf8, hfirstByte, hsecondByte]
    rw [hutf8]
    constructor
    · rw [List.length_cons, List.length_cons, List.length_cons, hlength]
      omega
    · intro position
      rw [pairs, hfirst, hsecond, hpairs]
      show Except.ok (UInt8.ofNat (16 * (byte.toNat / 16) + byte.toNat % 16) :: bytes) = _
      rw [Nat.div_add_mod, UInt8.ofNat_toNat]

/-- Digits are read as the byte string that they are the digits of, in any letter case. -/
theorem ofDigits_eq_ok_iff {text : List Char} {bytes : Bytes} :
    ofDigits text = .ok bytes ↔ text.map Char.toLower = digits bytes := by
  constructor
  · exact toLower_of_ofDigits
  · intro h
    obtain ⟨hlength, hpairs⟩ := pairs_of_toLower h
    have heven : (utf8 text).length % 2 ≠ 1 := by omega
    rw [ofDigits, if_neg heven, hpairs]

/-- The marker in any letter case is a marker. -/
theorem afterMarker?_of_toLower {text digits : List Char}
    (h : text.map Char.toLower = '0' :: 'x' :: digits) :
    ∃ rest, afterMarker? text = some rest ∧ rest.map Char.toLower = digits := by
  have all : ∀ code, code < 128 →
      ((Char.ofNat code).toLower = '0' → Char.ofNat code = '0') ∧
        ((Char.ofNat code).toLower = 'x' → Char.ofNat code = 'x' ∨ Char.ofNat code = 'X') := by
    decide +kernel
  obtain ⟨zero, others, rfl, hzero, h⟩ := List.map_eq_cons_iff.mp h
  obtain ⟨mark, rest, rfl, hmark, hrest⟩ := List.map_eq_cons_iff.mp h
  have hzero' := (all zero.toNat (ascii_of_toLower (by rw [hzero]; decide))).1
  have hmark' := (all mark.toNat (ascii_of_toLower (by rw [hmark]; decide))).2
  rw [Char.ofNat_toNat] at hzero' hmark'
  obtain rfl := hzero' hzero
  rcases hmark' hmark with rfl | rfl
  · exact ⟨rest, rfl, hrest⟩
  · exact ⟨rest, rfl, hrest⟩

/-- **What a text denotes.** A text is decoded to the bytes whose canonical text it is, trimmed and
in lower case. -/
theorem decode_eq_ok_iff {text : String} {bytes : Bytes} :
    decode text = .ok bytes ↔
      (Text.trim text.toList).map Char.toLower = '0' :: 'x' :: digits bytes := by
  constructor
  · intro h
    have hencode := encode_of_decode h
    rw [encode, String.ofList_inj] at hencode
    exact hencode.symm
  · intro h
    obtain ⟨rest, hmarker, hrest⟩ := afterMarker?_of_toLower h
    rw [decode, hmarker]
    exact ofDigits_eq_ok_iff.mpr hrest

/-- Letter case and white space around a text do not change the bytes that it is decoded to. -/
theorem decode_of_same {first second : String} (h : Text.Same first second) {bytes : Bytes}
    (hdecode : decode first = .ok bytes) : decode second = .ok bytes := by
  rw [decode_eq_ok_iff] at hdecode ⊢
  exact h.symm.trans hdecode

end Hex

/-- Letter case and white space around a text do not change the address that it denotes. -/
theorem Address.ofText_of_same {first second : String} (h : Text.Same first second)
    {address : Address} (hfirst : Address.ofText first = .ok address) :
    Address.ofText second = .ok address :=
  Hex.decodeFixed_eq_ok_iff.mpr (Hex.decode_of_same h (Hex.decodeFixed_eq_ok_iff.mp hfirst))

end TxGateway
