import TxGateway.Hex
import TxGateway.Json.Reader
import TxGateway.Proofs.Fallible
import TxGateway.Proofs.Json.Members
/-!
# The order of names

The members of an object that is read stand in the order of their names, and the order of names is
that of their bytes in UTF-8.

* `Hex.utf8_lt_utf8` : texts are ordered by characters as their bytes are;
* `Json.pairwise_bytes_of_read` : the names of an object that is read ascend by their bytes.
-/

namespace TxGateway

namespace Hex

/-! ## Bytes of characters -/

/-- The bytes of a number: one for each of its places, which have six bits but for the highest. The
first byte tells how many there are. -/
inductive Encodes (number : Nat) : List UInt8 → Prop
  | one (value : number < 0x80) : Encodes number [.ofNat number]
  | two {a b : Nat} (value : number = a * 64 + b) (high : a < 32) (low : b < 64)
      (long : 0x80 ≤ number) : Encodes number [.ofNat (a + 192), .ofNat (b + 128)]
  | three {a b c : Nat} (value : number = a * 4096 + b * 64 + c) (high : a < 16) (middle : b < 64)
      (low : c < 64) (long : 0x800 ≤ number) :
      Encodes number [.ofNat (a + 224), .ofNat (b + 128), .ofNat (c + 128)]
  | four {a b c d : Nat} (value : number = a * 262144 + b * 4096 + c * 64 + d) (high : a < 8)
      (upper : b < 64) (middle : c < 64) (low : d < 64) (long : 0x10000 ≤ number) :
      Encodes number [.ofNat (a + 240), .ofNat (b + 128), .ofNat (c + 128), .ofNat (d + 128)]

/-- The bytes of a character are those of its code. -/
theorem encodes_utf8EncodeChar (c : Char) : Encodes c.toNat (String.utf8EncodeChar c) := by
  have hvalid : c.toNat < 0x110000 := by
    rcases c.valid with hlow | ⟨-, hhigh⟩
    · have hcode : c.toNat < 0xd800 := hlow
      omega
    · exact hhigh
  unfold String.utf8EncodeChar
  dsimp only
  rw [show c.val.toNat = c.toNat from rfl]
  split
  · exact .one (by omega)
  split
  · exact .two (by omega) (by omega) (by omega) (by omega)
  split
  · exact .three (by omega) (by omega) (by omega) (by omega) (by omega)
  · exact .four (by omega) (by omega) (by omega) (by omega) (by omega) (by omega)

/-- The bytes of a number, whatever follows them, come before the bytes of a larger number. -/
theorem Encodes.append_lt {m n : Nat} {first second : List UInt8} (hfirst : Encodes m first)
    (hsecond : Encodes n second) (h : m < n) (others rest : List UInt8) :
    first ++ others < second ++ rest := by
  -- Fewer bytes start with a smaller one; among as many, the first that differs decides.
  cases hfirst <;> cases hsecond <;>
  · simp (disch := omega) only [List.cons_append, List.nil_append, List.cons_lt_cons_iff,
      UInt8.lt_iff_toNat_lt, ← UInt8.toNat_inj, UInt8.toNat_ofNat', Nat.mod_eq_of_lt]
    omega

/-- There are bytes for every number. -/
theorem Encodes.nil_lt {number : Nat} {bytes : List UInt8} (h : Encodes number bytes)
    (others : List UInt8) : [] < bytes ++ others := by
  cases h <;> exact List.nil_lt_cons _ _

/-- The bytes of a character, whatever follows them, come before the bytes of a later character. -/
theorem utf8EncodeChar_append_lt {c d : Char} (h : c < d) (first second : List UInt8) :
    String.utf8EncodeChar c ++ first < String.utf8EncodeChar d ++ second :=
  (encodes_utf8EncodeChar c).append_lt (encodes_utf8EncodeChar d) h first second

/-- **Byte order.** Texts are ordered by their characters as their bytes are. -/
theorem utf8_lt_utf8 {first second : List Char} (h : first < second) : utf8 first < utf8 second := by
  have hcons : ∀ c text, utf8 (c :: text) = String.utf8EncodeChar c ++ utf8 text :=
    fun _ _ => rfl
  induction first generalizing second with
  | nil =>
    cases second with
    | nil => cases h
    | cons d second => exact (encodes_utf8EncodeChar d).nil_lt _
  | cons c first ih =>
    cases second with
    | nil => cases h
    | cons d second =>
      rw [hcons, hcons]
      rcases List.cons_lt_cons_iff.mp h with hlt | ⟨rfl, hrest⟩
      · exact utf8EncodeChar_append_lt hlt _ _
      · exact List.append_left_lt (ih hrest)

end Hex

namespace Json

open Fallible

/-! ## Objects that are read -/

/-- Further members are read into the order of those read before. -/
theorem pairwise_of_readMembers {depth : Nat} {members : List Member}
    {before after : List (String × Json)} (hbefore : before.Pairwise Precedes)
    (h : readMembers depth members before = .ok after) : after.Pairwise Precedes := by
  induction members generalizing before with
  | nil =>
    rw [readMembers] at h
    cases h
    exact hbefore
  | cons member members ih =>
    rw [readMembers] at h
    obtain ⟨name, -, h⟩ := bind_eq_ok_iff.mp h
    obtain ⟨value, -, h⟩ := bind_eq_ok_iff.mp h
    exact ih (pairwise_insert hbefore) h

/-- A numeral that is written as an object is read as a number. -/
theorem readNumeral_ne_object {outline : Outline} (members : List (String × Json)) :
    readNumeral outline ≠ .ok (.object members) := by
  intro h
  unfold readNumeral at h
  split at h
  · obtain ⟨literal, -, h⟩ := bind_eq_ok_iff.mp h
    split at h <;> cases h
  · obtain ⟨found, -, h⟩ := bind_eq_ok_iff.mp h
    cases h

/-- The members of an object that is read are in order. -/
theorem pairwise_of_read {depth : Nat} {outline : Outline} {members : List (String × Json)}
    (h : outline.read depth = .ok (.object members)) : members.Pairwise Precedes := by
  unfold Outline.read at h
  split at h
  · cases h
  · cases h
  · cases h
  · obtain ⟨text, -, htext⟩ := map_eq_ok_iff.mp h
    cases htext
  · cases h
  · cases h
  · obtain ⟨values, -, h⟩ := bind_eq_ok_iff.mp h
    obtain ⟨_, -, h⟩ := bind_eq_ok_iff.mp h
    cases h
  · split at h
    · obtain ⟨_, -, h⟩ := bind_eq_ok_iff.mp h
      cases h
      exact List.Pairwise.nil
    · obtain ⟨first, -, h⟩ := bind_eq_ok_iff.mp h
      -- The first name decides whether the object is a numeral.
      split at h
      · obtain ⟨numeral, hnumeral, h⟩ := bind_eq_ok_iff.mp h
        obtain ⟨_, -, h⟩ := bind_eq_ok_iff.mp h
        cases h
        exact absurd hnumeral (readNumeral_ne_object members)
      · obtain ⟨head, -, h⟩ := bind_eq_ok_iff.mp h
        obtain ⟨values, hvalues, h⟩ := bind_eq_ok_iff.mp h
        obtain ⟨_, -, h⟩ := bind_eq_ok_iff.mp h
        cases h
        exact pairwise_of_readMembers (List.pairwise_singleton _ _) hvalues
  · cases h

/-- **Names of an object.** The names of an object that is read ascend by their bytes. -/
theorem pairwise_bytes_of_read {depth : Nat} {outline : Outline} {members : List (String × Json)}
    (h : outline.read depth = .ok (.object members)) :
    (members.map Prod.fst).Pairwise fun first second =>
      Hex.utf8 first.toList < Hex.utf8 second.toList := by
  rw [List.pairwise_map]
  refine (pairwise_of_read h).imp fun hprecedes => ?_
  exact Hex.utf8_lt_utf8 (String.lt_iff_toList_lt.mp hprecedes)

end Json

end TxGateway
