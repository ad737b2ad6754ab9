import TxGateway.Proofs.HexGrammar
import TxGateway.Proofs.Json.Readback
import TxGateway.Proofs.Submission
/-!
# The hash that is reported

A submission reports the hash that the node returned, or none. `TxHash.States` says which results
state a hash; two readers meet it, the one for results and the one for receipts, and they are apart
from one another: results may have white space around the hash and need its marker, receipts the
other way round.

* `TxHash.ofResult_eq_ok_iff` : a result is taken for the hash that it states;
* `TxHash.ofText_eq_ok_iff` : a receipt holds the hash that its digits spell;
* `TxHash.ofResult_of_ofText` : what receipts hold with a marker is a result of the same hash;
* `Receipt.parse_eq_ok` : a receipt is read back from every text that spells it;
* `TxHash.reported_unchanged` : all of it together, up to the submission and its failures.
-/

namespace TxGateway

open Hex (Marked Spell)

namespace Hex

/-- Hex digits stand for themselves in a JSON string. -/
theorem escape_of_isLowerDigit {c : Char} (h : isLowerDigit c = true) : Json.escape c = [c] := by
  have all : ∀ code, code < 103 → isLowerDigit (Char.ofNat code) = true →
      Json.escape (Char.ofNat code) = [Char.ofNat code] := by decide
  have hcode : c.toNat < 103 := by
    simp only [isLowerDigit, Bool.or_eq_true, Bool.and_eq_true, decide_eq_true_eq] at h
    rcases h with ⟨-, hhigh⟩ | ⟨-, hhigh⟩
    · have hnine : c.toNat ≤ 57 := hhigh
      omega
    · have hf : c.toNat ≤ 102 := hhigh
      omega
  have hc := all c.toNat hcode
  rw [Char.ofNat_toNat] at hc
  exact hc h

end Hex

namespace TxHash

/-! ## Results -/

/-- A value states a hash: it is a string of the marker and sixty-four hex digits that spell the
hash, with white space around them at most. -/
def States (value : Json) (hash : TxHash) : Prop :=
  ∃ text core digits, value = .string text ∧ Text.IsCore text.toList core ∧ Marked core digits ∧
    digits.length = 64 ∧ Spell digits hash.bytes

/-- A string states the hash whose bytes it is decoded to. -/
theorem states_string_iff {text : String} {hash : TxHash} :
    States (.string text) hash ↔ Hex.decode text = .ok hash.bytes := by
  constructor
  · rintro ⟨_, core, digits, h, hcore, hmarked, -, hspell⟩
    cases h
    exact (Hex.decode_eq_iff_reads hcore).mpr (.spelled hmarked hspell)
  · intro h
    have hcore := Text.isCore_trim text.toList
    cases (Hex.decode_eq_iff_reads hcore).mp h with
    | spelled marked spell =>
      have hlength := spell.length_eq
      rw [hash.length_eq] at hlength
      exact ⟨text, _, _, rfl, hcore, marked, hlength, spell⟩

/-- **Results.** A result is taken for the hash that it states. -/
theorem ofResult_eq_ok_iff {value : Json} {hash : TxHash} :
    ofResult value = .ok hash ↔ States value hash := by
  cases value with
  | string text =>
    rw [states_string_iff, ← Hex.decodeFixed_eq_ok_iff]
    exact Fallible.mapError_eq_ok_iff
  | null | bool | number | array | object =>
    constructor
    · intro h
      cases h
    · rintro ⟨_, _, _, h, -⟩
      cases h

/-- A string that states no hash is refused, and named as it was received. -/
theorem ofResult_string_eq_error_iff {text : String} {error : ConnectorError} :
    ofResult (.string text) = .error error ↔
      (∀ hash, ¬ States (.string text) hash) ∧ error = .invalidHash text := by
  constructor
  · intro h
    refine ⟨?_, ?_⟩
    · intro hash hstates
      rw [ofResult_eq_ok_iff.mpr hstates] at h
      cases h
    · obtain ⟨cause, -, rfl⟩ := Fallible.mapError_eq_error_iff.mp h
      rfl
  · rintro ⟨hnone, rfl⟩
    cases hread : Hex.decodeFixed 32 text with
    | ok hash =>
      have hdecode := Hex.decodeFixed_eq_ok_iff.mp hread
      exact absurd (states_string_iff.mpr hdecode) (hnone hash)
    | error cause => exact Fallible.mapError_eq_error_iff.mpr ⟨cause, hread, rfl⟩

/-- A value of any other kind is refused, and named by its compact text. -/
theorem ofResult_of_not_string {value : Json} (h : ∀ text, value ≠ .string text) :
    ofResult value = .error (.invalidHash value.compact) := by
  cases value with
  | string text => exact absurd rfl (h text)
  | null | bool | number | array | object => rfl

/-- A list with a text in it is no hash. -/
example : ofResult (.array [.string "0x00"]) = .error (.invalidHash "[\"0x00\"]") := by decide

/-! ## Receipts -/

/-- **Receipts.** A text in a receipt is read as the hash that its digits spell. -/
theorem ofText_eq_ok_iff {text : String} {hash : TxHash} :
    ofText text = .ok hash ↔ Spell (digits text.toList) hash.bytes := by
  constructor
  · intro h
    unfold ofText at h
    dsimp only at h
    split at h
    · cases h
    · next heven =>
      split at h
      · cases h
      · obtain ⟨bytes, hpairs, h⟩ := Fallible.bind_eq_ok_iff.mp h
        split at h
        · cases h
          refine Hex.ofDigits_eq_ok_iff_spell.mp ?_
          rw [Hex.ofDigits, if_neg heven, hpairs]
        · cases h
  · intro h
    obtain ⟨hlength, hpairs⟩ := Hex.pairs_of_toLower (Hex.spell_iff_toLower.mp h)
    rw [hash.length_eq] at hlength
    unfold ofText
    dsimp only
    rw [if_neg (by omega), if_neg (by omega), hpairs]
    show (if h : hash.bytes.length = 32 then _ else _ : Except HexError TxHash) = _
    rw [dif_pos hash.length_eq]
    rfl

/-- The text of a hash is read as the hash where receipts are read. -/
theorem ofText_text (hash : TxHash) : ofText hash.text = .ok hash := by
  rw [ofText_eq_ok_iff, text, Hex.encode, String.toList_ofList]
  exact Hex.spell_digits hash.bytes

/-- What a receipt holds with a marker is, as a result, the same hash. -/
theorem ofResult_of_ofText {text : String} {hash : TxHash} {marked : List Char}
    (hmarked : text.toList = '0' :: 'x' :: marked) (h : ofText text = .ok hash) :
    ofResult (.string text) = .ok hash := by
  rw [ofText_eq_ok_iff, hmarked] at h
  rw [ofResult_eq_ok_iff, states_string_iff]
  exact (Hex.decode_eq_iff_reads (Hex.isCore_of_spell (Or.inl hmarked) h)).mpr
    (.spelled (Or.inl hmarked) h)

/-- Where receipts are read, a string is read as the hash that its text denotes. -/
theorem read_outline_string (depth : Nat) (text : String) :
    read depth (Json.string text).outline =
      (ofText text).mapError fun cause => .mismatch (.refused cause.plainMessage) := by
  have hdecode := Json.Spelling.decode_ofText text
  show read depth (.string (.ofText text)) = _
  cases depth with
  | zero => simp only [read, hdecode]; rfl
  | succ depth => simp only [read, hdecode]; rfl

/-- The text of a hash stands for itself in a JSON string. -/
theorem flatMap_escape_text (hash : TxHash) :
    hash.text.toList.flatMap Json.escape = hash.text.toList := by
  have hdigits := (Hex.areLowerDigits_digits hash.bytes).forall_isLowerDigit
  have hescape : (Hex.digits hash.bytes).flatMap Json.escape = Hex.digits hash.bytes := by
    rw [List.flatMap_congr fun c hc => Hex.escape_of_isLowerDigit (hdigits c hc)]
    exact List.flatMap_singleton' _
  rw [TxHash.text, Hex.encode, String.toList_ofList, List.flatMap_cons, List.flatMap_cons, hescape]
  rfl

end TxHash

namespace Receipt

open Json

/-- The one member of a receipt, as it changes the record that is read. -/
def entry (receipt : Receipt) : Layout.Entry Receipt :=
  ⟨"transactionHash", .string receipt.hash.text, fun _ => receipt⟩

/-- The member of a receipt fits the form of receipts. -/
theorem fits_entry (receipt : Receipt) (depth : Nat) : receipt.entry.Fits layout depth := by
  refine ⟨trivial, _, rfl, ?_⟩
  show (TxHash.read depth (Json.string receipt.hash.text).outline).map _ = _
  rw [TxHash.read_outline_string, TxHash.ofText_text]
  rfl

/-- A receipt is read back from its outline. -/
theorem read_outline (receipt : Receipt) (depth : Nat) :
    read (depth + 1) receipt.toJson.outline = .ok receipt := by
  have hfits : ∀ entry ∈ [receipt.entry], entry.Fits layout depth := by
    intro entry hentry
    rw [List.mem_singleton.mp hentry]
    exact receipt.fits_entry depth
  have hmembers := layout.readMembers_entries depth hfits (by simp) []
    (fun _ _ => List.not_mem_nil) layout.blank
  exact Layout.readObject_of_readMembers hmembers rfl

/-- **Reading back.** A receipt is read back from every text that spells it. -/
theorem parse_eq_ok {receipt : Receipt} {text : String}
    (h : Json.IsText text.toList receipt.toJson.outline) : read.parse text = .ok receipt := by
  rw [Reader.parse_of_isText read h]
  exact receipt.read_outline 126

/-- The compact text of a receipt holds the text of the hash. -/
theorem compact_toJson (receipt : Receipt) :
    receipt.toJson.compact = "\x7b\"transactionHash\":\"" ++ receipt.hash.text ++ "\"\x7d" := by
  rw [← String.toList_inj, compact, String.toList_ofList]
  simp only [toJson, print, printMembers, printString, TxHash.flatMap_escape_text,
    String.toList_append]
  simp [escape]

end Receipt

/-! ## What is reported -/

/-- **The hash that is reported.** A result is taken for the hash that it states; a string that
states none is named in the failure as it was received, and any other value by its compact text. The
failure has no reason and a code of its own. So a submission reports the hash that the node's result
in time states, and no other. A receipt is written with the marker and the digits of its hash in
lower case; it is read back from its compact text, and from any text with white space between the
tokens of that one, as the receipt of the same hash, whose text as a result states that hash once
more. -/
theorem TxHash.reported_unchanged :
    (∀ value hash, ofResult value = .ok hash ↔ States value hash) ∧
    (∀ text error, ofResult (.string text) = .error error ↔
      (∀ hash, ¬ States (.string text) hash) ∧ error = .invalidHash text) ∧
    (∀ value : Json, (∀ text, value ≠ .string text) →
      ofResult value = .error (.invalidHash value.compact)) ∧
    (∀ value error, ofResult value = .error error →
      error.body.toJson = .object [("reason", .string ""), ("error", .string error.message),
        ("code", .string "FF23048")]) ∧
    (∀ (connector : Connector) node request hash,
      (connector.submit node request).outcome = .ok ⟨hash⟩ ↔
        (∃ submission, request.prepare = .ok submission) ∧
        ∃ value, node.RepliesWithin connector.deadline (.result value) ∧ States value hash) ∧
    (∀ hash : TxHash, Hex.IsLowerText hash.text hash.bytes ∧
      (Receipt.toJson ⟨hash⟩).compact =
        "\x7b\"transactionHash\":\"" ++ hash.text ++ "\"\x7d" ∧
      Receipt.read.parse (Receipt.toJson ⟨hash⟩).compact = .ok ⟨hash⟩ ∧
      (∀ text, Json.IsText text.toList (Receipt.toJson ⟨hash⟩).outline →
        Receipt.read.parse text = .ok ⟨hash⟩) ∧
      ofResult (.string hash.text) = .ok hash) := by
  refine ⟨fun _ _ => ofResult_eq_ok_iff, fun _ _ => ofResult_string_eq_error_iff,
    fun _ => ofResult_of_not_string, ?_, ?_, ?_⟩
  · intro value error h
    obtain ⟨answer, rfl⟩ := exists_of_ofResult_eq_error h
    rfl
  · intro connector node request hash
    simp only [← ofResult_eq_ok_iff]
    cases hprepare : request.prepare with
    | error cause =>
      rw [Connector.submit_of_error connector node hprepare]
      constructor
      · intro h
        cases h
      · rintro ⟨⟨_, h⟩, -⟩
        cases h
    | ok submission =>
      rw [Connector.outcome_submit_eq_iff hprepare, Connector.ends_receipt_iff]
      constructor
      · exact fun h => ⟨⟨submission, rfl⟩, h⟩
      · exact And.right
  · intro hash
    have hmarked : hash.text.toList = '0' :: 'x' :: Hex.digits hash.bytes := by
      rw [text, Hex.encode, String.toList_ofList]
    exact ⟨Hex.isLowerText_encode hash.bytes, Receipt.compact_toJson ⟨hash⟩,
      Receipt.parse_eq_ok (Json.isText_compact ⟨trivial, trivial⟩), fun _ => Receipt.parse_eq_ok,
      ofResult_of_ofText hmarked (ofText_text hash)⟩

end TxGateway
