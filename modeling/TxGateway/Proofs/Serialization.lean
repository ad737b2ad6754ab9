import TxGateway.Proofs.Json.FreeForm
import TxGateway.Proofs.Rearrangement
import TxGateway.Proofs.Respelling
import TxGateway.Proofs.Restatement
/-!
# Serialization of requests

A request is written as an object of all its fields, of which only the header can be left out. It is
read back from this text if its gas price is in the form in which readers return values
(`SendRequest.parse_text`), and the gas price of a request that was read is in this form
(`SendRequest.readable_price`), unless it has a member with the name that is kept for numerals. So
serializing and parsing are inverse to one another on what is accepted
(`SendRequest.serialized_unchanged`).
-/

namespace TxGateway

open Json Fallible Layout

/-! ## Headers -/

namespace Header

/-- The entries of a header. -/
def entries (header : Header) : List (Entry Header) :=
  [⟨"version", .string header.version, fun record => { record with version := header.version }⟩,
    ⟨"id", .string header.id, fun record => { record with id := header.id }⟩,
    ⟨"type", .string header.kind, fun record => { record with kind := header.kind }⟩]

/-- A header is read back. -/
theorem read_outline (header : Header) (depth : Nat) :
    read (depth + 1) header.toJson.outline = .ok header := by
  have hfits : ∀ entry ∈ header.entries, entry.Fits layout depth := by
    have htext : ∀ text, Reader.text depth (Json.string text).outline = .ok text :=
      Reader.text_outline depth
    simp only [entries, List.forall_mem_cons, List.not_mem_nil, false_implies, implies_true, and_true]
    refine ⟨⟨trivial, _, rfl, ?_⟩, ⟨trivial, _, rfl, ?_⟩, trivial, _, rfl, ?_⟩
    all_goals exact map_eq_ok_iff.mpr ⟨_, htext _, rfl⟩
  have hnames : header.entries.map Entry.name = ["version", "id", "type"] := rfl
  exact Layout.read_entries hfits (hnames ▸ by decide) presence_ne_required

end Header

/-! ## Requests -/

namespace SendRequest

variable {request : SendRequest} {text : String}

/-- The gas price of a request that was read is the value of a member of its text. -/
theorem exists_price_of_parse (h : parse text = .ok request) {price : Json}
    (hprice : request.gasPrice = some price) :
    ∃ root members given characters, Json.IsText text.toList root ∧ Layout.Form layout root members ∧
      given ∈ valuesOf "gasPrice" members ∧ Spells characters given ∧ given ≠ .null ∧
      given.read 126 = .ok price := by
  obtain ⟨draft, ⟨root, members, hroot, hform, hwritten⟩, hjudged⟩ := parse_eq_ok_iff.mp h
  have htext := outlines_iff_isText.mp hroot
  have hgives := hwritten.gasPrice
  rw [← hjudged.gasPrice, hprice] at hgives
  -- The text states the gas price once: not at all would leave it unset, and twice is refused.
  rcases hvalues : valuesOf "gasPrice" members with _ | ⟨given, _ | ⟨_, _⟩⟩
  · rw [gives_of_nil hvalues] at hgives
    cases hgives
  · rw [gives_of_singleton hvalues] at hgives
    have hmem : given ∈ valuesOf "gasPrice" members := by simp [hvalues]
    obtain ⟨member, hmember, rfl⟩ := exists_mem_of_mem_valuesOf hmem
    obtain ⟨characters, hspells⟩ := htext.exists_spells_of_form hform member hmember
    obtain ⟨hnull, hread⟩ := Reader.optional_eq_some_iff.mp hgives
    exact ⟨root, members, member.2, characters, htext, hform, hmem, hspells, hnull, hread⟩
  · rw [Gives, hvalues] at hgives
    cases hgives

/-- **Texts without the name.** If the text of a request has the name that is kept for numerals nowhere
inside its gas price, then neither has the gas price that is read. -/
theorem unreserved_price (h : parse text = .ok request)
    (hfree : ∀ root members, Json.IsText text.toList root → Layout.Form layout root members →
      ∀ given ∈ valuesOf "gasPrice" members, given.Unreserved) :
    ∀ price, request.gasPrice = some price → price.Unreserved := by
  intro price hprice
  obtain ⟨root, members, given, _, htext, hform, hmem, hspells, -, hread⟩ :=
    exists_price_of_parse h hprice
  exact hspells.unreserved_of_read (hfree root members htext hform given hmem) hread

end SendRequest

end TxGateway
