import TxGateway.Rpc.Params
import TxGateway.Proofs.Json.Depth
import TxGateway.Proofs.Json.Fields
/-!
# What the parameters of a submission yield

`Yields` says which submission request parameters yield: the one that the first item of an array
states, or the one that the only member `request` of an object states. `readParams` finds it
(`readParams_eq_ok_iff`). A value that stands alone in an array is read as the same value under the
name `request` is, failures included (`readParams_named_eq_positional`).
-/

namespace TxGateway

open Json Fallible

/-- Headers are read steadily. -/
theorem Header.steady_read : Header.read.Steady := by
  refine Layout.steady ?_
  intro field hfield
  simp only [Header.layout, List.mem_cons, List.not_mem_nil, or_false] at hfield
  rcases hfield with rfl | rfl | rfl
  all_goals exact Field.steady_of _ _ _ Reader.steady_text

/-- Submission requests are read steadily. -/
theorem SendRequest.steady_read : SendRequest.read.Steady := by
  have htext := Reader.steady_text.optional
  have hquantity := (Reader.steady_value.judged quantityRule).optional
  refine Layout.steady ?_
  intro field hfield
  simp only [SendRequest.layout, List.mem_cons, List.not_mem_nil, or_false] at hfield
  rcases hfield with rfl | rfl | rfl | rfl | rfl | rfl | rfl | rfl | rfl
  · exact Field.steady_of _ _ _ Header.steady_read.optional
  · exact Field.steady_of _ _ _ htext
  · exact Field.steady_of _ _ _ htext
  · exact Field.steady_of _ _ _ (Reader.steady_value.judged gasRule).optional
  · exact Field.steady_of _ _ _ hquantity
  · exact Field.steady_of _ _ _ hquantity
  · exact Field.steady_of _ _ _ htext
  · exact Field.steady_of _ _ _ Reader.steady_value.optional
  · exact Field.steady_of _ _ _ Reader.steady_flag

namespace Rpc

/-! ## A value alone -/

/-- A value that stands alone in an array is read as a request. -/
theorem readParams_positional (blank : Bool) (root : Outline) :
    readParams (some (.array blank [root] .closed)) =
      (SendRequest.read maxDepth root).mapError .unread := by
  cases blank <;> rfl

/-- The one field of parameters that are given by name. -/
theorem field?_namedLayout :
    namedLayout.field? "request" =
      some (.of "request" .required SendRequest.read fun request _ => request) := rfl

/-- A value under the name `request` is read as a request, one container further in. -/
theorem readParams_named (root : Outline) :
    readParams (some (.object [(.ofText "request", root)] .closed)) =
      (SendRequest.read 126 root).mapError .unread := by
  have hdecode := Spelling.decode_ofText "request"
  show (namedLayout.readObject 126 _ .closed).mapError ParamsError.unread = _
  cases hread : SendRequest.read 126 root with
  | error cause =>
    simp [Layout.readObject, Layout.readMembers, hdecode, field?_namedLayout, Field.of, hread,
      faulty, Except.mapError, Except.map, bind, Except.bind]
  | ok request =>
    have hmember : (Field.of "request" .required SendRequest.read
        fun request _ => request : Json.Field SendRequest).read 126 root = .ok fun _ => request := by
      show (SendRequest.read 126 root).map _ = _
      rw [hread]
      rfl
    have hmembers : namedLayout.readMembers 126 [(.ofText "request", root)] [] namedLayout.blank =
        .ok (["request"], request) :=
      Layout.readMembers_cons namedLayout field?_namedLayout hmember List.not_mem_nil []
        namedLayout.blank
    rw [Layout.readObject_of_readMembers hmembers rfl]

/-- **Two forms.** The parameters `[root]` and those that hold `root` under the name `request` are
read alike, if the value is nested no deeper than both forms allow. -/
theorem readParams_named_eq_positional {root : Outline} (hnesting : root.nesting ≤ 126)
    (blank : Bool) :
    readParams (some (.object [(.ofText "request", root)] .closed)) =
      readParams (some (.array blank [root] .closed)) := by
  have hdepth : SendRequest.read 126 root = SendRequest.read maxDepth root :=
    SendRequest.steady_read hnesting (Nat.le_succ_of_le hnesting)
  rw [readParams_named, readParams_positional, hdepth]

/-! ## Parameters of any form -/

/-- The submission request that parameters yield: that of the first item of an array, or that of the
only member `request` of an object whose names can be read. -/
inductive Yields : Option Outline → SendRequest → Prop
  | first {blank : Bool} {item : Outline} {others : List Outline} {ending : Ending}
      {request : SendRequest} (h : SendRequest.read maxDepth item = .ok request) :
      Yields (some (.array blank (item :: others) ending)) request
  | named {members : List Member} {value : Outline} {request : SendRequest}
      (names : Named members) (only : valuesOf "request" members = [value])
      (h : SendRequest.read 126 value = .ok request) :
      Yields (some (.object members .closed)) request

/-- Parameters that are given by name have no other field. -/
theorem eq_request_of_field?_namedLayout {name : String} {field : Json.Field SendRequest}
    (h : namedLayout.field? name = some field) : name = "request" := by
  have hfield := Layout.mem_of_field? h
  rw [namedLayout, List.mem_singleton] at hfield
  rw [← Layout.name_of_field? h, hfield]
  rfl

/-- The parameters given by name are complete when the name `request` was read. -/
theorem missing?_namedLayout_eq_none_iff {seen : List String} :
    namedLayout.missing? seen = none ↔ "request" ∈ seen := by
  simp [Layout.missing?, namedLayout, Field.of]

/-- Parameters given by name are read as the only value under the name `request`. -/
theorem readObject_namedLayout_eq_ok_iff {members : List Member} {request : SendRequest}
    (hskip : ∀ member ∈ members, member.2.skip = .ok ()) :
    namedLayout.readObject 126 members .closed = .ok request ↔
      Named members ∧ ∃ value, valuesOf "request" members = [value] ∧
        SendRequest.read 126 value = .ok request := by
  have hgives : ∀ {seen record},
      namedLayout.readMembers 126 members [] namedLayout.blank = .ok (seen, record) →
      Gives members "request" (SendRequest.read 126) namedLayout.blank record := by
    intro seen record hread
    have hgives := Layout.gives_of_readMembers field?_namedLayout
      (show ∀ request record, id ((fun _ => request : SendRequest → SendRequest) record) = request
        from fun _ _ => rfl)
      (fun other field hfield hne => absurd (eq_request_of_field?_namedLayout hfield) hne) hread
    exact hgives.2 List.not_mem_nil
  rw [Layout.readObject_eq_ok_iff]
  constructor
  · rintro ⟨seen, hread, hmissing⟩
    have hseen := missing?_namedLayout_eq_none_iff.mp hmissing
    rw [Layout.mem_seen_of_readMembers hread field?_namedLayout] at hseen
    have hvalue := hgives hread
    refine ⟨Layout.named_of_readMembers hread, ?_⟩
    rcases hvalues : valuesOf "request" members with _ | ⟨value, _ | ⟨_, _⟩⟩
    · simp [hvalues] at hseen
    · rw [gives_of_singleton hvalues] at hvalue
      exact ⟨value, rfl, hvalue⟩
    · rw [Gives, hvalues] at hvalue
      cases hvalue
  · rintro ⟨hnamed, value, hvalues, hvalue⟩
    have hstated : ∀ name field, namedLayout.field? name = some field →
        valuesOf name members = [] ∨ name ∉ [] ∧ ∃ value change,
          valuesOf name members = [value] ∧ field.read 126 value = .ok change := by
      intro name field hfield
      obtain rfl := eq_request_of_field?_namedLayout hfield
      rw [field?_namedLayout] at hfield
      cases hfield
      exact Or.inr ⟨List.not_mem_nil, value, _, hvalues, map_eq_ok_iff.mpr ⟨request, hvalue, rfl⟩⟩
    obtain ⟨seen, record, hread⟩ :
        ∃ seen record, namedLayout.readMembers 126 members [] namedLayout.blank =
          .ok (seen, record) := Layout.exists_readMembers hnamed hskip hstated
    have hrecord := hgives hread
    rw [gives_of_singleton hvalues, hvalue] at hrecord
    cases hrecord
    refine ⟨seen, hread, missing?_namedLayout_eq_none_iff.mpr ?_⟩
    rw [Layout.mem_seen_of_readMembers hread field?_namedLayout, hvalues]
    exact Or.inr (List.cons_ne_nil _ _)

/-- **Reading parameters.** Well-formed parameters are read as the submission request that they
yield. -/
theorem readParams_eq_ok_iff {params : Option Outline} {request : SendRequest}
    (hskip : ∀ outline, params = some outline → outline.skip = .ok ()) :
    readParams params = .ok request ↔ Yields params request := by
  rcases params with _ | outline
  · constructor
    · intro h
      cases h
    · intro h
      cases h
  cases outline with
  | null | bool | number | string | misnamed | broken =>
    constructor
    · intro h
      cases h
    · intro h
      cases h
  | array blank items ending =>
    cases items with
    | nil =>
      constructor
      · intro h
        cases blank <;> cases h
      · intro h
        cases h
    | cons item items =>
      have hread : readParams (some (.array blank (item :: items) ending)) =
          (SendRequest.read maxDepth item).mapError .unread := by cases blank <;> rfl
      rw [hread, mapError_eq_ok_iff]
      constructor
      · exact .first
      · rintro ⟨h⟩
        exact h
  | object members ending =>
    have hwhole := hskip _ rfl
    rw [Outline.skip] at hwhole
    obtain ⟨⟨⟩, hmembers, hclose⟩ := bind_eq_ok_iff.mp hwhole
    have hending : ending = .closed := by
      cases ending with
      | closed => rfl
      | cut | cutAfterComma => cases hclose
    subst hending
    have hread : readParams (some (.object members .closed)) =
        (namedLayout.readObject 126 members .closed).mapError .unread := rfl
    rw [hread, mapError_eq_ok_iff,
      readObject_namedLayout_eq_ok_iff (skip_of_mem_of_skipMembers hmembers)]
    constructor
    · rintro ⟨hnamed, value, honly, h⟩
      exact .named hnamed honly h
    · rintro (_ | ⟨hnamed, honly, h⟩)
      exact ⟨hnamed, _, honly, h⟩

end Rpc

end TxGateway
