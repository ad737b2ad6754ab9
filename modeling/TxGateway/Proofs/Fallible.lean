/-!
# Steps that can fail

How a step that can fail came to its outcome. A chain of steps succeeds when each step does, and it
fails at the first step that does; a renamed value or cause stems from the value or cause that was
renamed. Proofs take chains apart with these facts and never look at how the steps are run.
-/

namespace TxGateway.Fallible

variable {ε ε' α β : Type}

/-- A chain succeeds when both of its parts do. -/
theorem bind_eq_ok_iff {first : Except ε α} {next : α → Except ε β} {result : β} :
    (first >>= next) = .ok result ↔ ∃ value, first = .ok value ∧ next value = .ok result := by
  cases first with
  | error cause =>
    constructor
    · intro h
      cases h
    · rintro ⟨value, h, -⟩
      cases h
  | ok value =>
    constructor
    · intro h
      exact ⟨value, rfl, h⟩
    · rintro ⟨other, h, hnext⟩
      cases h
      exact hnext

/-- A chain fails in its first part, or in the part that follows a success. -/
theorem bind_eq_error_iff {first : Except ε α} {next : α → Except ε β} {cause : ε} :
    (first >>= next) = .error cause ↔
      first = .error cause ∨ ∃ value, first = .ok value ∧ next value = .error cause := by
  cases first with
  | error other =>
    constructor
    · intro h
      cases h
      exact Or.inl rfl
    · rintro (h | ⟨value, h, -⟩)
      · cases h
        rfl
      · cases h
  | ok value =>
    constructor
    · intro h
      exact Or.inr ⟨value, rfl, h⟩
    · rintro (h | ⟨other, h, hnext⟩)
      · cases h
      · cases h
        exact hnext

/-- A renamed value stems from a value. -/
theorem map_eq_ok_iff {step : Except ε α} {rename : α → β} {result : β} :
    step.map rename = .ok result ↔ ∃ value, step = .ok value ∧ rename value = result := by
  cases step <;> simp [Except.map]

/-- Renaming the value keeps the cause of a failure. -/
theorem map_eq_error_iff {step : Except ε α} {rename : α → β} {cause : ε} :
    step.map rename = .error cause ↔ step = .error cause := by
  cases step <;> simp [Except.map]

/-- Renaming the cause keeps the value of a success. -/
theorem mapError_eq_ok_iff {step : Except ε α} {rename : ε → ε'} {value : α} :
    step.mapError rename = .ok value ↔ step = .ok value := by
  cases step with
  | error cause =>
    constructor
    · intro h
      cases h
    · intro h
      cases h
  | ok other =>
    constructor
    · intro h
      cases h
      rfl
    · intro h
      cases h
      rfl

/-- A renamed cause stems from a cause. -/
theorem mapError_eq_error_iff {step : Except ε α} {rename : ε → ε'} {cause : ε'} :
    step.mapError rename = .error cause ↔ ∃ inner, step = .error inner ∧ rename inner = cause := by
  cases step with
  | error inner =>
    constructor
    · intro h
      cases h
      exact ⟨inner, rfl, rfl⟩
    · rintro ⟨other, h, hcause⟩
      cases h
      exact congrArg Except.error hcause
  | ok value =>
    constructor
    · intro h
      cases h
    · rintro ⟨_, h, -⟩
      cases h

/-! ## Optional contents -/

/-- What is related to an optional content is related to it in an encoded form. -/
theorem rel_map {γ : Type} {first : α → β → Prop} {second : α → γ → Prop} {encode : β → γ}
    {content : Option α} {found : Option β} (h : Option.Rel first content found)
    (hencode : ∀ a b, first a b → second a (encode b)) :
    Option.Rel second content (found.map encode) := by
  cases h with
  | none => exact .none
  | some h => exact .some (hencode _ _ h)

/-- An optional content is related to its encoded form. -/
theorem rel_encode {relation : α → β → Prop} {encode : α → β} (content : Option α)
    (h : ∀ a, relation a (encode a)) : Option.Rel relation content (content.map encode) := by
  cases content with
  | none => exact .none
  | some a => exact .some (h a)

/-- The encoded form of an optional content is related to the content. -/
theorem rel_decode {relation : β → α → Prop} {encode : α → β} (content : Option α)
    (h : ∀ a, relation (encode a) a) : Option.Rel relation (content.map encode) content := by
  cases content with
  | none => exact .none
  | some a => exact .some (h a)

/-- Optional contents that are related one way are related the other way. -/
theorem rel_flip {first : α → β → Prop} {second : β → α → Prop} {content : Option α}
    {found : Option β} (h : Option.Rel first content found)
    (hflip : ∀ a b, first a b → second b a) : Option.Rel second found content := by
  cases h with
  | none => exact .none
  | some h => exact .some (hflip _ _ h)

/-- Two optional contents that are related to the same one are related to each other. -/
theorem rel_join {γ : Type} {first : α → β → Prop} {second : α → γ → Prop}
    {third : β → γ → Prop} {content : Option α} {left : Option β} {right : Option γ}
    (hleft : Option.Rel first content left) (hright : Option.Rel second content right)
    (hjoin : ∀ a b c, first a b → second a c → third b c) : Option.Rel third left right := by
  cases hleft with
  | none =>
    cases hright
    exact .none
  | some hleft =>
    cases hright with
    | some hright => exact .some (hjoin _ _ _ hleft hright)

/-- Something is related to an optional content unless there is a content that nothing is related
to. -/
theorem exists_rel_iff {relation : α → β → Prop} {content : Option α} :
    (∃ found, Option.Rel relation content found) ↔
      content = none ∨ ∃ a b, content = some a ∧ relation a b := by
  cases content with
  | none => exact ⟨fun _ => Or.inl rfl, fun _ => ⟨none, .none⟩⟩
  | some a =>
    constructor
    · rintro ⟨_, h⟩
      cases h with
      | some h => exact Or.inr ⟨a, _, rfl, h⟩
    · rintro (h | ⟨_, b, h, hrel⟩)
      · cases h
      · cases h
        exact ⟨some b, .some hrel⟩

/-- Reads an optional content, with a failure renamed for the content at fault. -/
def optionally (read : α → Except ε β) (rename : α → ε → ε') : Option α → Except ε' (Option β)
  | some content => ((read content).mapError (rename content)).map some
  | none => .ok none

/-- An optional content is read as nothing where there is none, and as `read` reads it otherwise. -/
theorem optionally_eq_ok_iff {read : α → Except ε β} {rename : α → ε → ε'} {content : Option α}
    {result : Option β} :
    optionally read rename content = .ok result ↔
      Option.Rel (fun content result => read content = .ok result) content result := by
  cases content with
  | none =>
    constructor
    · intro h
      cases h
      exact .none
    · intro h
      cases h
      rfl
  | some content =>
    constructor
    · intro h
      obtain ⟨value, hvalue, rfl⟩ := map_eq_ok_iff.mp h
      exact .some (mapError_eq_ok_iff.mp hvalue)
    · intro h
      cases h with
      | some hvalue => exact map_eq_ok_iff.mpr ⟨_, mapError_eq_ok_iff.mpr hvalue, rfl⟩

/-- An optional content fails to be read only where there is one. -/
theorem optionally_eq_error_iff {read : α → Except ε β} {rename : α → ε → ε'} {content : Option α}
    {cause : ε'} :
    optionally read rename content = .error cause ↔
      ∃ found inner, content = some found ∧ read found = .error inner ∧
        rename found inner = cause := by
  cases content with
  | none =>
    constructor
    · intro h
      cases h
    · rintro ⟨_, _, h, -⟩
      cases h
  | some content =>
    constructor
    · intro h
      obtain ⟨inner, hinner, hcause⟩ := mapError_eq_error_iff.mp (map_eq_error_iff.mp h)
      exact ⟨content, inner, rfl, hinner, hcause⟩
    · rintro ⟨found, inner, h, hinner, hcause⟩
      cases h
      exact map_eq_error_iff.mpr (mapError_eq_error_iff.mpr ⟨inner, hinner, hcause⟩)

end TxGateway.Fallible
