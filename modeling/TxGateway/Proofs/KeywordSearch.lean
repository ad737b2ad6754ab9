import Mathlib.Data.List.Basic
import TxGateway.Reason
import TxGateway.Proofs.HexText
/-!
# Keywords in error texts

An error text is lower-cased as a whole before it is searched, and lower-casing can lengthen it and
looks at what stands around a letter. `Text.Mentions` says the same of the text as it was given: a
keyword is mentioned by a run of characters that are its own up to letter case, where the Kelvin sign
counts as `k`.

* `Text.lowerChar_cases` : what a character can contribute to the lower-case form of a text;
* `Text.occursIn_lower_iff` : a phrase occurs in the lower-case form exactly where it is mentioned;
* `Reason.classify_first_mentioned` : the reason of a text is that of the first keyword mentioned.
-/

namespace TxGateway

namespace Text

/-! ## Characters -/

/-- What a character counts as where letter case does not: a letter of ASCII as its small letter, the
Kelvin sign as `k`, and anything else as itself. -/
def folded (c : Char) : Char := if c = kelvinSign then 'k' else c.toLower

/-- A character above ASCII, the Kelvin sign apart, counts as a character above ASCII. -/
theorem le_folded {c : Char} (hkelvin : c ≠ kelvinSign) (h : 0x80 ≤ c.toNat) :
    0x80 ≤ (folded c).toNat := by
  rw [folded, if_neg hkelvin]
  by_contra hsmall
  have hascii := Hex.ascii_of_toLower (Nat.lt_of_not_le hsmall)
  omega

/-- What counts as a character of ASCII is one, or the Kelvin sign. -/
theorem ascii_or_eq_of_folded {c : Char} (h : (folded c).toNat < 0x80) :
    c.toNat < 0x80 ∨ c = kelvinSign := by
  by_contra hnot
  rw [not_or] at hnot
  have hlarge := le_folded hnot.2 (Nat.le_of_not_lt hnot.1)
  omega

/-- The small letter of a character above ASCII lies above ASCII, but for the Kelvin sign. -/
theorem le_smallLetter {c : Char} (hkelvin : c ≠ kelvinSign) (h : 0x80 ≤ c.toNat) :
    0x80 ≤ (smallLetter c).toNat := by
  rw [smallLetter, if_neg (by omega)]
  split
  · next code hcode =>
    obtain ⟨run, hrun, hsmall⟩ := List.exists_of_findSome?_eq_some hcode
    obtain ⟨hfirst, hlast, rfl⟩ := CapitalRun.bounds_of_small? hsmall
    rcases eq_kelvin_or_small_of_mem run hrun with rfl | ⟨hascii, hvalid⟩
    · -- The run of the Kelvin sign holds nothing else.
      have hcode : c.toNat = kelvinSign.toNat := by
        have hlow : 0x212a ≤ c.toNat := hfirst
        have hhigh : c.toNat ≤ 0x212a := hlast
        show c.toNat = 0x212a
        omega
      exact absurd (Char.toNat_inj.mp hcode) hkelvin
    · have hchar : (run.small + (c.toNat - run.first)).isValidChar := by
        rcases hvalid with hvalid | hvalid
        · exact Or.inl (by omega)
        · exact Or.inr ⟨by omega, by omega⟩
      have hcode : (Char.ofNat (run.small + (c.toNat - run.first))).toNat =
          run.small + (c.toNat - run.first) := by
        rw [Char.ofNat, dif_pos hchar]
        rfl
      rw [hcode]
      omega
  · exact h

/-- What a character contributes to the lower-case form of a text, whatever stands around it: the one
character of ASCII that it counts as; or, if it counts as none, one character above ASCII, or the
letter `i` with a combining dot behind it. -/
theorem lowerChar_cases (before : List Char) (c : Char) (after : List Char) :
    lowerChar before c after = [folded c] ∧ (folded c).toNat < 0x80 ∨
    0x80 ≤ (folded c).toNat ∧ ((∃ d, lowerChar before c after = [d] ∧ 0x80 ≤ d.toNat) ∨
      lowerChar before c after = ['i', combiningDot]) := by
  unfold lowerChar
  by_cases hsigma : c = capitalSigma
  · subst hsigma
    refine Or.inr ⟨by decide, Or.inl ⟨_, if_pos rfl, ?_⟩⟩
    unfold smallSigma
    split
    · decide
    · decide
  rw [if_neg hsigma]
  by_cases hdotted : c = dottedCapitalI
  · subst hdotted
    exact Or.inr ⟨by decide, Or.inr (if_pos rfl)⟩
  rw [if_neg hdotted]
  by_cases hkelvin : c = kelvinSign
  · subst hkelvin
    exact Or.inl ⟨by decide +kernel, by decide⟩
  by_cases hascii : c.toNat < 0x80
  · have hfolded : folded c = c.toLower := if_neg hkelvin
    have hsmall : smallLetter c = c.toLower := if_pos hascii
    have all : ∀ code, code < 0x80 → (Char.ofNat code).toLower.toNat < 0x80 := by decide +kernel
    have hlower := all c.toNat hascii
    rw [Char.ofNat_toNat] at hlower
    exact Or.inl ⟨by rw [hfolded, hsmall], hfolded ▸ hlower⟩
  · have hlarge : 0x80 ≤ c.toNat := by omega
    exact Or.inr ⟨le_folded hkelvin hlarge, Or.inl ⟨_, rfl, le_smallLetter hkelvin hlarge⟩⟩

/-! ## Phrases -/

/-- A phrase that can be looked for in lower-case text: it is ASCII and in lower case itself, and does
not end in `i`, with which the lower-case form of another letter starts. -/
structure IsPhrase (phrase : List Char) : Prop where
  ascii : ∀ c ∈ phrase, c.toNat < 0x80
  folded_eq : phrase.map folded = phrase
  last_ne : phrase.getLast? ≠ some 'i'

/-- The rest of a phrase is a phrase. -/
theorem IsPhrase.tail {c : Char} {phrase : List Char} (h : IsPhrase (c :: phrase)) :
    IsPhrase phrase := by
  refine ⟨fun d hd => h.ascii d (List.mem_cons_of_mem _ hd), ?_, ?_⟩
  · have hfolded := h.folded_eq
    rw [List.map_cons, List.cons.injEq] at hfolded
    exact hfolded.2
  · intro hlast
    cases phrase with
    | nil => cases hlast
    | cons d phrase => exact h.last_ne (by rw [List.getLast?_cons_cons, hlast])

/-- The lower-case form of a text starts with a phrase exactly when the text does, up to letter case.
-/
theorem prefix_lowerFrom_iff {phrase text : List Char} (h : IsPhrase phrase)
    (before : List Char) : phrase <+: lowerFrom before text ↔ phrase <+: text.map folded := by
  induction text generalizing phrase before with
  | nil => rfl
  | cons c text ih =>
    cases phrase with
    | nil => simp
    | cons p phrase =>
      have hp : p.toNat < 0x80 := h.ascii p List.mem_cons_self
      rw [lowerFrom_cons, List.map_cons, List.cons_prefix_cons]
      rcases lowerChar_cases before c text with ⟨hform, -⟩ | ⟨hlarge, hform⟩
      · rw [hform, List.singleton_append, List.cons_prefix_cons, ih h.tail]
      -- The character counts as none of the phrase, so its form must not start the phrase either.
      have hne : p ≠ folded c := by
        rintro rfl
        omega
      refine iff_of_false ?_ fun hprefix => hne hprefix.1
      rcases hform with ⟨d, hform, hd⟩ | hform
      · rw [hform, List.singleton_append, List.cons_prefix_cons]
        rintro ⟨rfl, -⟩
        omega
      · rw [hform]
        intro hprefix
        obtain ⟨rfl, hrest⟩ := List.cons_prefix_cons.mp hprefix
        cases phrase with
        | nil => exact h.last_ne rfl
        | cons q phrase =>
          obtain ⟨rfl, -⟩ := List.cons_prefix_cons.mp hrest
          have hdot := h.ascii combiningDot (by simp)
          exact absurd hdot (by decide)

/-- A phrase that occurs in the lower-case form of a text starts with the form of one of its
characters, and never in the middle of a form. -/
theorem infix_lowerFrom_cons {phrase text before : List Char} {c : Char} (h : IsPhrase phrase)
    (hnonempty : phrase ≠ []) :
    phrase <:+: lowerFrom before (c :: text) ↔
      phrase <+: lowerFrom before (c :: text) ∨ phrase <:+: lowerFrom (c :: before) text := by
  rw [lowerFrom_cons]
  rcases lowerChar_cases before c text with ⟨hform, -⟩ | ⟨-, ⟨d, hform, -⟩ | hform⟩
  · rw [hform, List.singleton_append, List.infix_cons_iff]
  · rw [hform, List.singleton_append, List.infix_cons_iff]
  · rw [hform, List.cons_append, List.singleton_append, List.infix_cons_iff, List.infix_cons_iff]
    have hmiddle : ¬ phrase <+: combiningDot :: lowerFrom (c :: before) text := by
      obtain ⟨p, rest, rfl⟩ := List.exists_cons_of_ne_nil hnonempty
      rw [List.cons_prefix_cons]
      rintro ⟨rfl, -⟩
      have hdot := h.ascii combiningDot List.mem_cons_self
      exact absurd hdot (by decide)
    rw [or_iff_right hmiddle]

/-- **Searching the lower-case form.** A phrase occurs in the lower-case form of a text exactly when
it occurs in the text up to letter case. -/
theorem infix_lower_iff {phrase text : List Char} (h : IsPhrase phrase) :
    phrase <:+: lower text ↔ phrase <:+: text.map folded := by
  by_cases hempty : phrase = []
  · subst hempty
    simp
  have hfrom : ∀ before, phrase <:+: lowerFrom before text ↔ phrase <:+: text.map folded := by
    induction text with
    | nil =>
      intro before
      rfl
    | cons c text ih =>
      intro before
      rw [infix_lowerFrom_cons h hempty, prefix_lowerFrom_iff h, ih, List.map_cons,
        List.infix_cons_iff]
  exact hfrom []

/-! ## Mentions -/

/-- A run of characters reads as a phrase: they are the same up to letter case. -/
def ReadsAs (run phrase : List Char) : Prop := run.map folded = phrase.map folded

/-- A text mentions a phrase: somewhere in it an unbroken run of characters reads as the phrase. -/
def Mentions (text phrase : String) : Prop :=
  ∃ before run after, text.toList = before ++ (run ++ after) ∧ ReadsAs run phrase.toList

/-- What a text mentions occurs in it where letter case does not count. -/
theorem mentions_iff {text phrase : String} :
    Mentions text phrase ↔ phrase.toList.map folded <:+: text.toList.map folded := by
  constructor
  · rintro ⟨before, run, after, htext, hrun⟩
    rw [htext, List.map_append, List.map_append, ← hrun]
    exact ⟨before.map folded, after.map folded, by rw [List.append_assoc]⟩
  · rintro ⟨start, rest, h⟩
    rw [List.append_assoc] at h
    obtain ⟨before, others, htext, -, hothers⟩ := List.map_eq_append_iff.mp h.symm
    obtain ⟨run, after, rfl, hrun, -⟩ := List.map_eq_append_iff.mp hothers
    exact ⟨before, run, after, htext, hrun⟩

/-- A phrase is found in the lower-case form of a text exactly when the text mentions it. -/
theorem occursIn_lower_iff {phrase text : String} (h : IsPhrase phrase.toList) :
    occursIn phrase.toList (lower text.toList) = true ↔ Mentions text phrase := by
  rw [occursIn_iff, infix_lower_iff h, mentions_iff, h.folded_eq]

/-- Only characters of ASCII and the Kelvin sign read as parts of a phrase. -/
theorem ReadsAs.ascii_or_eq {run phrase : List Char} (hphrase : IsPhrase phrase)
    (h : ReadsAs run phrase) : ∀ c ∈ run, c.toNat < 0x80 ∨ c = kelvinSign := by
  intro c hc
  have hmem : folded c ∈ phrase := by
    rw [← hphrase.folded_eq, ← h]
    exact List.mem_map_of_mem hc
  exact ascii_or_eq_of_folded (hphrase.ascii _ hmem)

end Text

open Text (Mentions ReadsAs)

/-! ## Keywords -/

/-- The reason that is found for a text is that of the first keyword mentioned. -/
theorem Keywords.classify_eq_some_iff {keywords : Keywords} {text : String} {reason : Reason}
    (h : ∀ entry ∈ keywords, Text.IsPhrase entry.1.toList) :
    keywords.classify text = some reason ↔
      ∃ earlier keyword later, keywords = earlier ++ (keyword, reason) :: later ∧
        Mentions text keyword ∧ ∀ entry ∈ earlier, ¬ Mentions text entry.1 := by
  unfold Keywords.classify
  dsimp only
  rw [Option.map_eq_some_iff]
  constructor
  · rintro ⟨⟨keyword, found⟩, hfound, rfl⟩
    obtain ⟨hoccurs, earlier, later, rfl, hearlier⟩ := List.find?_eq_some_iff_append.mp hfound
    refine ⟨earlier, keyword, later, rfl, ?_, ?_⟩
    · exact (Text.occursIn_lower_iff (h _ (by simp))).mp hoccurs
    · intro entry hentry hmentions
      have hnot := hearlier entry hentry
      have hphrase := h entry (List.mem_append_left _ hentry)
      rw [(Text.occursIn_lower_iff hphrase).mpr hmentions] at hnot
      cases hnot
  · rintro ⟨earlier, keyword, later, rfl, hmentions, hearlier⟩
    refine ⟨(keyword, reason), List.find?_eq_some_iff_append.mpr ⟨?_, earlier, later, rfl, ?_⟩, rfl⟩
    · exact (Text.occursIn_lower_iff (h _ (by simp))).mpr hmentions
    · intro entry hentry
      have hphrase := h entry (List.mem_append_left _ hentry)
      rw [Bool.not_eq_true', ← Bool.not_eq_true, Text.occursIn_lower_iff hphrase]
      exact hearlier entry hentry

/-- No reason is found for a text that mentions no keyword. -/
theorem Keywords.classify_eq_none_iff {keywords : Keywords} {text : String}
    (h : ∀ entry ∈ keywords, Text.IsPhrase entry.1.toList) :
    keywords.classify text = none ↔ ∀ entry ∈ keywords, ¬ Mentions text entry.1 := by
  unfold Keywords.classify
  dsimp only
  rw [Option.map_eq_none_iff, List.find?_eq_none]
  refine forall₂_congr fun entry hentry => ?_
  rw [Text.occursIn_lower_iff (h entry hentry)]

namespace Reason

/-- The keywords that are looked up in errors of the method with a given name; an unknown method has
none. -/
def keywordsOf (method : String) : Keywords :=
  match Node.Method.ofName? method with
  | some known => known.keywords
  | none => []

/-- A text is searched for the keywords of the method. -/
theorem classify_eq (method text : String) :
    Reason.classify method text = (keywordsOf method).classify text := by
  unfold Reason.classify keywordsOf
  cases Node.Method.ofName? method <;> rfl

/-- All keywords are among those for refused transactions and those for failed executions. -/
theorem mem_of_mem_keywordsOf {method : String} {entry : String × Reason}
    (h : entry ∈ keywordsOf method) :
    entry ∈ Node.Method.submissionKeywords ++ Node.Method.executionKeywords := by
  unfold keywordsOf at h
  split at h
  · next known _ =>
    cases known with
    | sendTransaction | sendRawTransaction => exact List.mem_append_left _ h
    | call | estimateGas => exact List.mem_append_right _ h
    | netVersion => cases h
  · cases h

/-- Keywords are phrases. -/
theorem isPhrase_of_mem {method : String} :
    ∀ entry ∈ keywordsOf method, Text.IsPhrase entry.1.toList := by
  have all : ∀ entry ∈ Node.Method.submissionKeywords ++ Node.Method.executionKeywords,
      (entry.1.toList.all fun c => c.toNat < 0x80) = true ∧
        entry.1.toList.map Text.folded = entry.1.toList ∧ entry.1.toList.getLast? ≠ some 'i' := by
    decide
  intro entry hentry
  obtain ⟨hascii, hfolded, hlast⟩ := all entry (mem_of_mem_keywordsOf hentry)
  exact ⟨fun c hc => of_decide_eq_true (List.all_eq_true.mp hascii c hc), hfolded, hlast⟩

/-- Texts that mention the same keywords have the same reason. -/
theorem classify_congr {method first second : String}
    (h : ∀ entry ∈ keywordsOf method, (Mentions first entry.1 ↔ Mentions second entry.1)) :
    Reason.classify method first = Reason.classify method second := by
  rw [classify_eq, classify_eq]
  refine Option.ext fun reason => ?_
  rw [Keywords.classify_eq_some_iff isPhrase_of_mem, Keywords.classify_eq_some_iff isPhrase_of_mem]
  refine exists_congr fun earlier => exists_congr fun keyword => exists_congr fun later =>
    and_congr_right fun hkeywords => ?_
  have hfirst : (keyword, reason) ∈ keywordsOf method := by simp [hkeywords]
  have hearlier : ∀ entry ∈ earlier, entry ∈ keywordsOf method := by
    intro entry hentry
    rw [hkeywords]
    exact List.mem_append_left _ hentry
  rw [h _ hfirst]
  exact and_congr_right fun _ => forall₂_congr fun entry hentry => not_congr (h _ (hearlier _ hentry))

/-- Only four methods have keywords. -/
theorem keywordsOf_eq_nil {method : String} (h : method ∉ ["eth_sendTransaction",
    "eth_sendRawTransaction", "eth_call", "eth_estimateGas"]) : keywordsOf method = [] := by
  unfold keywordsOf
  split
  · next known hknown =>
    have hname : known.name = method := by
      have hfound := List.find?_some hknown
      exact beq_iff_eq.mp hfound
    cases known with
    | netVersion => rfl
    | sendTransaction | sendRawTransaction | call | estimateGas =>
      subst hname
      exact absurd (by decide) h
  · rfl

/-- **Reasons.** The reason of an error text is that of the first keyword of the method's table that
the text mentions, and there is none where no keyword is mentioned. A run of characters that reads as
a keyword is made of ASCII characters and Kelvin signs, and it is found wherever it stands and
whatever stands around it. Methods without a table never give a reason. -/
theorem classify_first_mentioned (method text : String) :
    (∀ reason, Reason.classify method text = some reason ↔
      ∃ earlier keyword later, keywordsOf method = earlier ++ (keyword, reason) :: later ∧
        Mentions text keyword ∧ ∀ entry ∈ earlier, ¬ Mentions text entry.1) ∧
    (Reason.classify method text = none ↔
      ∀ entry ∈ keywordsOf method, ¬ Mentions text entry.1) ∧
    (∀ entry ∈ keywordsOf method, ∀ run, ReadsAs run entry.1.toList →
      (∀ c ∈ run, c.toNat < 0x80 ∨ c = Text.kelvinSign) ∧
      ∀ before after, Keywords.classify [entry] (String.ofList (before ++ (run ++ after))) =
        some entry.2) ∧
    (method ∉ ["eth_sendTransaction", "eth_sendRawTransaction", "eth_call", "eth_estimateGas"] →
      Reason.classify method text = none) := by
  refine ⟨?_, ?_, ?_, ?_⟩
  · intro reason
    rw [classify_eq, Keywords.classify_eq_some_iff isPhrase_of_mem]
  · rw [classify_eq, Keywords.classify_eq_none_iff isPhrase_of_mem]
  · intro entry hentry run hrun
    have hphrase := isPhrase_of_mem entry hentry
    refine ⟨hrun.ascii_or_eq hphrase, fun before after => ?_⟩
    have hsingle : ∀ other ∈ [entry], Text.IsPhrase other.1.toList := by
      intro other hother
      rwa [List.mem_singleton.mp hother]
    rw [Keywords.classify_eq_some_iff hsingle]
    exact ⟨[], entry.1, [], rfl, ⟨before, run, after, String.toList_ofList, hrun⟩, by simp⟩
  · intro hmethod
    rw [classify_eq, keywordsOf_eq_nil hmethod, Keywords.classify_nil]

/-- The Kelvin sign counts as `k`; the capital I with a dot above does not count as `i`. -/
example : Reason.classify "eth_sendTransaction" "ALREADY \u212aNOWN" = some .knownTransaction ∧
    Reason.classify "eth_sendTransaction" "\u0130nsufficient funds" = none := by
  decide +kernel

end Reason

end TxGateway
