import TxGateway.Node
import TxGateway.Proofs.KeywordSearch
import TxGateway.Proofs.QuantityText
/-!
# How an error text arrives

The text of an error reaches the gateway as it is, or with words of the transport in front of it.
Those words never change its reason. They mention no keyword themselves, and none can begin in them
and end in the text: a colon stands between, which no keyword holds, and behind the colon a space,
with which no keyword starts.

* `Text.infix_append_separator_iff` : what holds no separator occurs on one side of it;
* `Node.Trouble.mentions_message_iff` : the words in front of a text add and hide no keyword;
* `Node.Trouble.reason_of_bringing` : the reason is that of the text, however it arrives.
-/

namespace TxGateway

namespace Text

/-! ## Separators -/

variable {phrase first second separator : List Char}

/-- What occurs in a text that starts with a character, but does not start with this character
itself, occurs behind it. -/
theorem infix_cons_iff_of_head_ne {c : Char} (h : phrase.head? ≠ some c) :
    phrase <:+: c :: second ↔ phrase <:+: second := by
  rw [List.infix_cons_iff]
  refine or_iff_right_of_imp fun hprefix => ?_
  cases phrase with
  | nil => exact List.nil_infix
  | cons p phrase =>
    obtain ⟨rfl, -⟩ := List.cons_prefix_cons.mp hprefix
    exact absurd rfl h

/-- What shares no character with what stands in front of a text occurs behind it. -/
theorem infix_append_iff_of_forall_not_mem (h : ∀ c ∈ separator, c ∉ phrase) :
    phrase <:+: separator ++ second ↔ phrase <:+: second := by
  induction separator with
  | nil => rfl
  | cons c separator ih =>
    have hhead : phrase.head? ≠ some c := by
      intro hc
      exact h c List.mem_cons_self (List.mem_of_mem_head? hc)
    rw [List.cons_append, infix_cons_iff_of_head_ne hhead,
      ih fun d hd => h d (List.mem_cons_of_mem _ hd)]

/-- What shares no character with a separator occurs on one side of it. -/
theorem infix_append_separator_iff (hseparator : separator ≠ [])
    (h : ∀ c ∈ separator, c ∉ phrase) :
    phrase <:+: first ++ (separator ++ second) ↔ phrase <:+: first ∨ phrase <:+: second := by
  rw [List.infix_append_iff, infix_append_iff_of_forall_not_mem h]
  constructor
  · rintro (hfirst | hsecond | ⟨start, rest, rfl, hstart, hrest⟩)
    · exact Or.inl hfirst
    · exact Or.inr hsecond
    -- The part behind the join would start with the separator's first character.
    · obtain ⟨c, others, rfl⟩ := List.exists_cons_of_ne_nil hseparator
      cases rest with
      | nil =>
        rw [List.append_nil]
        exact Or.inl hstart.isInfix
      | cons d rest =>
        obtain ⟨rfl, -⟩ := List.cons_prefix_cons.mp hrest
        exact absurd (List.mem_append_right _ List.mem_cons_self) (h d List.mem_cons_self)
  · rintro (hfirst | hsecond)
    · exact Or.inl hfirst
    · exact Or.inr (Or.inl hsecond)

end Text

namespace Node.Trouble

open Text (Mentions folded)

/-! ## Words of the transport -/

/-- The four ways in which an error text arrives: in an error object of the node with a code, alone,
as a complaint about usage, or as the body of an HTTP answer with a status. -/
def bringing (text : String) (code : Int) (status : Nat) : List Trouble :=
  [.errorObject ⟨code, text⟩, .custom text, .localUsage text, .http status text]

/-- The words of the transport around a text or a status, without the colon and what follows it. -/
def wordsAround : List String :=
  ["local usage error", "HTTP error ", " with body", " with empty body"]

/-- What a keyword is free of: it holds no colon and no digit, does not start with a space, and does
not occur in words of the transport. -/
structure IsApart (keyword : List Char) : Prop where
  nonempty : keyword ≠ []
  colon : ':' ∉ keyword
  digit : ∀ number < 10, Nat.digitChar number ∉ keyword
  space : keyword.head? ≠ some ' '
  words : ∀ words ∈ wordsAround, ¬ keyword <:+: words.toList.map folded

/-- Keywords are apart from the words of the transport. -/
theorem isApart_of_mem {method : String} :
    ∀ entry ∈ Reason.keywordsOf method, IsApart entry.1.toList := by
  have all : ∀ entry ∈ Method.submissionKeywords ++ Method.executionKeywords,
      entry.1.toList ≠ [] ∧ ':' ∉ entry.1.toList ∧
        (∀ number < 10, Nat.digitChar number ∉ entry.1.toList) ∧
        entry.1.toList.head? ≠ some ' ' ∧
        ∀ words ∈ wordsAround, ¬ entry.1.toList <:+: words.toList.map folded := by
    decide +kernel
  intro entry hentry
  obtain ⟨hnonempty, hcolon, hdigit, hspace, hwords⟩ :=
    all entry (Reason.mem_of_mem_keywordsOf hentry)
  exact ⟨hnonempty, hcolon, hdigit, hspace, hwords⟩

/-- The digits of a status count as themselves. -/
theorem map_folded_decimal (status : Nat) :
    (Digits.decimal status).map folded = Digits.decimal status := by
  have all : ∀ number, number < 10 → folded (Nat.digitChar number) = Nat.digitChar number := by
    decide
  refine (List.map_congr_left fun c hc => ?_).trans (List.map_id _)
  obtain ⟨number, hnumber, rfl⟩ := Digits.exists_digitChar_of_mem_toDigits (by omega) c hc
  exact all number hnumber

/-- A keyword that occurs behind a colon and a space occurs in the text that follows them, if it does
not occur before. -/
theorem infix_colon_iff {keyword words text : List Char} (h : IsApart keyword)
    (hwords : ¬ keyword <:+: words) :
    keyword <:+: words ++ (':' :: ' ' :: text) ↔ keyword <:+: text := by
  have hcolon : ∀ c ∈ [':'], c ∉ keyword := by
    intro c hc
    rw [List.mem_singleton.mp hc]
    exact h.colon
  have hsplit : keyword <:+: words ++ ([':'] ++ (' ' :: text)) ↔
      keyword <:+: words ∨ keyword <:+: ' ' :: text :=
    Text.infix_append_separator_iff (List.cons_ne_nil _ _) hcolon
  rw [List.singleton_append] at hsplit
  rw [hsplit, Text.infix_cons_iff_of_head_ne h.space, or_iff_right hwords]

/-- A keyword does not occur around the digits of a status, if it occurs on neither side of them. -/
theorem not_infix_status {keyword first second : List Char} (h : IsApart keyword) (status : Nat)
    (hfirst : ¬ keyword <:+: first) (hsecond : ¬ keyword <:+: second) :
    ¬ keyword <:+: first ++ (Digits.decimal status ++ second) := by
  have hdigits : ∀ c ∈ Digits.decimal status, c ∉ keyword := by
    intro c hc
    obtain ⟨number, hnumber, rfl⟩ := Digits.exists_digitChar_of_mem_toDigits (by omega) c hc
    exact h.digit number hnumber
  have hnonempty : Digits.decimal status ≠ [] := Digits.toDigits_ne_nil 10 status
  rw [Text.infix_append_separator_iff hnonempty hdigits, not_or]
  exact ⟨hfirst, hsecond⟩

/-- The text of a complaint about usage. -/
theorem toList_localUsage (text : String) :
    (localUsage text).failure.message.toList =
      "local usage error".toList ++ (':' :: ' ' :: text.toList) := by
  rw [failure, Failure.message, String.toList_append]
  rfl

/-- The text of an HTTP answer with a body. -/
theorem toList_http {text : String} (h : text ≠ "") (status : Nat) :
    (http status text).failure.message.toList =
      "HTTP error ".toList ++ (Digits.decimal status ++ " with body".toList) ++
        (':' :: ' ' :: text.toList) := by
  have hbody : ¬ text.isEmpty = true := by rwa [String.isEmpty_iff]
  have hstatus : (Digits.decimalText status).toList = Digits.decimal status := String.toList_ofList
  rw [failure, Failure.message, if_neg hbody, String.toList_append, String.toList_append,
    String.toList_append, hstatus, List.append_assoc, List.append_assoc, List.append_assoc,
    List.append_assoc]
  rfl

/-- The text of an HTTP answer without a body. -/
theorem toList_http_empty (status : Nat) :
    (http status "").failure.message.toList =
      "HTTP error ".toList ++ (Digits.decimal status ++ " with empty body".toList) := by
  have hbody : "".isEmpty = true := rfl
  have hstatus : (Digits.decimalText status).toList = Digits.decimal status := String.toList_ofList
  rw [failure, Failure.message, if_pos hbody, String.toList_append, String.toList_append, hstatus,
    List.append_assoc]

/-- **Words around a text.** Whatever brings a text, the words around it mention no keyword, and none
together with the text. -/
theorem mentions_message_iff {method text : String} {code : Int} {status : Nat} :
    ∀ trouble ∈ bringing text code status, ∀ entry ∈ Reason.keywordsOf method,
      (Mentions trouble.failure.message entry.1 ↔ Mentions text entry.1) := by
  intro trouble htrouble entry hentry
  have hapart := isApart_of_mem entry hentry
  have hwords := hapart.words
  simp only [wordsAround, List.forall_mem_cons] at hwords
  obtain ⟨husage, herror, hbody, hempty, -⟩ := hwords
  rw [Text.mentions_iff, Text.mentions_iff, (Reason.isPhrase_of_mem entry hentry).folded_eq]
  simp only [bringing, List.mem_cons, List.not_mem_nil, or_false] at htrouble
  rcases htrouble with rfl | rfl | rfl | rfl
  · rfl
  · rfl
  · rw [toList_localUsage, List.map_append]
    exact infix_colon_iff hapart husage
  · by_cases htext : text = ""
    · subst htext
      rw [toList_http_empty, List.map_append, List.map_append, map_folded_decimal]
      exact iff_of_false (not_infix_status hapart status herror hempty) (by simp [hapart.nonempty])
    · rw [toList_http htext, List.map_append, List.map_append, List.map_append, map_folded_decimal]
      exact infix_colon_iff hapart (not_infix_status hapart status herror hbody)

/-- A text is part of what it arrives as. -/
theorem infix_message {text : String} {code : Int} {status : Nat} :
    ∀ trouble ∈ bringing text code status, text.toList <:+: trouble.failure.message.toList := by
  intro trouble htrouble
  have hcolon : text.toList <:+ ':' :: ' ' :: text.toList := List.suffix_append [':', ' '] _
  simp only [bringing, List.mem_cons, List.not_mem_nil, or_false] at htrouble
  rcases htrouble with rfl | rfl | rfl | rfl
  · exact List.infix_rfl
  · exact List.infix_rfl
  · rw [toList_localUsage]
    exact (hcolon.trans (List.suffix_append _ _)).isInfix
  · by_cases htext : text = ""
    · subst htext
      exact List.nil_infix
    · rw [toList_http htext]
      exact (hcolon.trans (List.suffix_append _ _)).isInfix

/-- Only an error object of the node leaves a code. -/
theorem code?_eq_some_iff {trouble : Trouble} {code : Int} :
    trouble.failure.code? = some code ↔ ∃ message, trouble = .errorObject ⟨code, message⟩ := by
  constructor
  · intro h
    cases trouble with
    | errorObject answer =>
      cases h
      exact ⟨answer.message, rfl⟩
    | nullResponse | localUsage | http | custom | connectionTaskStopped
    | subscriptionsUnavailable => cases h
  · rintro ⟨message, rfl⟩
    rfl

/-- The empty text has no reason. -/
theorem classify_empty (method : String) : Reason.classify method "" = none := by
  rw [Reason.classify_eq, Keywords.classify_eq_none_iff Reason.isPhrase_of_mem]
  intro entry hentry hmentions
  rw [Text.mentions_iff, (Reason.isPhrase_of_mem entry hentry).folded_eq] at hmentions
  exact (isApart_of_mem entry hentry).nonempty (List.infix_nil.mp hmentions)

/-- **How a text arrives.** For every method, a text has the same reason in an error object, alone, as
a complaint about usage and as the body of an HTTP answer: the words around it neither add a keyword
nor hide one. It stands in the message, and the message is what is shown. Only an error object
leaves a code, its own. The empty text has no reason. -/
theorem reason_of_bringing (method text : String) (code : Int) (status : Nat) :
    (∀ trouble ∈ bringing text code status,
      Reason.classify method trouble.failure.message = Reason.classify method text ∧
      (∀ entry ∈ Reason.keywordsOf method,
        (Mentions trouble.failure.message entry.1 ↔ Mentions text entry.1)) ∧
      text.toList <:+: trouble.failure.message.toList ∧
      trouble.failure.shown = trouble.failure.message) ∧
    (∀ (trouble : Trouble) number, trouble.failure.code? = some number ↔
      ∃ message, trouble = .errorObject ⟨number, message⟩) ∧
    Reason.classify method "" = none := by
  refine ⟨?_, fun _ _ => code?_eq_some_iff, classify_empty method⟩
  intro trouble htrouble
  have hmentions : ∀ entry ∈ Reason.keywordsOf method,
      (Mentions trouble.failure.message entry.1 ↔ Mentions text entry.1) :=
    mentions_message_iff trouble htrouble
  exact ⟨Reason.classify_congr hmentions, hmentions, infix_message trouble htrouble,
    trouble.failure.shown_eq_message⟩

end Node.Trouble

end TxGateway
