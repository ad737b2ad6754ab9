import TxGateway.Text.SmallLetter
/-!
# Letter case and search

The lower-case form of a text, and the search for one text inside another. A character becomes its
small letter, but for two: the capital I with a dot above becomes `i` followed by a combining dot,
and the small letter of a capital sigma depends on whether a word ends there.
-/

namespace TxGateway.Text

/-- The sign of the unit kelvin. -/
def kelvinSign : Char := '\u212a'

/-- The capital letter I with a dot above. -/
def dottedCapitalI : Char := '\u0130'

/-- The combining dot above. -/
def combiningDot : Char := '\u0307'

/-- The capital letter sigma. -/
def capitalSigma : Char := '\u03a3'

/-- The small letter sigma inside a word. -/
def innerSigma : Char := '\u03c3'

/-- The small letter sigma at the end of a word. -/
def finalSigma : Char := '\u03c2'

/-- Whether a text starts with a letter that has a case, apart from characters without a part in
letter case. -/
def startsCased (text : List Char) : Bool :=
  match text.dropWhile isCaseIgnorable with
  | c :: _ => isCased c
  | [] => false

/-- The small letter of a capital sigma that stands between two texts, the first of which is given
backwards. A word ends there when a letter comes before and none after. -/
def smallSigma (before after : List Char) : Char :=
  if startsCased before && !startsCased after then finalSigma else innerSigma

/-- The lower-case form of a character that stands between two texts, the first of which is given
backwards. -/
def lowerChar (before : List Char) (c : Char) (after : List Char) : List Char :=
  if c = capitalSigma then [smallSigma before after]
  else if c = dottedCapitalI then ['i', combiningDot]
  else [smallLetter c]

/-- The lower-case form of what is left of a text; what came before is given backwards. -/
def lowerFrom (before : List Char) : (text : List Char) → List Char
  | [] => []
  | c :: after => lowerChar before c after ++ lowerFrom (c :: before) after

/-- The lower-case form of a text. -/
def lower (text : List Char) : List Char := lowerFrom [] text

/-- Whether a text starts with another. -/
def startsWith : (text : List Char) → (start : List Char) → Bool
  | _, [] => true
  | [], _ :: _ => false
  | c :: text, s :: start => c == s && startsWith text start

/-- Whether a text occurs inside another as an unbroken run. -/
def occursIn (run : List Char) : (text : List Char) → Bool
  | [] => run.isEmpty
  | c :: text => startsWith (c :: text) run || occursIn run text

@[simp] theorem lowerFrom_cons (before : List Char) (c : Char) (after : List Char) :
    lowerFrom before (c :: after) = lowerChar before c after ++ lowerFrom (c :: before) after := rfl

theorem startsWith_iff {text start : List Char} :
    startsWith text start = true ↔ start <+: text := by
  induction text generalizing start with
  | nil => cases start <;> simp [startsWith]
  | cons c text ih =>
    cases start with
    | nil => simp [startsWith]
    | cons s start =>
      simp only [startsWith, Bool.and_eq_true, beq_iff_eq, ih, List.cons_prefix_cons]
      exact and_congr_left fun _ => eq_comm

theorem occursIn_iff {run text : List Char} : occursIn run text = true ↔ run <:+: text := by
  induction text with
  | nil => simp [occursIn, List.isEmpty_iff]
  | cons c text ih => simp [occursIn, startsWith_iff, ih, List.infix_cons_iff]

end TxGateway.Text
