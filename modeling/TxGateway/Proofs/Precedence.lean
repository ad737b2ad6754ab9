import Mathlib.Data.List.Perm.Basic
import Mathlib.Data.List.Nodup
import TxGateway.Proofs.Fallible
import TxGateway.Settings
/-!
# Precedence of the sources

A command line that consists of options with values (`Assignment`), in any order and with a value in
an argument of its own or behind an equals sign. What it takes to read one assignment is said first
(`readArguments_cons_eq_ok_iff`), and from that what it takes to read them all
(`readArguments_eq_ok_iff`). The environment then fills in what no option gives
(`lookup_addEnvironment`).

* `resolve_eq_ok_iff` : which command lines and environments are accepted, and with which settings;
* `sources_take_precedence` : an option wins over its environment variable, and that over the
  default. Neither the order and spelling of the options nor the variables of options that are given
  make a difference, and no option may be given twice.
-/

namespace TxGateway.Settings

open Fallible

/-! ## Command lines of options -/

/-- An option with a value on the command line: in one argument, joined by an equals sign, or in
two. -/
structure Assignment where
  key : Key
  value : String
  isJoined : Bool
deriving DecidableEq, Repr

namespace Assignment

/-- The arguments of an assignment. -/
def arguments (assignment : Assignment) : List String :=
  if assignment.isJoined then ["--" ++ assignment.key.name ++ "=" ++ assignment.value]
  else ["--" ++ assignment.key.name, assignment.value]

/-- An assignment in one argument. -/
def join (assignment : Assignment) : Assignment := { assignment with isJoined := true }

/-- The option of an assignment with its text. -/
def entry (assignment : Assignment) : Key × String := (assignment.key, assignment.value)

/-- A value can be told from an option: behind an equals sign always, in an argument of its own if
that is not taken for an option. -/
def Readable (assignment : Assignment) : Prop :=
  assignment.isJoined = true ∨ Argument.ofText assignment.value = .plain assignment.value

/-- One assignment is another one, or that in one argument. -/
def Rewrites (before after : Assignment) : Prop := after = before ∨ after = before.join

end Assignment

/-- The arguments of assignments. -/
def commandLine (assignments : List Assignment) : List String :=
  assignments.flatMap Assignment.arguments

/-- The text of an option from the three sources: of the first assignment, else of the environment
variable, else the default. -/
def chosen (assignments : List Assignment) (environment : Environment) (key : Key) : String :=
  (((assignments.map Assignment.entry).lookup key).or
    (environment.lookup key.variableName)).getD key.default

/-- Settings are the parsed values of texts. -/
structure Parses (text : Key → String) (settings : Settings) : Prop where
  bindAddress : SocketAddress.ofText? (text .bindAddress) = some settings.bindAddress
  nodeUrl : settings.nodeUrl = text .nodeUrl
  timeout : milliseconds? (text .timeout) = some settings.timeout.milliseconds
  logLevel : settings.logLevel = text .logLevel

/-! ## Arguments -/

/-- An option with a value behind an equals sign. -/
theorem Argument.ofText_joined (key : Key) (value : String) :
    ofText ("--" ++ key.name ++ "=" ++ value) = .long key.name (some value) := by
  have htext : ("--" ++ key.name ++ "=" ++ value).toList =
      '-' :: '-' :: (key.name.toList ++ '=' :: value.toList) := by
    simp [String.toList_append]
  rw [ofText, htext]
  cases key <;> exact congrArg (fun text => Argument.long _ (some text)) String.ofList_toList

/-- An option without a value. -/
theorem Argument.ofText_name (key : Key) : ofText ("--" ++ key.name) = .long key.name none := by
  cases key <;> rfl

/-- A plain argument is the text itself. -/
theorem Argument.eq_of_ofText_eq_plain {value text : String} (h : ofText value = .plain text) :
    text = value := by
  unfold ofText at h
  split at h
  · cases h
  · split at h <;> cases h
  · cases h
    rfl
  · cases h
  · cases h
    rfl

/-! ## Reading a command line -/

variable {given result : Given} {pending : Option Pending} {key : Key} {value : String}
  {rest : List String}

/-- A pending option with a value is judged well when it is new and takes the value. -/
theorem settle_eq_ok_iff :
    settle given (some ⟨key, some value⟩) = .ok result ↔
      given.lookup key = none ∧ key.accepts value = true ∧ (key, value) :: given = result := by
  rw [settle]
  cases hlookup : given.lookup key with
  | some text => simp
  | none => cases haccepts : key.accepts value <;> simp

/-- An option with its value judges the pending option, and is judged itself. -/
theorem readArguments_joined :
    readArguments given pending (("--" ++ key.name ++ "=" ++ value) :: rest) = (do
      let given ← settle given pending
      let given ← settle given (some ⟨key, some value⟩)
      readArguments given none rest) := by
  rw [readArguments, Argument.ofText_joined]
  simp only [Key.ofName?_name]

/-- An option without a value judges the pending option, and is pending itself. -/
theorem readArguments_name :
    readArguments given pending (("--" ++ key.name) :: rest) = (do
      let given ← settle given pending
      readArguments given (some ⟨key, none⟩) rest) := by
  rw [readArguments, Argument.ofText_name]
  simp only [Key.ofName?_name]

/-- A plain argument is the value of an option that waits for one. -/
theorem readArguments_value (h : Argument.ofText value = .plain value) :
    readArguments given (some ⟨key, none⟩) (value :: rest) =
      readArguments given (some ⟨key, some value⟩) rest := by
  rw [readArguments, h]

/-- An argument of another kind leaves an option that waits for a value without one. -/
theorem readArguments_waiting_ne_ok (h : Argument.ofText value ≠ .plain value) :
    readArguments given (some ⟨key, none⟩) (value :: rest) ≠ .ok result := by
  have hmissing : settle given (some ⟨key, none⟩) = .error .missingValue := rfl
  rw [readArguments, hmissing]
  -- Whatever the argument is, it is refused itself, or the option that waits is judged.
  cases hkind : Argument.ofText value with
  | plain text =>
    cases Argument.eq_of_ofText_eq_plain hkind
    exact absurd hkind h
  | divider =>
    intro hread
    dsimp only at hread
    split at hread <;> cases hread
  | long name content =>
    intro hread
    dsimp only at hread
    split at hread
    · cases hread
    · split at hread <;> cases hread
  | short letters =>
    intro hread
    dsimp only at hread
    split at hread
    · split at hread <;> cases hread
    · cases hread

variable {assignment : Assignment} {assignments : List Assignment}

/-- An assignment in one argument at the front of a command line. -/
theorem commandLine_joined :
    commandLine (⟨key, value, true⟩ :: assignments) =
      ("--" ++ key.name ++ "=" ++ value) :: commandLine assignments := rfl

/-- An assignment in two arguments at the front of a command line. -/
theorem commandLine_separate :
    commandLine (⟨key, value, false⟩ :: assignments) =
      ("--" ++ key.name) :: value :: commandLine assignments := rfl

/-- Assignments behind an option with a value judge the option first. -/
theorem readArguments_pending :
    readArguments given (some ⟨key, some value⟩) (commandLine assignments) = (do
      let given ← settle given (some ⟨key, some value⟩)
      readArguments given none (commandLine assignments)) := by
  -- Both sides judge the option where the next one is met, or at the end; so no induction.
  cases assignments with
  | nil =>
    have hend : ∀ given pending, readArguments given pending (commandLine []) =
        settle given pending := fun _ _ => rfl
    simp only [hend, settle_none]
    cases settle given (some ⟨key, some value⟩) <;> rfl
  | cons next others =>
    obtain ⟨nextKey, nextValue, joined⟩ := next
    cases joined with
    | true =>
      simp only [commandLine_joined, readArguments_joined, settle_none]
      rfl
    | false =>
      simp only [commandLine_separate, readArguments_name, settle_none]
      rfl

/-- An assignment whose value can be told from an option makes the option pending with this
value. -/
theorem readArguments_cons (h : assignment.Readable) :
    readArguments given none (commandLine (assignment :: assignments)) =
      readArguments given (some ⟨assignment.key, some assignment.value⟩)
        (commandLine assignments) := by
  obtain ⟨key, value, joined⟩ := assignment
  cases joined with
  | true =>
    rw [commandLine_joined, readArguments_joined, readArguments_pending]
    rfl
  | false =>
    have hplain : Argument.ofText value = .plain value := h.resolve_left (by simp)
    rw [commandLine_separate, readArguments_name, ← readArguments_value hplain]
    rfl

/-- An assignment whose value cannot be told from an option is refused. -/
theorem readable_of_readArguments
    (h : readArguments given none (commandLine (assignment :: assignments)) = .ok result) :
    assignment.Readable := by
  obtain ⟨key, value, joined⟩ := assignment
  cases joined with
  | true => exact Or.inl rfl
  | false =>
    by_contra hunreadable
    have hplain : Argument.ofText value ≠ .plain value := fun hplain => hunreadable (Or.inr hplain)
    rw [commandLine_separate, readArguments_name] at h
    exact readArguments_waiting_ne_ok hplain h

/-- **One assignment.** It is read when its value can be told from an option, and the option is new
and takes the value. -/
theorem readArguments_cons_eq_ok_iff :
    readArguments given none (commandLine (assignment :: assignments)) = .ok result ↔
      assignment.Readable ∧ given.lookup assignment.key = none ∧
        assignment.key.accepts assignment.value = true ∧
        readArguments (assignment.entry :: given) none (commandLine assignments) = .ok result := by
  have hpending : readArguments given (some ⟨assignment.key, some assignment.value⟩)
      (commandLine assignments) = .ok result ↔
        given.lookup assignment.key = none ∧ assignment.key.accepts assignment.value = true ∧
          readArguments (assignment.entry :: given) none (commandLine assignments) =
            .ok result := by
    rw [readArguments_pending, bind_eq_ok_iff]
    constructor
    · rintro ⟨next, hsettle, hread⟩
      obtain ⟨hnew, haccepts, rfl⟩ := settle_eq_ok_iff.mp hsettle
      exact ⟨hnew, haccepts, hread⟩
    · rintro ⟨hnew, haccepts, hread⟩
      exact ⟨_, settle_eq_ok_iff.mpr ⟨hnew, haccepts, rfl⟩, hread⟩
  constructor
  · intro h
    have hreadable := readable_of_readArguments h
    rw [readArguments_cons hreadable] at h
    exact ⟨hreadable, hpending.mp h⟩
  · rintro ⟨hreadable, hread⟩
    rw [readArguments_cons hreadable]
    exact hpending.mpr hread

/-- The text of another option is looked for further on. -/
theorem lookup_cons_of_ne {first : Key} (h : key ≠ first) :
    ((first, value) :: given).lookup key = given.lookup key := by
  rw [List.lookup_cons, beq_false_of_ne h]

/-- What a text is given for is no longer new. -/
theorem lookup_cons_eq_none_iff {entry : Key × String} :
    (entry :: given).lookup key = none ↔ entry.1 ≠ key ∧ given.lookup key = none := by
  simp only [List.lookup_eq_none_iff, List.forall_mem_cons, bne_iff_ne, ne_comm]

/-- **All assignments.** They are read when each can be, is new among those given before and takes
its value, and no two are of the same option. The texts that they give are added. -/
theorem readArguments_eq_ok_iff :
    readArguments given none (commandLine assignments) = .ok result ↔
      (∀ assignment ∈ assignments, assignment.Readable ∧ given.lookup assignment.key = none ∧
        assignment.key.accepts assignment.value = true) ∧
        (assignments.map Assignment.key).Nodup ∧
        (assignments.map Assignment.entry).reverse ++ given = result := by
  induction assignments generalizing given with
  | nil =>
    have hend : readArguments given none (commandLine []) = .ok given := rfl
    simp [hend]
  | cons assignment assignments ih =>
    rw [readArguments_cons_eq_ok_iff, ih, List.forall_mem_cons, List.map_cons, List.nodup_cons,
      List.map_cons, List.reverse_cons, List.append_assoc, List.singleton_append]
    simp only [lookup_cons_eq_none_iff, List.mem_map, not_exists, not_and]
    constructor
    · rintro ⟨hreadable, hnew, haccepts, hothers, hnodup, hresult⟩
      exact ⟨⟨⟨hreadable, hnew, haccepts⟩, fun other hother =>
        ⟨(hothers other hother).1, (hothers other hother).2.1.2, (hothers other hother).2.2⟩⟩,
        ⟨fun other hother hsame => (hothers other hother).2.1.1 hsame.symm, hnodup⟩, hresult⟩
    · rintro ⟨⟨⟨hreadable, hnew, haccepts⟩, hothers⟩, ⟨hfirst, hnodup⟩, hresult⟩
      refine ⟨hreadable, hnew, haccepts, fun other hother => ?_, hnodup, hresult⟩
      obtain ⟨hother_readable, hother_new, hother_accepts⟩ := hothers other hother
      exact ⟨hother_readable, ⟨fun hsame => hfirst other hother hsame.symm, hother_new⟩,
        hother_accepts⟩

/-! ## The environment -/

variable {environment : Environment} {keys : List Key}

/-- The environment gives the texts of those options that nothing gave before. -/
theorem lookup_addEnvironment (h : addEnvironment environment given keys = .ok result) :
    result.lookup key = (given.lookup key).or
      (if key ∈ keys then environment.lookup key.variableName else none) := by
  -- In each case of the first option, the text of that option is looked at apart from the others.
  induction keys generalizing given with
  | nil =>
    cases h
    simp
  | cons first keys ih =>
    rw [addEnvironment] at h
    cases hfirst : given.lookup first with
    | some text =>
      rw [hfirst] at h
      rw [ih h]
      by_cases hsame : key = first
      · subst hsame
        rw [hfirst]
        rfl
      · simp [hsame]
    | none =>
      rw [hfirst] at h
      cases hvariable : environment.lookup first.variableName with
      | none =>
        rw [hvariable] at h
        rw [ih h]
        by_cases hsame : key = first
        · subst hsame
          simp [hvariable]
        · simp [hsame]
      | some value =>
        rw [hvariable] at h
        obtain ⟨next, hsettle, hnext⟩ := bind_eq_ok_iff.mp h
        obtain ⟨-, -, rfl⟩ := settle_eq_ok_iff.mp hsettle
        rw [ih hnext]
        by_cases hsame : key = first
        · subst hsame
          simp [hfirst, hvariable]
        · simp [lookup_cons_of_ne hsame, hsame]

/-- The environment is taken in when its texts are values of the options that they are taken for. -/
theorem exists_addEnvironment
    (h : ∀ key, given.lookup key = none → ∀ value,
      environment.lookup key.variableName = some value → key.accepts value = true) :
    ∃ result, addEnvironment environment given keys = .ok result := by
  induction keys generalizing given with
  | nil => exact ⟨given, rfl⟩
  | cons first keys ih =>
    rw [addEnvironment]
    cases hfirst : given.lookup first with
    | some text => exact ih h
    | none =>
      cases hvariable : environment.lookup first.variableName with
      | none => exact ih h
      | some value =>
        have hsettle := settle_eq_ok_iff.mpr ⟨hfirst, h first hfirst value hvariable, rfl⟩
        obtain ⟨result, hresult⟩ := @ih ((first, value) :: given) fun key hnew =>
          h key (lookup_cons_eq_none_iff.mp hnew).2
        exact ⟨result, bind_eq_ok_iff.mpr ⟨_, hsettle, hresult⟩⟩

/-! ## Texts and settings -/

/-- Settings are what texts give if they are the parsed values of the texts. -/
theorem ofGiven_eq_ok_iff {settings : Settings} :
    ofGiven given = .ok settings ↔ Parses (textOf given) settings := by
  rw [ofGiven]
  constructor
  · intro h
    split at h
    · next bindAddress timeout hbind htimeout =>
      cases h
      exact ⟨hbind, rfl, htimeout, rfl⟩
    · cases h
  · rintro ⟨hbind, hurl, htimeout, hlevel⟩
    rw [hbind, htimeout]
    simp only [← hurl, ← hlevel]

/-- Texts of which settings are the parsed values are values of their options. -/
theorem Parses.accepts {text : Key → String} {settings : Settings} (h : Parses text settings) :
    ∀ key : Key, key.accepts (text key) = true
  | .bindAddress => Option.isSome_iff_exists.mpr ⟨_, h.bindAddress⟩
  | .nodeUrl => rfl
  | .timeout => Option.isSome_iff_exists.mpr ⟨_, h.timeout⟩
  | .logLevel => rfl

/-- If no option is given twice, then the text of an option is the one that is given with it. -/
theorem lookup_eq_some_iff_mem (h : (given.map Prod.fst).Nodup) :
    given.lookup key = some value ↔ (key, value) ∈ given := by
  induction given with
  | nil => simp
  | cons entry given ih =>
    obtain ⟨first, text⟩ := entry
    obtain ⟨hfirst, hnodup⟩ := List.nodup_cons.mp h
    by_cases hsame : key = first
    · subst hsame
      have hother : (key, value) ∉ given := fun hmem =>
        hfirst (List.mem_map.mpr ⟨(key, value), hmem, rfl⟩)
      simp [hother, eq_comm]
    · simp [lookup_cons_of_ne hsame, hsame, ih hnodup]

/-- If no option is given twice, then the order makes no difference to the text of an option. -/
theorem lookup_of_perm {other : Given} (h : given.Perm other)
    (hnodup : (given.map Prod.fst).Nodup) : given.lookup key = other.lookup key := by
  have hother : (other.map Prod.fst).Nodup := (h.map Prod.fst).nodup hnodup
  ext value
  rw [lookup_eq_some_iff_mem hnodup, lookup_eq_some_iff_mem hother, h.mem_iff]

/-! ## Acceptance -/

/-- If no two assignments are of the same option, then no two of their texts are. -/
theorem nodup_entries (hnodup : (assignments.map Assignment.key).Nodup) :
    ((assignments.map Assignment.entry).map Prod.fst).Nodup := by
  rw [List.map_map]
  exact hnodup

/-- If no option is given twice, then the assignments may give their texts in any order. -/
theorem lookup_entries_of_perm {entries : Given} (hnodup : (assignments.map Assignment.key).Nodup)
    (h : entries.Perm (assignments.map Assignment.entry)) :
    entries.lookup key = (assignments.map Assignment.entry).lookup key :=
  (lookup_of_perm h.symm (nodup_entries hnodup)).symm

/-- The texts that are given in the end are the chosen ones. -/
theorem textOf_addEnvironment (hnodup : (assignments.map Assignment.key).Nodup)
    (h : addEnvironment environment (assignments.map Assignment.entry).reverse Key.all =
      .ok result) :
    textOf result = chosen assignments environment := by
  funext key
  rw [textOf, chosen, lookup_addEnvironment h, if_pos key.mem_all,
    lookup_entries_of_perm hnodup (List.reverse_perm _)]

/-- The text that is chosen for an option that is given is the given one. -/
theorem chosen_of_mem (hnodup : (assignments.map Assignment.key).Nodup)
    (h : assignment ∈ assignments) :
    chosen assignments environment assignment.key = assignment.value := by
  have hlookup : (assignments.map Assignment.entry).lookup assignment.key = some assignment.value :=
    (lookup_eq_some_iff_mem (nodup_entries hnodup)).mpr (List.mem_map_of_mem h)
  rw [chosen, hlookup]
  rfl

/-- The text that is chosen for an option that is not given is that of its variable. -/
theorem chosen_of_lookup (hnew : (assignments.map Assignment.entry).lookup key = none)
    (h : environment.lookup key.variableName = some value) :
    chosen assignments environment key = value := by
  rw [chosen, hnew, h]
  rfl

/-- **Acceptance.** A command line of assignments is accepted when every value can be told from an
option, no option is given twice, and the texts that the sources give are parsed as settings; these
are the settings. -/
theorem resolve_eq_ok_iff {settings : Settings} :
    resolve (commandLine assignments) environment = .ok settings ↔
      (∀ assignment ∈ assignments, assignment.Readable) ∧
        (assignments.map Assignment.key).Nodup ∧
        Parses (chosen assignments environment) settings := by
  simp only [resolve, bind_eq_ok_iff, ofGiven_eq_ok_iff]
  constructor
  · rintro ⟨given, hread, result, hadd, hparses⟩
    obtain ⟨hgood, hnodup, rfl⟩ := readArguments_eq_ok_iff.mp hread
    rw [List.append_nil] at hadd
    rw [textOf_addEnvironment hnodup hadd] at hparses
    exact ⟨fun assignment hmem => (hgood assignment hmem).1, hnodup, hparses⟩
  · rintro ⟨hreadable, hnodup, hparses⟩
    have hread : readArguments [] none (commandLine assignments) =
        .ok (assignments.map Assignment.entry).reverse := by
      refine readArguments_eq_ok_iff.mpr ⟨fun assignment hmem => ?_, hnodup, List.append_nil _⟩
      have haccepts := hparses.accepts assignment.key
      rw [chosen_of_mem hnodup hmem] at haccepts
      exact ⟨hreadable assignment hmem, rfl, haccepts⟩
    have hvariables : ∀ key, (assignments.map Assignment.entry).reverse.lookup key = none →
        ∀ value, environment.lookup key.variableName = some value → key.accepts value = true := by
      intro key hnew value hvariable
      rw [lookup_entries_of_perm hnodup (List.reverse_perm _)] at hnew
      have haccepts := hparses.accepts key
      rwa [chosen_of_lookup hnew hvariable] at haccepts
    obtain ⟨result, hadd⟩ := @exists_addEnvironment _ environment Key.all hvariables
    rw [← textOf_addEnvironment hnodup hadd] at hparses
    exact ⟨_, hread, result, hadd, hparses⟩

/-! ## Other command lines and environments -/

variable {others rewritten : List Assignment} {environment' : Environment}

/-- An option for which no text is found is of no assignment. -/
theorem not_mem_of_lookup_eq_none (h : (assignments.map Assignment.entry).lookup key = none) :
    key ∉ assignments.map Assignment.key := by
  intro hmem
  obtain ⟨assignment, hassignment, hkey⟩ := List.mem_map.mp hmem
  have hdiffers := List.lookup_eq_none_iff.mp h _ (List.mem_map_of_mem hassignment)
  exact bne_iff_ne.mp hdiffers hkey.symm

/-- The chosen texts depend neither on the order and spelling of the assignments nor on the variables
of options that are given. -/
theorem chosen_congr (hnodup : (assignments.map Assignment.key).Nodup)
    (hentries : (others.map Assignment.entry).Perm (assignments.map Assignment.entry))
    (hagree : ∀ key ∉ assignments.map Assignment.key,
      environment'.lookup key.variableName = environment.lookup key.variableName) :
    chosen others environment' = chosen assignments environment := by
  funext key
  rw [chosen, chosen, lookup_entries_of_perm hnodup hentries]
  cases hlookup : (assignments.map Assignment.entry).lookup key with
  | some text => rfl
  | none => rw [hagree key (not_mem_of_lookup_eq_none hlookup)]

/-- Assignments that are rewritten give the same texts. -/
theorem map_entry_rewritten (h : List.Forall₂ Assignment.Rewrites assignments rewritten) :
    rewritten.map Assignment.entry = assignments.map Assignment.entry := by
  induction h with
  | nil => rfl
  | cons hfirst _ ih =>
    rw [List.map_cons, List.map_cons, ih]
    rcases hfirst with rfl | rfl <;> rfl

/-- Values that can be told from an option still can when assignments are rewritten. -/
theorem readable_rewritten (h : List.Forall₂ Assignment.Rewrites assignments rewritten)
    (hreadable : ∀ assignment ∈ assignments, assignment.Readable) :
    ∀ assignment ∈ rewritten, assignment.Readable := by
  induction h with
  | nil => exact hreadable
  | cons hfirst _ ih =>
    obtain ⟨hbefore, hothers⟩ := List.forall_mem_cons.mp hreadable
    refine List.forall_mem_cons.mpr ⟨?_, ih hothers⟩
    rcases hfirst with rfl | rfl
    · exact hbefore
    · exact Or.inl rfl

/-- **Precedence.** Let a command line consist of assignments. If it is accepted, then no option is
given twice, and each setting is the parsed value of its option, else of its environment variable,
else of the default. With assignments in another order and some of them in one argument, and with
any other texts, or none, in the variables of options that are given, the settings are the same.

If an option is given twice, then the command line is refused. -/
theorem sources_take_precedence (assignments : List Assignment) (environment : Environment) :
    (∀ settings, resolve (commandLine assignments) environment = .ok settings →
      (assignments.map Assignment.key).Nodup ∧
        Parses (chosen assignments environment) settings ∧
        ∀ rewritten others environment',
          List.Forall₂ Assignment.Rewrites assignments rewritten → rewritten.Perm others →
          (∀ key ∉ assignments.map Assignment.key,
            environment'.lookup key.variableName = environment.lookup key.variableName) →
          resolve (commandLine others) environment' = .ok settings) ∧
      (¬ (assignments.map Assignment.key).Nodup →
        ∀ settings, resolve (commandLine assignments) environment ≠ .ok settings) := by
  refine ⟨fun settings h => ?_, fun htwice settings h => htwice (resolve_eq_ok_iff.mp h).2.1⟩
  obtain ⟨hreadable, hnodup, hparses⟩ := resolve_eq_ok_iff.mp h
  refine ⟨hnodup, hparses, ?_⟩
  intro rewritten others environment' hrewritten hperm hagree
  have hentries : (others.map Assignment.entry).Perm (assignments.map Assignment.entry) := by
    rw [← map_entry_rewritten hrewritten]
    exact (hperm.map Assignment.entry).symm
  have hkeys : (others.map Assignment.key).Perm (assignments.map Assignment.key) := by
    have hfirst := hentries.map Prod.fst
    rwa [List.map_map, List.map_map] at hfirst
  refine resolve_eq_ok_iff.mpr ⟨fun other hother => ?_, hkeys.nodup_iff.mpr hnodup, ?_⟩
  · exact readable_rewritten hrewritten hreadable other (hperm.mem_iff.mpr hother)
  · rwa [chosen_congr hnodup hentries hagree]

/-- An address and a deadline in the other order, the deadline in one argument, and a variable of the
deadline that is no number: the settings are the same. A log level given twice is refused. -/
theorem sources_take_precedence_sample :
    let before : List Assignment :=
      [⟨.bindAddress, "0.0.0.0:9000", false⟩, ⟨.timeout, "2500", false⟩]
    let after : List Assignment :=
      [⟨.timeout, "2500", true⟩, ⟨.bindAddress, "0.0.0.0:9000", false⟩]
    let repeated : List Assignment := [⟨.logLevel, "warn", false⟩, ⟨.logLevel, "warn", true⟩]
    let settings : Settings :=
      ⟨.v4 ⟨0, 0, 0, 0⟩ 9000, Key.default .nodeUrl, ⟨2500⟩, "debug"⟩
    commandLine before = ["--bind-addr", "0.0.0.0:9000", "--rpc-timeout-ms", "2500"] ∧
      commandLine after = ["--rpc-timeout-ms=2500", "--bind-addr", "0.0.0.0:9000"] ∧
      resolve (commandLine before) [("LOG_LEVEL", "debug"), ("RPC_TIMEOUT_MS", "60000")] =
        .ok settings ∧
      resolve (commandLine after) [("RPC_TIMEOUT_MS", "soon"), ("LOG_LEVEL", "debug")] =
        .ok settings ∧
      ∀ settings, resolve (commandLine repeated) [] ≠ .ok settings := by
  intro before after repeated settings
  have hbefore : resolve (commandLine before)
      [("LOG_LEVEL", "debug"), ("RPC_TIMEOUT_MS", "60000")] = .ok settings := rfl
  obtain ⟨-, -, hsame⟩ := (sources_take_precedence before _).1 settings hbefore
  refine ⟨rfl, rfl, hbefore, ?_, (sources_take_precedence repeated []).2 (by decide)⟩
  refine hsame [⟨.bindAddress, "0.0.0.0:9000", false⟩, ⟨.timeout, "2500", true⟩] after _
    (.cons (Or.inl rfl) (.cons (Or.inr rfl) .nil)) (List.Perm.swap _ _ []) ?_
  intro key hkey
  cases key with
  | bindAddress | timeout => exact absurd (by decide) hkey
  | nodeUrl | logLevel => rfl

end TxGateway.Settings
