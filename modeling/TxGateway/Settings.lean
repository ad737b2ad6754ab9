import TxGateway.Duration
import TxGateway.SocketAddress
/-!
# Settings

The four settings of the gateway, from three sources: a flag wins over an environment variable, and
that over the default. Flags are read from left to right; the value of an option is judged when the
next option or flag is met, or at the end of the arguments, and an argument that is not understood
ends the reading before that.
-/

namespace TxGateway

/-- The settings of the gateway. -/
structure Settings where
  bindAddress : SocketAddress
  nodeUrl : String
  timeout : Duration
  logLevel : String
deriving DecidableEq

namespace Settings

/-- The name of the program. -/
def programName : String := "evm-send-connector"

/-- The version of the program. -/
def version : String := "0.1.0"

/-- What the program says when it is asked for its version. -/
def versionText : String := programName ++ " " ++ version

/-- An option: a setting that a flag can give. -/
inductive Key where
  | bindAddress
  | nodeUrl
  | timeout
  | logLevel
deriving DecidableEq, Repr

namespace Key

/-- All options, in order. -/
def all : List Key := [bindAddress, nodeUrl, timeout, logLevel]

/-- The name of an option on the command line, without the dashes. -/
def name : Key → String
  | bindAddress => "bind-addr"
  | nodeUrl => "rpc-url"
  | timeout => "rpc-timeout-ms"
  | logLevel => "log-level"

/-- The environment variable of an option. -/
def variableName : Key → String
  | bindAddress => "BIND_ADDR"
  | nodeUrl => "ETH_RPC_URL"
  | timeout => "RPC_TIMEOUT_MS"
  | logLevel => "LOG_LEVEL"

/-- The value of an option that nothing gives. -/
def default : Key → String
  | bindAddress => "127.0.0.1:3030"
  | nodeUrl => "https://eth-mainnet.alchemyapi.io/v2/demo"
  | timeout => "30000"
  | logLevel => "info"

/-- The option with a given name. -/
def ofName? (name : String) : Option Key := all.find? fun key => key.name == name

theorem mem_all (key : Key) : key ∈ all := by cases key <;> decide

theorem ofName?_name (key : Key) : ofName? key.name = some key := by cases key <;> rfl

end Key

/-- Why there are no settings. The last two are asked for. -/
inductive SettingsError where
  /-- An argument that is no known option or flag, and no value either. -/
  | unknownArgument
  /-- An option stands without a value. -/
  | missingValue
  /-- A value is not what its option takes. -/
  | invalidValue
  | repeatedOption
  /-- A flag that takes no value is given one. -/
  | unwantedValue
  | help
  | version
deriving DecidableEq, Repr

namespace SettingsError

/-- What the program says instead of running. -/
def message : SettingsError → String
  | unknownArgument => "error: unexpected argument found"
  | missingValue => "error: a value is required for an option but none was supplied"
  | invalidValue => "error: invalid value for an option"
  | repeatedOption => "error: an option cannot be used multiple times"
  | unwantedValue => "error: unexpected value for a flag found"
  | help => "Usage: " ++ programName ++ " [OPTIONS]"
  | version => versionText

/-- Whether it is what the user asked for. -/
def isAskedFor : SettingsError → Bool
  | help | version => true
  | _ => false

end SettingsError

/-! ## Values -/

/-- The number of milliseconds that a text denotes: digits, perhaps after a plus sign, for a number
of 64 bits. -/
def milliseconds? (text : String) : Option Nat :=
  let digits :=
    match text.toList with
    | '+' :: digits => digits
    | digits => digits
  if digits.isEmpty || !digits.all (Digits.isDigit 10) then none
  else if Digits.ofDigits 10 digits < Digits.capacity 2 64 then some (Digits.ofDigits 10 digits)
  else none

/-- Whether a text is a value of an option. -/
def Key.accepts (key : Key) (text : String) : Bool :=
  match key with
  | bindAddress => (SocketAddress.ofText? text).isSome
  | timeout => (milliseconds? text).isSome
  | nodeUrl | logLevel => true

/-! ## Arguments -/

/-- The texts that sources give for options. -/
abbrev Given := List (Key × String)

/-- An option on the command line whose value has not been judged: the value is still to come, or
given. -/
structure Pending where
  key : Key
  value : Option String
deriving DecidableEq, Repr

/-- Judges the pending option and adds it to those given. -/
def settle (given : Given) : Option Pending → Except SettingsError Given
  | none => .ok given
  | some ⟨_, none⟩ => .error .missingValue
  | some ⟨key, some value⟩ =>
    if (given.lookup key).isSome then .error .repeatedOption
    else if key.accepts value then .ok ((key, value) :: given)
    else .error .invalidValue

@[simp] theorem settle_none (given : Given) : settle given none = .ok given := rfl

/-- What an argument is. -/
inductive Argument where
  /-- The mark behind which no option stands. -/
  | divider
  /-- Two dashes and a name, perhaps with a value after an equals sign. -/
  | long (name : String) (value : Option String)
  /-- A dash and letters. -/
  | short (letters : List Char)
  /-- Anything else; also a dash alone. -/
  | plain (text : String)
deriving DecidableEq, Repr

/-- Takes an argument apart. -/
def Argument.ofText (text : String) : Argument :=
  match text.toList with
  | ['-', '-'] => .divider
  | '-' :: '-' :: rest =>
    let name := String.ofList (rest.takeWhile (· != '='))
    match rest.dropWhile (· != '=') with
    | _ :: value => .long name (some (String.ofList value))
    | [] => .long name none
  | ['-'] => .plain text
  | '-' :: letters => .short letters
  | _ => .plain text

/-- The flag that a letter stands for. -/
def ofLetter : Char → SettingsError
  | 'h' => .help
  | 'V' => .version
  | _ => .unknownArgument

/-- The flag with a given name that takes no value. -/
def flag? (name : String) : Option SettingsError :=
  if name = "help" then some .help else if name = "version" then some .version else none

/-- Asks for something other than settings, once the pending option is judged. -/
def ask (given : Given) (pending : Option Pending) (flag : SettingsError) :
    Except SettingsError Given := do
  let _ ← settle given pending
  throw flag

/-- Reads the arguments that are left, with the options given and the one pending. -/
def readArguments (given : Given) (pending : Option Pending) :
    List String → Except SettingsError Given
  | [] => settle given pending
  | argument :: arguments =>
    match Argument.ofText argument with
    | .divider => if arguments.isEmpty then settle given pending else throw .unknownArgument
    | .long name value =>
      match Key.ofName? name with
      | some key => do
        let given ← settle given pending
        match value with
        | some value => do
          let given ← settle given (some ⟨key, some value⟩)
          readArguments given none arguments
        | none => readArguments given (some ⟨key, none⟩) arguments
      | none =>
        match flag? name, value with
        | some flag, none => ask given pending flag
        | some _, some _ => throw .unwantedValue
        | none, _ => throw .unknownArgument
    | .short letters =>
      match letters with
      | letter :: _ =>
        if ofLetter letter = .unknownArgument then throw .unknownArgument
        else ask given pending (ofLetter letter)
      | [] => throw .unknownArgument
    | .plain text =>
      match pending with
      | some ⟨key, none⟩ => readArguments given (some ⟨key, some text⟩) arguments
      | _ => throw .unknownArgument

/-! ## Sources -/

/-- The texts of environment variables. -/
abbrev Environment := List (String × String)

/-- Adds what the environment gives for options that no flag gives. -/
def addEnvironment (environment : Environment) (given : Given) :
    List Key → Except SettingsError Given
  | [] => .ok given
  | key :: keys =>
    if (given.lookup key).isSome then addEnvironment environment given keys
    else
      match environment.lookup key.variableName with
      | some value => do
        let given ← settle given (some ⟨key, some value⟩)
        addEnvironment environment given keys
      | none => addEnvironment environment given keys

/-- The text of an option: the one given, or the default. -/
def textOf (given : Given) (key : Key) : String := (given.lookup key).getD key.default

/-- The settings that texts give. -/
def ofGiven (given : Given) : Except SettingsError Settings :=
  match SocketAddress.ofText? (textOf given .bindAddress),
    milliseconds? (textOf given .timeout) with
  | some bindAddress, some timeout =>
    .ok {
      bindAddress, nodeUrl := textOf given .nodeUrl, timeout := ⟨timeout⟩,
      logLevel := textOf given .logLevel }
  | _, _ => .error .invalidValue

/-- The settings from arguments and environment. -/
def resolve (arguments : List String) (environment : Environment) :
    Except SettingsError Settings := do
  let given ← readArguments [] none arguments
  let given ← addEnvironment environment given Key.all
  ofGiven given

end Settings

end TxGateway
