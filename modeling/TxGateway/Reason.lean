import TxGateway.Text.LetterCase
/-!
# Reasons

The closed set of reasons for which a submission fails and on which a caller can act, and how a
node's error text is searched for them. Nodes word their errors differently, so the search looks for
keywords anywhere in the text, in any letter case; the first keyword of the method's table that
occurs decides.
-/

namespace TxGateway

/-- Why a submission failed, as far as a retry can depend on it. -/
inductive Reason where
  | invalidInputs
  | nonceTooLow
  | insufficientFunds
  | transactionUnderpriced
  | knownTransaction
  | transactionReverted
deriving DecidableEq, Repr

namespace Reason

/-- All reasons. -/
def all : List Reason :=
  [invalidInputs, nonceTooLow, insufficientFunds, transactionUnderpriced, knownTransaction,
    transactionReverted]

/-- The name of a reason in answers. -/
def name : Reason → String
  | invalidInputs => "invalid_inputs"
  | nonceTooLow => "nonce_too_low"
  | insufficientFunds => "insufficient_funds"
  | transactionUnderpriced => "transaction_underpriced"
  | knownTransaction => "known_transaction"
  | transactionReverted => "transaction_reverted"

end Reason

/-- The methods of a node that have a part in submissions. -/
inductive Node.Method where
  | sendTransaction
  | sendRawTransaction
  | call
  | estimateGas
  | netVersion
deriving DecidableEq, Repr

/-- Keywords and the reasons they stand for, in the order in which they are looked up. -/
abbrev Keywords := List (String × Reason)

/-- The reason of the first keyword that occurs in a text, in any letter case. -/
def Keywords.classify (keywords : Keywords) (text : String) : Option Reason :=
  let lowered := Text.lower text.toList
  (keywords.find? fun entry => Text.occursIn entry.1.toList lowered).map Prod.snd

@[simp] theorem Keywords.classify_nil (text : String) : Keywords.classify [] text = none := rfl

namespace Node.Method

/-- The name under which a node offers the method. -/
def name : Node.Method → String
  | sendTransaction => "eth_sendTransaction"
  | sendRawTransaction => "eth_sendRawTransaction"
  | call => "eth_call"
  | estimateGas => "eth_estimateGas"
  | netVersion => "net_version"

/-- The method with a given name. -/
def ofName? (name : String) : Option Node.Method :=
  [sendTransaction, sendRawTransaction, call, estimateGas, netVersion].find? fun method =>
    method.name == name

/-- What nodes say when they refuse a transaction. -/
def submissionKeywords : Keywords :=
  [("nonce too low", .nonceTooLow), ("insufficient funds", .insufficientFunds),
    ("transaction underpriced", .transactionUnderpriced), ("known transaction", .knownTransaction),
    ("already known", .knownTransaction)]

/-- What nodes say when the execution of a call fails. -/
def executionKeywords : Keywords := [("execution reverted", .transactionReverted)]

/-- The keywords that are looked up in errors of a method. -/
def keywords : Node.Method → Keywords
  | sendTransaction | sendRawTransaction => submissionKeywords
  | call | estimateGas => executionKeywords
  | netVersion => []

theorem ofName?_name (method : Node.Method) : ofName? method.name = some method := by
  cases method <;> rfl

end Node.Method

/-- The reason behind an error text of the method with the given name; an unknown method has none.
-/
def Reason.classify (method : String) (text : String) : Option Reason :=
  match Node.Method.ofName? method with
  | some known => known.keywords.classify text
  | none => none

theorem Reason.classify_name (method : Node.Method) (text : String) :
    Reason.classify method.name text = method.keywords.classify text := by
  simp [Reason.classify, Node.Method.ofName?_name]

end TxGateway
