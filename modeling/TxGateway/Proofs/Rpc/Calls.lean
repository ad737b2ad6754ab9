import TxGateway.Rpc.Service
import TxGateway.Proofs.Json.Integer
import TxGateway.Proofs.Preparation
import TxGateway.Proofs.Rpc.Params
/-!
# Calls of the gateway

A call is written as the text of a request with an identifier, a method and parameters.

* `parse_requestText` : its envelope holds just these, whatever well-formed value the parameters
  are;
* `positional_and_named_agree` : a submission by a positional parameter and one by a named parameter
  have the same reply and the same calls of the node, and both are what the connector does with the
  request on its own.
-/

namespace TxGateway.Rpc

open Json Fallible

/-! ## The text of a call -/

/-- An identifier that a request can carry: a number has at most 64 bits. -/
def Id.Usable : Id → Prop
  | null | text _ => True
  | number value => value < Digits.capacity 2 64

/-- The text of a request whose parameters are written as `params`. -/
def requestText (id : Id) (method params : String) : String :=
  "\x7b\"jsonrpc\":\"2.0\",\"id\":" ++ id.toJson.compact ++ ",\"method\":" ++
    (Json.string method).compact ++ ",\"params\":" ++ params ++ "\x7d"

/-- Parameters that hold one value by its place. -/
def positionalParams (text : String) : String := "[" ++ text ++ "]"

/-- Parameters that hold one value under the name `request`. -/
def namedParams (text : String) : String := "\x7b\"request\":" ++ text ++ "\x7d"

/-- An identifier is printed as a JSON value. -/
theorem Id.legible_toJson (id : Id) : id.toJson.Legible := by
  cases id with
  | null | text => trivial
  | number value =>
    show Numeral.check (Digits.decimalText value).toList = .ok ()
    rw [Digits.decimalText, String.toList_ofList]
    exact Numeral.check_decimal value

/-- A usable identifier is read back. -/
theorem Id.read_outline {id : Id} (h : id.Usable) (depth : Nat) :
    Id.read depth id.toJson.outline = .ok id := by
  cases id with
  | null => rfl
  | text value =>
    show (faulty (Spelling.ofText value).decode).map Id.text = _
    rw [Spelling.decode_ofText]
    rfl
  | number value =>
    have hfits := Numeral.fitsWord_natCast_iff.mpr h
    show Id.read depth (.number (Digits.decimalText value).toList) = _
    rw [Digits.decimalText, String.toList_ofList]
    simp [Id.read, Numeral.integer?_decimal, hfits]

/-- An identifier that was read is usable. -/
theorem Id.usable_of_read {id : Id} {depth : Nat} {outline : Outline}
    (h : Id.read depth outline = .ok id) : id.Usable := by
  unfold Id.read at h
  split at h
  · cases h
    trivial
  · split at h
    · next value hvalue =>
      split at h
      · next hfits =>
        -- A number is read only where it is not negative and fits a machine word.
        cases h
        obtain ⟨hnonneg, hfits⟩ := hfits
        rw [← Int.toNat_of_nonneg hnonneg] at hfits
        exact Numeral.fitsWord_natCast_iff.mp hfits
      · cases h
    · cases h
  · obtain ⟨text, -, rfl⟩ := map_eq_ok_iff.mp h
    trivial
  · cases h

/-- The members of a request. -/
def requestMembers (id : Id) (method : String) (params : Outline) : List Member :=
  [(.ofText "jsonrpc", .string (.ofText "2.0")), (.ofText "id", id.toJson.outline),
    (.ofText "method", .string (.ofText method)), (.ofText "params", params)]

/-- The text of a request, member by member. -/
theorem toList_requestText (id : Id) (method params : String) :
    (requestText id method params).toList =
      '{' :: ((printString "jsonrpc" ++ ':' :: printString "2.0") ++
        ',' :: ((printString "id" ++ ':' :: id.toJson.print) ++
          ',' :: ((printString "method" ++ ':' :: printString method) ++
            ',' :: ((printString "params" ++ ':' :: params.toList) ++ ['}'])))) := by
  have hid : "\x7b\"jsonrpc\":\"2.0\",\"id\":".toList =
      '{' :: (printString "jsonrpc" ++
        ':' :: (printString "2.0" ++ ',' :: (printString "id" ++ [':']))) := by
    simp [printString, escape]
  have hmethod : ",\"method\":".toList = ',' :: (printString "method" ++ [':']) := by
    simp [printString, escape]
  have hparams : ",\"params\":".toList = ',' :: (printString "params" ++ [':']) := by
    simp [printString, escape]
  have hend : "\x7d".toList = ['}'] := by simp
  have hname : (Json.string method).print = printString method := by rw [print]
  have hcompact : ∀ value : Json, value.compact.toList = value.print :=
    fun _ => String.toList_ofList
  unfold requestText
  simp only [String.toList_append, hcompact, hid, hmethod, hparams, hend, hname, List.append_assoc,
    List.cons_append, List.nil_append]

/-- The text of a request spells its members. -/
theorem spells_requestText (id : Id) (method : String) {params : String} {outline : Outline}
    (h : Spells params.toList outline) :
    Spells (requestText id method params).toList
      (.object (requestMembers id method outline) .closed) := by
  have hversion : Spells (printString "2.0") (.string (.ofText "2.0")) := spells_printString "2.0"
  have hmethod := spells_printString method
  have hid := spells_print id.toJson id.legible_toJson
  rw [toList_requestText]
  exact .object space_nil (spells_printMember "jsonrpc" hversion)
    (.next space_nil space_nil (spells_printMember "id" hid)
      (.next space_nil space_nil (spells_printMember "method" hmethod)
        (.next space_nil space_nil (spells_printMember "params" h) (.close space_nil))))

/-- Parameters other than `null` are taken as they are written. -/
theorem optional_readWritten {outline : Outline} (hnull : outline ≠ .null)
    (hskip : outline.skip = .ok ()) (depth : Nat) :
    Reader.optional readWritten depth outline = .ok (some outline) := by
  rw [Reader.optional_of_ne_null readWritten depth hnull, readWritten, hskip]
  rfl

/-- **The envelope of a call.** It holds the identifier, the method and the parameters of the call.
-/
theorem parse_requestText {id : Id} (hid : id.Usable) (method : String) {params : String}
    {outline : Outline} (h : Spells params.toList outline) (hnull : outline ≠ .null) :
    Envelope.read.parse (requestText id method params) = .ok ⟨id, method, some outline⟩ := by
  rw [Reader.parse_of_isText Envelope.read (spells_requestText id method h).isText]
  have hversion : (readVersion 126 (.string (.ofText "2.0"))).map
      (fun _ (envelope : Envelope) => envelope) = .ok fun envelope => envelope := by
    rw [readVersion, Reader.judged, Reader.text, Spelling.decode_ofText]
    rfl
  have hident : (Id.read 126 id.toJson.outline).map
      (fun id (envelope : Envelope) => { envelope with id := id }) =
        .ok fun envelope => { envelope with id := id } := by
    rw [Id.read_outline hid]
    rfl
  have hmethod : (Reader.text 126 (.string (.ofText method))).map
      (fun method (envelope : Envelope) => { envelope with method := method }) =
        .ok fun envelope => { envelope with method := method } := by
    rw [Reader.text, Spelling.decode_ofText]
    rfl
  have hparams : (Reader.optional readWritten 126 outline).map
      (fun params (envelope : Envelope) => { envelope with params := params }) =
        .ok fun envelope => { envelope with params := some outline } := by
    rw [optional_readWritten hnull h.skip_eq]
    rfl
  have hmembers : Envelope.layout.readMembers 126 (requestMembers id method outline) []
      Envelope.layout.blank =
        .ok (["params", "method", "id", "jsonrpc"], ⟨id, method, some outline⟩) := by
    rw [requestMembers, Layout.readMembers_cons Envelope.layout rfl hversion (by simp),
      Layout.readMembers_cons Envelope.layout rfl hident (by simp),
      Layout.readMembers_cons Envelope.layout rfl hmethod (by simp),
      Layout.readMembers_cons Envelope.layout rfl hparams (by simp)]
    rfl
  exact Layout.readObject_of_readMembers hmembers rfl

/-! ## The two forms of a submission -/

/-- A text between brackets spells the parameters that hold its value. -/
theorem spells_positionalParams {text : String} {root : Outline}
    (h : Json.IsText text.toList root) :
    ∃ blank, Spells (positionalParams text).toList (.array blank [root] .closed) := by
  have htext : (positionalParams text).toList = '[' :: (text.toList ++ [']']) := by
    simp [positionalParams, String.toList_append]
  rw [htext]
  generalize text.toList = characters at h
  obtain @⟨before, value, after, _, hbefore, hafter, hvalue⟩ := h
  refine ⟨!before.isEmpty, ?_⟩
  rw [List.append_assoc, List.append_assoc]
  exact .array hbefore hvalue (.close hafter)

/-- A text behind the name `request` spells the parameters that hold its value under this name. -/
theorem spells_namedParams {text : String} {root : Outline}
    (h : Json.IsText text.toList root) :
    Spells (namedParams text).toList (.object [(.ofText "request", root)] .closed) := by
  have htext : (namedParams text).toList =
      '{' :: (printString "request" ++ ':' :: (text.toList ++ ['}'])) := by
    simp [namedParams, String.toList_append, printString, escape]
  rw [htext]
  generalize text.toList = characters at h
  obtain @⟨before, value, after, _, hbefore, hafter, hvalue⟩ := h
  have hmember : SpellsMember (printString "request" ++ ':' :: (before ++ value))
      (.ofText "request", root) := by
    rw [← Spelling.text_ofText]
    exact .member (Spelling.wellFormed_ofText "request") space_nil hbefore hvalue
  have hobject := Spells.object space_nil hmember (.close hafter)
  simpa only [List.nil_append, List.append_assoc, List.cons_append] using hobject

/-- The answer to a submission depends on the parameters as they are read. -/
theorem answer_sendTransaction (connector : Connector) (node : Node.Behaviour) (id : Id)
    (params : Option Outline) :
    answer connector node ⟨id, "send_transaction", params⟩ =
      match readParams params with
      | .ok request =>
        (connector.submit node request).map fun outcome => ⟨id, .ofSubmission outcome⟩
      | .error cause => .silent ⟨id, .error (.invalidParams cause)⟩ := by
  have hmethod : ServiceMethod.ofName? "send_transaction" = some .sendTransaction := rfl
  rw [answer, hmethod]
  show (runMethod connector node .sendTransaction params).map _ = _
  cases h : readParams params <;> simp [runMethod, h, Exchange.map, Exchange.silent]

/-- A reply with a result, as it is sent. -/
def sentResult (id : Id) (result : Json) : Json :=
  .object [("jsonrpc", .string "2.0"), ("result", result), ("id", id.toJson)]

/-- A reply with an error that has data, as it is sent. -/
def sentError (id : Id) (code : Int) (message : String) (data : Json) : Json :=
  .object [("jsonrpc", .string "2.0"),
    ("error", .object [("code", .number (Digits.signedText code)), ("message", .string message),
      ("data", data)]),
    ("id", id.toJson)]

/-- What is sent for the outcome of a submission: the hash, or the failure in its own words and with
the body that callers are told. -/
def sentSubmission (id : Id) : Except ConnectorError Receipt → Json
  | .ok receipt => sentResult id (.object [("transactionHash", .string receipt.hash.text)])
  | .error failure => sentError id (-32603) failure.message failure.body.toJson

/-- The reply to a submission is sent as its outcome is. -/
theorem toJson_ofSubmission (id : Id) (outcome : Except ConnectorError Receipt) :
    Reply.toJson ⟨id, .ofSubmission outcome⟩ = sentSubmission id outcome := by
  cases outcome <;> rfl

/-- **Two forms and the request itself.** A submission by a positional parameter and one by a named
parameter are answered alike, and as the text on its own is: a request is submitted with the calls
and the outcome that it has at the connector, and a text that states none is refused with the cause
and leads to no call. -/
theorem positional_and_named_agree (connector : Connector) (node : Node.Behaviour) {id : Id}
    (hid : id.Usable) {text : String} {root : Outline} (h : Json.IsText text.toList root)
    (hnesting : root.nesting ≤ 126) :
    let positional :=
      answerText connector node (requestText id "send_transaction" (positionalParams text))
    let named := answerText connector node (requestText id "send_transaction" (namedParams text))
    named = positional ∧
      match SendRequest.parse text with
      | .ok request =>
        positional.calls = (connector.submit node request).calls ∧
          ∃ reply, positional.outcome = .ok reply ∧
            reply.toJson = sentSubmission id (connector.submit node request).outcome
      | .error cause =>
        positional.calls = [] ∧
          ∃ reply, positional.outcome = .ok reply ∧
            reply.toJson = sentError id (-32602) "Invalid params" (.string cause.message) := by
  obtain ⟨blank, harray⟩ := spells_positionalParams h
  have hobject := spells_namedParams h
  have hpositional : answerText connector node
      (requestText id "send_transaction" (positionalParams text)) =
        (answer connector node
          ⟨id, "send_transaction", some (.array blank [root] .closed)⟩).map .ok := by
    rw [answerText, parse_requestText hid _ harray (fun h => by cases h)]
  have hnamed : answerText connector node
      (requestText id "send_transaction" (namedParams text)) =
        (answer connector node ⟨id, "send_transaction",
          some (.object [(.ofText "request", root)] .closed)⟩).map .ok := by
    rw [answerText, parse_requestText hid _ hobject (fun h => by cases h)]
  have hread : SendRequest.parse text = SendRequest.read maxDepth root :=
    SendRequest.read.parse_of_isText h
  have hsame := readParams_named_eq_positional hnesting blank
  have hparams := readParams_positional blank root
  rw [answer_sendTransaction] at hpositional hnamed
  constructor
  · rw [hpositional, hnamed, hsame]
  · show (match SendRequest.parse text with | .ok _ => _ | .error _ => _)
    rw [hread, hpositional]
    cases hroot : SendRequest.read maxDepth root with
    | ok request =>
      rw [hparams, hroot]
      exact ⟨rfl, _, rfl, toJson_ofSubmission id _⟩
    | error cause =>
      rw [hparams, hroot]
      exact ⟨rfl, _, rfl, rfl⟩

/-- A submission that is signed already, as a JSON value. -/
def signedSample : Json :=
  .object [("preSigned", .bool true), ("transactionData", .string "0xfE")]

/-- The two forms of a call with the sample, to a node that does not answer. -/
theorem positional_and_named_agree_signed :
    Id.Usable (.number 7) ∧ Json.IsText signedSample.compact.toList signedSample.outline ∧
      signedSample.outline.nesting ≤ 126 ∧
      SendRequest.parse signedSample.compact = .ok (.signed "0xfE") ∧
      let positional := answerText ⟨⟨30000⟩⟩ .silent
        (requestText (.number 7) "send_transaction" (positionalParams signedSample.compact))
      let named := answerText ⟨⟨30000⟩⟩ .silent
        (requestText (.number 7) "send_transaction" (namedParams signedSample.compact))
      named = positional ∧
        positional.calls = [⟨.sendRawTransaction, .array [.string "0xfe"]⟩] ∧
        ∃ reply, positional.outcome = .ok reply ∧
          reply.toJson = sentSubmission (.number 7)
            (.error (.timedOut .sendRawTransaction ⟨30000⟩)) := by
  have hid : Id.Usable (.number 7) := by
    show 7 < Digits.capacity 2 64
    decide
  have hlegible : signedSample.Legible := ⟨trivial, trivial, trivial⟩
  have htext := isText_compact hlegible
  have hnesting : signedSample.outline.nesting ≤ 126 := by decide
  have hparse : SendRequest.parse signedSample.compact = .ok (.signed "0xfE") :=
    SendRequest.read.parse_of_isText htext
  have hagree := positional_and_named_agree ⟨⟨30000⟩⟩ .silent hid htext hnesting
  rw [hparse] at hagree
  exact ⟨hid, htext, hnesting, hparse, hagree⟩

end TxGateway.Rpc
