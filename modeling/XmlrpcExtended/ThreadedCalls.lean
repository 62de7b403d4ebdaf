import XmlrpcExtended.PythonNumerals
import XmlrpcExtended.RemoteCalls
import XmlrpcExtended.RequestGate

namespace XmlrpcExtended.Http
open Dispatch Charset

variable {World : Type} {isNone : Value → Bool}

-- What the handler writes: an error, a response whose body is as it is or packed by gzip, or nothing.
inductive Reply where
  | refused (answer : Handler.Answer)
  | response (packed : Bool) (body : Bytes)
  | nothing

def encodeThreshold : Nat := 1400

-- LimitedXMLRPCRequestHandler.do_POST to its end. `accepts` is whether the request takes gzip.
def doPost (py : Python Value Exn World) (parse : Parse) (encode : Text → Option (Text → Bytes)) (gunzip : Handler.Gunzip)
    (gzipEncode : Bytes → Bytes) (h : Handler.HandlerClass) (app : XMLRPCASGIApp isNone) (accepts : Bool) (r : Handler.Request)
    (w : World) : Reply × World :=
  match h.doPost gunzip r with
  | .dispatched data =>
    match marshaledDispatch py parse encode app data w with
    | .ok response next =>
      (if encodeThreshold < response.length ∧ accepts then .response true (gzipEncode response)
        else .response false response,next)
    | .error failure next => (if failure.ordinary then .refused .internal else .nothing,next)
  | answer => (.refused answer,w)

def errorStatus : Handler.Answer → Nat
  | .error code _ => code
  | .notFound => 404
  | .unsupported _ => 501
  | .undecodable => 400
  | .internal => 500
  | .dispatched _ => 200

-- The request that Transport.send_request makes of a body.
def posted (path host user_agent : Text) (body : Bytes) : Handler.Request :=
  ⟨path,[(text "Host",host),(text "Accept-Encoding",text "gzip"),(text "Content-Type",text "text/xml"),
    (text "User-Agent",user_agent),(text "Content-Length",text (body.length.repr))],body,false⟩

-- What the client makes of a reply, with its own gzip decoder.
def parseReply (decode : Bytes → Option Text) (unpack : Bytes → Option Bytes) : Reply → Outcome
  | .refused answer => .protocolError (errorStatus answer)
  | .response false body => parseResponse decode body
  | .response true body => ((unpack body).map (parseResponse decode)).getD .unreadable
  | .nothing => .disconnected

-- No response, and not for an exception that is answered by a 500: the client's transport tries once more.
def silences : EStateM.Result (Failure Exn) World Value → Bool
  | .error (.raised (.mute _ raised)) _ => raised.kind == .baseException
  | .error .pending _ => true
  | _ => false

-- The call made in place by the threaded server. The declared length is checked before the path.
def threadedCall (py : Python Value Exn World) (h : Handler.HandlerClass) (app : XMLRPCASGIApp isNone) (path : Text)
    (request : Request) (w : World) : Option (Outcome × World) :=
  if 4300 < (text request.body.length.repr).length then some (.protocolError 400,w)
  else if h.max_request_size < request.body.length then some (.protocolError 413,w)
  else if h.isRpcPathValid path = false then some (.protocolError 404,w)
  else
    let result := dispatch py app.toRegistry request.methodname (receivedItems request.params) w
    match responsePayload byType app.allow_none result with
    | none => if silences result then none else some (.protocolError 500,after result)
    | some payload => if payload.readable then some (outcomeOf payload.received,after result) else none

theorem repr_decimal (n : Nat) : Decimal (text n.repr) ∧ decimalValue (text n.repr) = n := by
  obtain ⟨digits,shown,some_,_,same⟩ := repr_digits n
  refine ⟨⟨by simp [shown,some_],fun c member => ?_⟩,?_⟩
  · have digit := repr_clean member
    simpa [isDigit] using digit
  · rw [decimalValue,shown,List.map_map]
    exact (digitsValue_chars digits).trans (by rw [same,Nat.ofDigitChars_ten_toDigits])

theorem posted_length (path host user_agent : Text) (body : Bytes) :
    ((posted path host user_agent body).header (text "content-length")).bind pythonInt =
      if (text body.length.repr).length ≤ 4300 then some (body.length : Int) else none := by
  have declared : (posted path host user_agent body).header (text "content-length") = some (text body.length.repr) := rfl
  obtain ⟨decimal,value⟩ := repr_decimal body.length
  rw [declared,Option.bind_some,pythonInt_decimal decimal,value]

-- The gate and the handler behind it give the body to the dispatcher, or refuse it as is due.
theorem posted_answered (gunzip : Handler.Gunzip) (h : Handler.HandlerClass) (path host user_agent : Text) (body : Bytes) :
    h.doPost gunzip (posted path host user_agent body) =
      if 4300 < (text body.length.repr).length then
        .error 400 (text "Content-Length must be a valid non-negative integer")
      else if h.max_request_size < body.length then .error 413 (text "XML-RPC request body too large")
      else if h.isRpcPathValid path = false then .notFound
      else .dispatched body := by
  have length := posted_length path host user_agent body
  have unchunked : (posted path host user_agent body).chunked = false := rfl
  have declared : (posted path host user_agent body).header (text "content-length") = some (text body.length.repr) := rfl
  rw [declared,Option.bind_some] at length
  by_cases long : 4300 < (text body.length.repr).length
  · rw [if_neg (by omega)] at length
    simp only [Handler.HandlerClass.doPost,unchunked,declared,length,long,if_true,Bool.false_eq_true,if_false]
  · rw [if_pos (by omega)] at length
    rw [if_neg long]
    by_cases large : h.max_request_size < body.length
    · have natural : ¬ (body.length : Int) < 0 := by omega
      simp only [Handler.HandlerClass.doPost,unchunked,declared,length,natural,large,if_true,Bool.false_eq_true,if_false]
    · rw [if_neg large]
      by_cases valid : h.isRpcPathValid path = false
      · have refused : h.simpleDoPost gunzip (posted path host user_agent body) = .notFound := by
          rw [Handler.HandlerClass.simpleDoPost]
          exact if_pos valid
        have natural : ¬ (body.length : Int) < 0 := by omega
        rw [if_pos valid,← refused]
        simp only [Handler.HandlerClass.doPost,unchunked,declared,length,natural,large,Bool.false_eq_true,if_false]
      · rw [if_neg valid]
        refine (Handler.doPost_dispatched gunzip h _ body).mpr ⟨body.length,⟨unchunked,?_,by omega,(Bool.not_eq_false _).mp valid,?_⟩,?_⟩
        · rw [declared,Option.bind_some,length]
        · intro broken
          cases broken
        · have whole : (posted path host user_agent body).bytes.take body.length = body := List.take_length
          rw [whole]
          rfl

theorem parsing_ok {parse : Parse} {encode : Text → Option (Text → Bytes)} {result : List Value × Option Text}
    (loaded : (parsing parse encode).loads builtin data = .ok result) : parse builtin data = .ok result := by
  unfold parsing at loaded
  cases parsed : parse builtin data with
  | error unparsed =>
    simp only [parsed,Except.mapError] at loaded
    cases loaded
  | ok call =>
    simp only [parsed,Except.mapError] at loaded
    rw [Except.ok.inj loaded]

theorem request_marshaled (py : Python Value Exn World) {parse : Parse} {encode : Text → Option (Text → Bytes)}
    {app : XMLRPCASGIApp isNone} {decode : Bytes → Option Text} {cs : Charset} (speaks : Speaks (parsing parse encode) app decode cs)
    (request : Request) (w : World) :
    marshaledDispatch py parse encode app request.body w = encodedResult (parsing parse encode) app
      (responseBy byType app (dispatch py app.toRegistry request.methodname (receivedItems request.params)) w) := by
  have parsed := parsing_ok (request_loads speaks request)
  have body : parsedDispatch py parse app request.body = dispatch py app.toRegistry request.methodname (receivedItems request.params) := by
    simp only [parsedDispatch,parsed]
  rw [← body]
  exact marshaledDispatch_encoded py parse encode app request.body w

-- What the threaded server has no fault for is an exception of the marshaller or of a `__str__`.
theorem undue_internal {call : Act Exn World Value} (app : XMLRPCASGIApp isNone) (w : World)
    (undue : responsePayload byType app.allow_none (call w) = none) (loud : silences (call w) = false) :
    ∃ failure, responseBy byType app call w = .error failure (after (call w)) ∧ failure.ordinary = true := by
  rw [responseBy_run]
  cases ran : call w with
  | ok v next =>
    rw [ran] at undue
    obtain ⟨payload,sent,_⟩ := value_payload byType app.allow_none v next
    cases sent.symm.trans undue
  | error failure next =>
    rw [ran] at undue loud
    simp only [exceptClauses]
    cases seen : failure.exc with
    | none =>
      cases failure with
      | pending => cases loud
      | raised exc | attributeError message | exception message | fault faultCode faultString => cases seen
    | some exc =>
      have undue : exceptionPayload byType app.allow_none exc = none := by
        simpa only [responsePayload,seen,Option.bind_some] using undue
      cases exc with
      | error shown => cases undue
      | fault faultCode faultString =>
        have refused : (Payload.fault faultCode faultString).marshals app.allow_none = false := by
          by_contra marshals
          have due : exceptionPayload byType app.allow_none (.fault faultCode faultString) = some (.fault faultCode faultString) :=
            if_pos ((Bool.not_eq_false _).mp marshals)
          cases due.symm.trans undue
        obtain ⟨shown,broke,unmarshalled⟩ := dumps_error app.encoding refused
        refine ⟨.raised (.error shown),?_,?_⟩
        · change (raising (dumps app.allow_none app.encoding (.fault faultCode faultString)) : Act Exn World Text) next = _
          rw [broke]
          rfl
        · simp [Failure.ordinary,Failure.exc,Thrown.kind,marshal_raises unmarshalled]
      | mute type raised =>
        refine ⟨.raised raised,rfl,?_⟩
        cases failure with
        | raised exc =>
          cases seen
          simpa [silences,Failure.ordinary,Failure.exc] using loud
        | pending | attributeError message | exception message | fault faultCode faultString => cases seen

-- The client reads the response, packed or not.
theorem reply_read {gzipEncode : Bytes → Bytes} {unpack : Bytes → Option Bytes} (packs : ∀ b, unpack (gzipEncode b) = some b)
    {decode : Bytes → Option Text} {body : Bytes} (read : parseResponse decode body = outcome) (packed : Prop) [Decidable packed] :
    parseReply decode unpack (if packed then .response true (gzipEncode body) else .response false body) = outcome := by
  split
  · rw [parseReply,packs,Option.map_some,Option.getD_some,read]
  · exact read

def latinApp : XMLRPCASGIApp echo.isNone := {oneFunction echo with encoding := text "iso-8859-1"}

end XmlrpcExtended.Http
