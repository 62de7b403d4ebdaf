import XmlrpcExtended.CallDocuments
import XmlrpcExtended.ThreadedDispatch

namespace XmlrpcExtended.Http
open Dispatch Charset

variable {World : Type} {isNone : Value → Bool}

-- How a call through a ServerProxy ends; `unreadable` stands for the errors of the XML reader, `disconnected` for
-- those of a connection that ends without a response.
inductive Outcome where
  | returned (value : Value)
  | fault (faultCode faultString : Value)
  | protocolError (status : Nat)
  | unreadable
  | disconnected

-- ServerProxy.__request takes a single value out of its tuple.
def outcomeOf : Loaded → Outcome
  | .call [value] _ => .returned value
  | .call params _ => .returned (.array params)
  | .fault faultCode faultString => .fault faultCode faultString

-- `decode` is how the client's XML parser takes the bytes of a document, by the encoding that it declares.
def parseResponse (decode : Bytes → Option Text) (body : Bytes) : Outcome :=
  (((decode body).bind loads).map outcomeOf).getD .unreadable

-- Transport.single_request: a response of any other status raises a ProtocolError.
def singleRequest (decode : Bytes → Option Text) : List Message → Outcome
  | [.start status _,.body body] => if status = 200 then parseResponse decode body else .protocolError status
  | _ => .unreadable

-- A call that the client can marshal.
structure Request where
  methodname : Text
  params : List Value
  allow_none : Bool
  document : Text
  dumped : dumpsCall allow_none (text "utf-8") methodname params = .ok document
  named : isMethodName methodname = true
  readable : itemsWithin isText params = true

def Request.body (request : Request) : Bytes := utf8.bytes request.document

-- The call made in place, with what of its arguments and of its outcome can be carried.
def localCall (py : Python Value Exn World) (upper : Text → Text) (app : App isNone) (scope : Scope) (request : Request)
    (w : World) : Option (Outcome × World) :=
  let status := statusFor upper app scope request.body
  if status ≠ 200 then some (.protocolError status,w)
  else
    let result := asyncDispatch py app.toRegistry request.methodname (receivedItems request.params) w
    ((responsePayload byName app.allow_none result).filter (·.readable)).map fun payload => (outcomeOf payload.received,after result)

-- The codec reads documents that declare no encoding as the reader does, and writes the charset that the client's
-- parser takes documents for that declare the encoding of the app.
structure Speaks (codec : Codec) (app : XMLRPCASGIApp isNone) (decode : Bytes → Option Text) (cs : Charset) : Prop where
  declared : app.encoding = text "utf-8" ∨ Xml.isEncodingName app.encoding = true
  encodes : codec.encode app.encoding = some cs.bytes
  understood : ∀ rest, decode (cs.bytes (xmlheader app.encoding ++ rest)) = some (cs.replaced (xmlheader app.encoding ++ rest))
  reads : ∀ rest params methodname,
    loads (utf8.replaced (xmlheader (text "utf-8") ++ rest)) = some (.call params methodname) →
      codec.loads app.use_builtin_types (utf8.bytes (xmlheader (text "utf-8") ++ rest)) = .ok (params,methodname)

theorem request_loads {codec : Codec} {app : XMLRPCASGIApp isNone} {decode : Bytes → Option Text} {cs : Charset}
    (speaks : Speaks codec app decode cs) (request : Request) :
    codec.loads app.use_builtin_types request.body = .ok (receivedItems request.params,some request.methodname) := by
  have loaded := request_read utf8 (.inl rfl) request.named request.dumped request.readable
  obtain ⟨rest,headed⟩ := call_headed request.named request.dumped
  rw [Request.body,headed]
  rw [headed] at loaded
  exact speaks.reads rest _ _ loaded

theorem response_parsed {codec : Codec} {app : XMLRPCASGIApp isNone} {decode : Bytes → Option Text} {cs : Charset}
    (speaks : Speaks codec app decode cs) (carries : Carries app response payload) (readable : payload.readable = true) :
    parseResponse decode (cs.bytes response) = outcomeOf payload.received := by
  obtain ⟨data,_,written⟩ := dumps_data carries
  have read := response_read cs speaks.declared carries readable
  rw [written,List.append_assoc,List.append_assoc] at read ⊢
  rw [parseResponse,speaks.understood,Option.bind_some,read]
  rfl

-- The response to the request, to its last byte, and what the client makes of it.
theorem request_answered (py : Python Value Exn World) {codec : Codec} {app : XMLRPCASGIApp isNone} {decode : Bytes → Option Text}
    {cs : Charset} (speaks : Speaks codec app decode cs) (request : Request) (w : World) {payload : Payload}
    (due : responsePayload byName app.allow_none
      (asyncDispatch py app.toRegistry request.methodname (receivedItems request.params) w) = some payload)
    (readable : payload.readable = true) :
    ∃ response, asyncMarshaledDispatch py codec app request.body w =
        .ok response (after (asyncDispatch py app.toRegistry request.methodname (receivedItems request.params) w)) ∧
      parseResponse decode response = outcomeOf payload.received := by
  have parsed := request_loads speaks request
  obtain ⟨response,answered,carries⟩ := payload_answered w due
  refine ⟨cs.bytes response,?_,response_parsed speaks carries readable⟩
  refine (dispatch_returns py codec app request.body w).mpr ⟨cs.bytes,response,speaks.encodes,?_,rfl⟩
  rw [dispatched_text parsed,Option.getD_some,answered]

def utf8Parse : Parse := fun _ data =>
  match (utf8.decode data).bind loads with
  | some (.call params methodname) => .ok (params,methodname)
  | _ => .error (.error ⟨.builtin "ExpatError",text "syntax error"⟩,text "syntax error")

def utf8Codec : Codec := parsing utf8Parse charsetCodec.encode

theorem utf8Codec_speaks {app : XMLRPCASGIApp isNone} {cs : Charset} (named : charsetNamed app.encoding = some cs)
    (declared : app.encoding = text "utf-8" ∨ Xml.isEncodingName app.encoding = true) : Speaks utf8Codec app cs.decode cs where
  declared := declared
  encodes := by
    change (charsetNamed app.encoding).map Charset.bytes = some cs.bytes
    rw [named]
    rfl
  understood rest := bytes_decoded cs _
  reads rest params methodname loaded := by
    have read : (utf8.decode (utf8.bytes (xmlheader (text "utf-8") ++ rest))).bind loads = some (.call params methodname) := by
      rw [bytes_decoded,Option.bind_some,loaded]
    simp only [utf8Codec,parsing,utf8Parse,read,Except.mapError]

-- Its functions return their arguments.
def echo : Python Value Exn Unit := {accented with call := fun _ args w => (.ok (.array args),w)}

def echoApp : App echo.isNone :=
  {oneFunction echo with encoding := text "iso-8859-1",max_request_size := 1048576,rpc_path := text "/"}

def echoRequest : Request where
  methodname := text "f"
  params := [.struct [(some (text "clé"),.array [.int (-3),.bool true])],.str (text "<&>")]
  allow_none := false
  document := (dumpsCall false (text "utf-8") (text "f")
    [.struct [(some (text "clé"),.array [.int (-3),.bool true])],.str (text "<&>")]).toOption.getD []
  dumped := rfl
  named := by decide
  readable := by decide

end XmlrpcExtended.Http
