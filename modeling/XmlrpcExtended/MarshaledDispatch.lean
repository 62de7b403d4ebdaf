import XmlrpcExtended.Dispatch
import XmlrpcExtended.Marshaller

namespace XmlrpcExtended.Dispatch

abbrev Bytes := List UInt8

def Text.ascii (t : Text) : Bytes := t.map UInt8.ofNat

-- `xmlrpc.client.loads`, whose exceptions are given by their str(), and
-- `str.encode(encoding, "xmlcharrefreplace")`, which has no character to refuse but may not
-- know the encoding.
structure Codec where
  loads : Bool → Bytes → Except Text (List Value × Option Text)
  encode : Text → Option (Text → Bytes)

structure XMLRPCASGIApp {Obj : Type} (isNone : Obj → Bool) extends Registry isNone where
  allow_none : Bool
  encoding : Text
  use_builtin_types : Bool

def Failure.exc : Failure Exn → Option Exn
  | .raised exc => some exc
  | .pending => none
  | .attributeError message => some (.error ⟨.builtin "AttributeError",message⟩)
  | .exception message => some (.error ⟨.builtin "Exception",message⟩)
  | .fault faultCode faultString => some (.fault (.int faultCode) (.str faultString))

variable {Obj World : Type} {absent : Obj → Bool} {isNone : Value → Bool}

def raising (result : Except ShownError α) : Act Exn World α :=
  match result with
  | .ok v => pure v
  | .error shown => throw (.raised (.error shown))

-- Except clauses see exceptions only.
def exceptClauses (clauses : Exn → Act Exn World α) (failure : Failure Exn) : Act Exn World α :=
  match failure.exc with
  | some exc => clauses exc
  | none => throw failure

-- The except clauses of _async_marshaled_dispatch: nothing catches what they raise, nor what
-- is no Exception.
def faultResponse (app : XMLRPCASGIApp absent) (exc : Exn) : Act Exn World Text :=
  if exc.kind = .baseException then throw (.raised exc)
  else match exc with
    | .fault faultCode faultString => raising (dumps app.allow_none app.encoding (.fault faultCode faultString))
    | .error shown =>
      raising (dumps app.allow_none app.encoding (.fault (.int 1) (.str (shown.type.name ++ text ": " ++ shown.str))))
    | .mute _ raised => throw (.raised raised)

def callResponse (py : Python Value Exn World) (app : XMLRPCASGIApp isNone) (method : Text) (params : List Value) :
    Act Exn World Text :=
  tryCatch
    (do
      let result ← asyncDispatch py app.toRegistry method params
      raising (dumps app.allow_none app.encoding (.result result)))
    (exceptClauses (faultResponse app))

def encoded (codec : Codec) (app : XMLRPCASGIApp isNone) (response : Text) : Act Exn World Bytes :=
  match codec.encode app.encoding with
  | some encode => pure (encode response)
  | none => throw (.raised (.error ⟨.builtin "LookupError",text "unknown encoding: " ++ app.encoding⟩))

def asyncMarshaledDispatch (py : Python Value Exn World) (codec : Codec) (app : XMLRPCASGIApp isNone) (data : Bytes) :
    Act Exn World Bytes := coroutine do
  match codec.loads app.use_builtin_types data with
  | .error parse =>
    let response ← raising
      (dumps app.allow_none app.encoding (.fault (.int (-32700)) (.str (text "Parse error: " ++ parse))))
    encoded codec app response
  | .ok (params,method) =>
    let response ← callResponse py app (method.getD (text "None")) params
    encoded codec app response

-- `_async_marshaled_dispatch` up to its last step, which encodes.
def responseText (py : Python Value Exn World) (codec : Codec) (app : XMLRPCASGIApp isNone) (data : Bytes) :
    Act Exn World Text :=
  match codec.loads app.use_builtin_types data with
  | .error parse =>
    raising (dumps app.allow_none app.encoding (.fault (.int (-32700)) (.str (text "Parse error: " ++ parse))))
  | .ok (params,method) => callResponse py app (method.getD (text "None")) params

inductive Message where
  | start (status : Nat) (headers : List (Bytes × Bytes))
  | body (body : Bytes)
  deriving DecidableEq

def sendHttpResponse (status : Nat) (body content_type : Bytes) (extra_headers : List (Bytes × Bytes)) : List Message :=
  [.start status ([(Text.ascii (text "content-type"),content_type),
      (Text.ascii (text "content-length"),Text.ascii (text (toString body.length)))] ++ extra_headers),
    .body body]

def xmlContentType : Bytes := Text.ascii (text "text/xml; charset=utf-8")

-- _handle_http once the path, the method and the length of the body have passed.
def handleBody (py : Python Value Exn World) (codec : Codec) (app : XMLRPCASGIApp isNone) (body : Bytes) :
    Act Exn World (List Message) := do
  let response_xml ← asyncMarshaledDispatch py codec app body
  return sendHttpResponse 200 response_xml xmlContentType []

end XmlrpcExtended.Dispatch
