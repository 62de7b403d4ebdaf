import XmlrpcExtended.PythonText

namespace XmlrpcExtended.Client

variable {τ ρ ν : Type}

structure SplitResult where
  scheme : Text
  netloc : Text
  path : Text
  query : Text
  fragment : Text
  deriving DecidableEq, Repr

-- Checks of a netloc that the code leaves to the standard library: `urlsplit` on one with wrong brackets or under
-- NFKC, and `_get_hostport` with the connection's default port, none for a host that http.client refuses.
structure Library where
  checknetloc : Text → Bool
  hostport : Int → Text → Option (Text × Int)

def asciiAlpha (c : Nat) : Bool := (65 ≤ c && c ≤ 90) || (97 ≤ c && c ≤ 122)

def asciiLower (c : Nat) : Nat := if 65 ≤ c && c ≤ 90 then c + 32 else c

def schemeChar (c : Nat) : Bool := asciiAlpha c || (48 ≤ c && c ≤ 57) || c == 43 || c == 45 || c == 46

def splitScheme (url : Text) : Text × Text :=
  let name := url.takeWhile (· != 58)
  if name.length < url.length && name.head?.any asciiAlpha && name.all schemeChar then
    (name.map asciiLower,url.drop (name.length + 1))
  else ([],url)

def splitNetloc (url : Text) : Text × Text :=
  if url.startsWith (text "//") then
    ((url.drop 2).takeWhile (!(text "/?#").contains ·),(url.drop 2).dropWhile (!(text "/?#").contains ·))
  else ([],url)

def splitAt (mark : Nat) (url : Text) : Text × Text :=
  (url.takeWhile (· != mark),(url.dropWhile (· != mark)).drop 1)

-- `none` is a ValueError. Controls and blanks in front are dropped, tabs and newlines everywhere.
def urlsplit (lib : Library) (url : Text) : Option SplitResult :=
  let (scheme,url) := splitScheme ((url.dropWhile (· ≤ 32)).filter fun c => c != 9 && c != 10 && c != 13)
  let (netloc,url) := splitNetloc url
  let (url,fragment) := splitAt 35 url
  let (path,query) := splitAt 63 url
  if lib.checknetloc netloc then some ⟨scheme,netloc,path,query,fragment⟩ else none

-- `urlunsplit(["", "", path, query, fragment])`, which keeps a path in `//` from being read as a netloc.
def SplitResult.target (p : SplitResult) : Text :=
  (if p.path.startsWith (text "//") then text "//" else []) ++ p.path ++
    (if p.query = [] then [] else text "?" ++ p.query) ++
    (if p.fragment = [] then [] else text "#" ++ p.fragment)

-- A timeout of `none` is the global default. `connected` is `sock is not None`.
structure HTTPConnection (τ : Type) where
  host : Text
  port : Int
  tls : Bool
  timeout : Option τ
  connected : Bool
  deriving DecidableEq, Repr

def HTTPConnection.init (lib : Library) (tls : Bool) (chost : Text) : Option (HTTPConnection τ) :=
  (lib.hostport (if tls then 443 else 80) chost).map fun (host,port) => ⟨host,port,tls,none,false⟩

inductive TransportClass (τ : Type) where
  | Transport
  | SafeTransport
  | TimeoutTransport (timeout : τ)
  deriving DecidableEq, Repr

-- The connection that `super().make_connection` makes.
def TransportClass.tls : TransportClass τ → Bool
  | .SafeTransport => true
  | _ => false

-- `extra_headers` holds the credentials of the Authorization header.
structure Transport (τ : Type) where
  cls : TransportClass τ
  use_datetime : Bool
  use_builtin_types : Bool
  connection : Option (Text × HTTPConnection τ)
  extra_headers : Option Text
  deriving DecidableEq, Repr

def splituser (host : Text) : Option Text × Text :=
  let rest := (host.reverse.takeWhile (· != 64)).reverse
  if rest.length < host.length then (some (host.take (host.length - rest.length - 1)),rest) else (none,host)

def getHostInfo (host : Text) : Text × Option Text :=
  ((splituser host).2,if (splituser host).1 = some [] then none else (splituser host).1)

def Transport.baseConnection (lib : Library) (t : Transport τ) (host : Text) :
    Transport τ × Option (HTTPConnection τ) :=
  let build :=
    let t := {t with extra_headers := (getHostInfo host).2}
    match HTTPConnection.init lib t.cls.tls (getHostInfo host).1 with
    | none => (t,none)
    | some conn => ({t with connection := some (host,conn)},some conn)
  match t.connection with
  | some (cached,conn) => if host = cached then (t,some conn) else build
  | none => build

-- The timeout is set on the connection object itself, which the transport keeps.
def Transport.makeConnection (lib : Library) (t : Transport τ) (host : Text) :
    Transport τ × Option (HTTPConnection τ) :=
  match t.cls with
  | .TimeoutTransport timeout =>
    match t.baseConnection lib host with
    | (t,none) => (t,none)
    | (t,some conn) =>
      let conn := {conn with timeout := some timeout}
      ({t with connection := some (host,conn)},some conn)
  | _ => t.baseConnection lib host

inductive Errno where
  | ECONNRESET
  | ECONNABORTED
  | EPIPE
  | other
  deriving DecidableEq, Repr

inductive Error where
  | RemoteDisconnected
  | OSError (errno : Errno)
  | other
  deriving DecidableEq, Repr

def Error.retried : Error → Bool
  | .RemoteDisconnected => true
  | .OSError errno => errno != .other
  | .other => false

-- What the network and the server make of one `single_request`: nothing goes out, the exchange breaks
-- off once some of the request has, in the body of an error response at last, or a response is read.
-- `handled` says that the server ran the method, `keep` that the connection stays open.
inductive Attempt (ρ : Type) where
  | unreached (e : Error)
  | cut (handled : Bool) (e : Error)
  | unread (handled : Bool) (e : Error)
  | answered (handled keep : Bool) (status : Nat) (response : ρ)
  deriving DecidableEq, Repr

def Attempt.sends : Attempt ρ → Bool
  | .unreached _ => false
  | _ => true

structure Decoding where
  use_datetime : Bool
  use_builtin_types : Bool
  deriving DecidableEq, Repr

-- `parse_response` with the parser that `getparser` makes for these options.
inductive Parsed (ν : Type) where
  | value (v : ν)
  | fault (v : ν)
  | failure
  deriving DecidableEq, Repr

inductive Answer (ν : Type) where
  | value (v : ν)
  | fault (v : ν)
  | protocolError (status : Nat)
  | raised (e : Error)
  | unmarshalled
  deriving DecidableEq, Repr

inductive Wire (τ : Type) where
  | connect (host : Text) (port : Int) (tls : Bool) (timeout : Option τ)
  | post (credentials : Option Text) (handler : Text) (body : List UInt8) (handled : Bool)
  deriving DecidableEq, Repr

def Transport.close (t : Transport τ) : Transport τ := {t with connection := none}

def Transport.leave (t : Transport τ) (host : Text) (conn : HTTPConnection τ) (connected : Bool) : Transport τ :=
  {t with connection := some (host,{conn with connected := connected})}

def HTTPConnection.opens (conn : HTTPConnection τ) : List (Wire τ) :=
  if conn.connected then [] else [.connect conn.host conn.port conn.tls conn.timeout]

structure Exchange (τ ν : Type) where
  transport : Transport τ
  wire : List (Wire τ)
  answer : Answer ν

-- `putrequest` refuses any other path before it connects: blanks, controls, and what ASCII has no byte for.
def sendable (handler : Text) : Bool := handler.all fun c => 32 < c && c < 127

def Transport.singleRequest (lib : Library) (parse : Decoding → ρ → Parsed ν) (t : Transport τ)
    (host handler : Text) (body : List UInt8) (attempt : Attempt ρ) : Exchange τ ν :=
  match t.makeConnection lib host with
  | (t,none) => ⟨t.close,[],.raised .other⟩
  | (t,some conn) =>
    if sendable handler then
      match attempt with
      | .unreached e => ⟨t.close,conn.opens,.raised e⟩
      | .cut handled e => ⟨t.close,conn.opens ++ [.post t.extra_headers handler body handled],.raised e⟩
      | .unread handled e =>
        ⟨t.leave host conn true,conn.opens ++ [.post t.extra_headers handler body handled],.raised e⟩
      | .answered handled keep status response =>
        let wire := conn.opens ++ [.post t.extra_headers handler body handled]
        if status = 200 then
          match parse ⟨t.use_datetime,t.use_builtin_types⟩ response with
          | .value v => ⟨t.leave host conn keep,wire,.value v⟩
          | .fault v => ⟨t.leave host conn keep,wire,.fault v⟩
          | .failure => ⟨t.close,wire,.raised .other⟩
        else ⟨t.leave host conn keep,wire,.protocolError status⟩
    else ⟨t.close,[],.raised .other⟩

-- `for i in (0, 1)`: the second exception passes, whatever it is.
def Transport.request (lib : Library) (parse : Decoding → ρ → Parsed ν) (t : Transport τ)
    (host handler : Text) (body : List UInt8) (attempts : Nat → Attempt ρ) : Exchange τ ν :=
  let first := t.singleRequest lib parse host handler body (attempts 0)
  match first.answer with
  | .raised e =>
    if e.retried then
      let second := first.transport.singleRequest lib parse host handler body (attempts 1)
      {second with wire := first.wire ++ second.wire}
    else first
  | _ => first

structure ServerProxy (τ : Type) where
  host : Text
  handler : Text
  transport : Transport τ
  encoding : Text
  allow_none : Bool
  deriving DecidableEq, Repr

-- `none` is a ValueError of `urlsplit` or the OSError for another scheme.
def ServerProxy.init (lib : Library) (uri : Text) (transport : Option (Transport τ))
    (allow_none use_datetime use_builtin_types : Bool) : Option (ServerProxy τ) := do
  let p ← urlsplit lib uri
  if p.scheme = text "http" ∨ p.scheme = text "https" then
    let cls := if p.scheme = text "https" then .SafeTransport else .Transport
    some {
      host := p.netloc
      handler := if p.target = [] then text "/RPC2" else p.target
      transport := transport.getD ⟨cls,use_datetime,use_builtin_types,none,none⟩
      encoding := text "utf-8"
      allow_none := allow_none}
  else none

structure Call (ρ : Type) where
  body : Option (List UInt8)
  attempts : Nat → Attempt ρ

-- `body` is what `dumps` and `encode` make of the call, or none where one of them raises.
def ServerProxy.request (lib : Library) (parse : Decoding → ρ → Parsed ν) (p : ServerProxy τ)
    (call : Call ρ) : ServerProxy τ × List (Wire τ) × Answer ν :=
  match call.body with
  | none => (p,[],.unmarshalled)
  | some body =>
    let done := p.transport.request lib parse p.host p.handler body call.attempts
    ({p with transport := done.transport},done.wire,done.answer)

def ServerProxy.session (lib : Library) (parse : Decoding → ρ → Parsed ν) :
    ServerProxy τ → List (Call ρ) → List (Wire τ) × List (Answer ν)
  | _,[] => ([],[])
  | p,call :: rest =>
    let (p,wire,answer) := p.request lib parse call
    let (wires,answers) := p.session lib parse rest
    (wire ++ wires,answer :: answers)

structure XMLRPCClient (τ : Type) where
  uri : Text
  timeout : τ
  allow_none : Bool
  use_builtin_types : Bool

def XMLRPCClient.enter (lib : Library) (client : XMLRPCClient τ) : Option (ServerProxy τ) :=
  ServerProxy.init lib client.uri
    (some ⟨.TimeoutTransport client.timeout,false,client.use_builtin_types,none,none⟩)
    client.allow_none false false

end XmlrpcExtended.Client
