import XmlrpcExtended.MarshaledDispatch
import XmlrpcExtended.ServerMachine
import XmlrpcExtended.Unmarshaller

namespace XmlrpcExtended.Server

open Dispatch

-- The codec Python knows by `name`, with its strict error handler: `none` is a LookupError or a UnicodeError.
structure Encoding where
  name : Text
  encode : Text → Option Bytes
  decode : Bytes → Option Text

inductive Recv where
  | data
  | endOfStream
  | timeout
  | oserror
  deriving DecidableEq, Repr

-- The socket of a rejected client: whether the calls on it return or raise OSError, and what recv gives, call after call.
structure Peer where
  sendall : Bool
  shutdown : Bool
  settimeout : Bool
  recv : Nat → Recv

inductive Response where
  | raised
  | returned (sent : Option Bytes) (recvs : Nat)

-- `while request.recv(4096): pass` after `k` calls of recv; `none` while it is not over within `fuel` more.
def drain (recv : Nat → Recv) (k : Nat) : Nat → Option Nat
  | 0 => none
  | fuel + 1 => if recv k = .data then drain recv (k + 1) fuel else some (k + 1)

-- What `_send_fault_response` and `_send_503_response` do with the bytes they have made.
def sendResponse (peer : Peer) (response : Bytes) (recvs : Nat) : Option Response :=
  if peer.sendall = false then some (.returned none 0)
  else if peer.shutdown = false then some (.returned (some response) 0)
  else if peer.settimeout = false then some (.returned (some response) 0)
  else (drain peer.recv 0 recvs).map fun calls => .returned (some response) calls

def faultPayload (cfg : XMLRPCServerConfig) (allow_none : Bool) (encoding : Encoding) : Option Bytes :=
  match dumps allow_none encoding.name (.fault (.int cfg.overload_fault_code) (.str cfg.overload_fault_string)) with
  | .error _ => none
  | .ok payload => encoding.encode payload

def faultHttp (body : Bytes) : Bytes :=
  Text.ascii (text "HTTP/1.1 200 OK\r\nContent-Type: text/xml\r\nContent-Length: " ++ text (toString body.length) ++
    text "\r\nConnection: close\r\n\r\n") ++ body

def sendFaultResponse (cfg : XMLRPCServerConfig) (allow_none : Bool) (encoding : Encoding) (peer : Peer) (recvs : Nat) :
    Option Response :=
  match faultPayload cfg allow_none encoding with
  | none => some .raised
  | some body => sendResponse peer (faultHttp body) recvs

def unavailableHttp : Bytes :=
  let body := Text.ascii (text "Service Unavailable")
  Text.ascii (text "HTTP/1.1 503 Service Unavailable\r\n" ++ text "Content-Type: text/plain\r\n" ++
    text "Content-Length: " ++ text (toString body.length) ++ text "\r\n" ++ text "Retry-After: 1\r\n" ++
    text "Connection: close\r\n" ++ text "\r\n") ++ body

def send503Response (peer : Peer) (recvs : Nat) : Option Response := sendResponse peer unavailableHttp recvs

-- The calls a rejection makes, whether it raises, the response it has sent and the number of recv calls.
structure Rejection where
  calls : List Call
  raised : Bool
  sent : Option Bytes
  recvs : Nat

def Response.dismiss : Response → Rejection
  | .raised => ⟨[.recordRejected,.sendResponse],true,none,0⟩
  | .returned sent recvs => ⟨[.recordRejected,.sendResponse,.shutdownRequest],false,sent,recvs⟩

def rejectRequest (cfg : XMLRPCServerConfig) (allow_none : Bool) (encoding : Encoding) (peer : Peer) (recvs : Nat) :
    Option Rejection :=
  match cfg.overload_policy with
  | .FAULT => (sendFaultResponse cfg allow_none encoding peer recvs).map Response.dismiss
  | .HTTP_503 => (send503Response peer recvs).map Response.dismiss
  | _ => some ⟨[.recordRejected,.shutdownRequest],false,none,0⟩

-- The calls of `processRequest` from a stage on, given what each of them comes to.
def callsFrom (cfg : XMLRPCServerConfig) (stage : Stage) : List Result → List Call
  | [] => []
  | result :: rest =>
    match processRequest stage with
    | none => []
    | some call => call :: callsFrom cfg (processRequest.next cfg stage result) rest

theorem rejectRequest_stages {cfg : XMLRPCServerConfig} {allow_none : Bool} {encoding : Encoding} {peer : Peer}
    (rejected : rejectRequest cfg allow_none encoding peer recvs = some r) :
    r.calls = callsFrom cfg .rejecting [.returned,if r.raised then .exception else .returned,.returned] := by
  have answered : ∀ response : Response, cfg.overload_policy = .FAULT ∨ cfg.overload_policy = .HTTP_503 →
      response.dismiss = r →
      r.calls = callsFrom cfg .rejecting [.returned,if r.raised then .exception else .returned,.returned] := by
    rintro response policy rfl
    cases response <;> simp [Response.dismiss,callsFrom,processRequest,processRequest.next,policy]
  unfold rejectRequest at rejected
  cases policy : cfg.overload_policy with
  | FAULT =>
    rw [policy] at rejected
    obtain ⟨response,_,same⟩ := Option.map_eq_some_iff.mp rejected
    exact answered response (.inl policy) same
  | HTTP_503 =>
    rw [policy] at rejected
    obtain ⟨response,_,same⟩ := Option.map_eq_some_iff.mp rejected
    exact answered response (.inr policy) same
  | BLOCK | CLOSE =>
    rw [policy] at rejected
    cases rejected
    simp [callsFrom,processRequest,processRequest.next,policy]

theorem drain_ends (recv : Nat → Recv) (k fuel : Nat) :
    (drain recv k fuel).isSome = true ↔ ∃ j, k ≤ j ∧ j < k + fuel ∧ recv j ≠ .data := by
  induction fuel generalizing k with
  | zero => simp only [drain]; simp; omega
  | succ fuel ih =>
    simp only [drain]
    split
    · rename_i more
      rw [ih]
      constructor
      · rintro ⟨j,low,high,ends⟩
        exact ⟨j,by omega,by omega,ends⟩
      · rintro ⟨j,low,high,ends⟩
        have later : k ≠ j := by
          rintro rfl
          exact ends more
        exact ⟨j,by omega,by omega,ends⟩
    · rename_i ends
      exact ⟨fun _ => ⟨k,by omega,by omega,ends⟩,fun _ => rfl⟩

abbrev overloadDocument (cfg : XMLRPCServerConfig) (encoding : Encoding) : Text :=
  faultDocument encoding.name cfg.overload_fault_code cfg.overload_fault_string

theorem faultPayload_eq (cfg : XMLRPCServerConfig) (allow_none : Bool) (encoding : Encoding) :
    faultPayload cfg allow_none encoding =
      if cfg.overload_fault_code > MAXINT ∨ cfg.overload_fault_code < MININT then none
      else encoding.encode (overloadDocument cfg encoding) := by
  rw [faultPayload,dumps_fault]
  by_cases large : cfg.overload_fault_code > MAXINT ∨ cfg.overload_fault_code < MININT
  · rw [if_pos large,if_pos large]
  · rw [if_neg large,if_neg large]

-- Whether a rejection gets as far as a response to send.
def Answers (cfg : XMLRPCServerConfig) (encoding : Encoding) : Prop :=
  cfg.overload_policy = .HTTP_503 ∨
  (cfg.overload_policy = .FAULT ∧ MININT ≤ cfg.overload_fault_code ∧ cfg.overload_fault_code ≤ MAXINT ∧
    encoding.encode (overloadDocument cfg encoding) ≠ none)

def Peer.Ends (peer : Peer) : Prop :=
  peer.sendall = false ∨ peer.shutdown = false ∨ peer.settimeout = false ∨ ∃ n, peer.recv n ≠ .data

theorem sendResponse_returns (peer : Peer) (response : Bytes) :
    (∃ recvs, (sendResponse peer response recvs).isSome = true) ↔ peer.Ends := by
  unfold sendResponse Peer.Ends
  by_cases sendall : peer.sendall = false
  · simp [sendall]
  by_cases shutdown : peer.shutdown = false
  · simp [sendall,shutdown]
  by_cases settimeout : peer.settimeout = false
  · simp [sendall,shutdown,settimeout]
  have waits : (peer.sendall = false ∨ peer.shutdown = false ∨ peer.settimeout = false ∨ ∃ n, peer.recv n ≠ .data) ↔
      ∃ n, peer.recv n ≠ .data := by simp [sendall,shutdown,settimeout]
  simp only [if_neg sendall,if_neg shutdown,if_neg settimeout,Option.isSome_map,drain_ends,waits]
  constructor
  · rintro ⟨_,n,_,_,ends⟩
    exact ⟨n,ends⟩
  · rintro ⟨n,ends⟩
    exact ⟨n + 1,n,by omega,by omega,ends⟩

-- The responses that are sent are the only part of a rejection that waits for the client.
theorem rejectRequest_answers (cfg : XMLRPCServerConfig) (allow_none : Bool) (encoding : Encoding) :
    (Answers cfg encoding → ∃ response, ∀ peer recvs, rejectRequest cfg allow_none encoding peer recvs =
      (sendResponse peer response recvs).map Response.dismiss) ∧
    (¬ Answers cfg encoding → ∃ r : Rejection, r.recvs = 0 ∧ ∀ peer recvs,
      rejectRequest cfg allow_none encoding peer recvs = some r) := by
  unfold Answers rejectRequest
  cases policy : cfg.overload_policy with
  | BLOCK | CLOSE => exact ⟨by simp,fun _ => ⟨⟨_,_,_,0⟩,rfl,fun _ _ => rfl⟩⟩
  | HTTP_503 => exact ⟨fun _ => ⟨_,fun _ _ => rfl⟩,by simp⟩
  | FAULT =>
    by_cases large : cfg.overload_fault_code > MAXINT ∨ cfg.overload_fault_code < MININT
    · refine ⟨fun answers => absurd answers (by simp; omega),fun _ => ⟨Response.raised.dismiss,rfl,fun peer recvs => ?_⟩⟩
      simp only [sendFaultResponse,faultPayload_eq,large,if_true]
      rfl
    · simp only [sendFaultResponse,faultPayload_eq,large,if_false]
      cases encoding.encode (overloadDocument cfg encoding) with
      | none => exact ⟨by simp,fun _ => ⟨⟨_,_,_,0⟩,rfl,fun _ _ => rfl⟩⟩
      | some body => exact ⟨fun _ => ⟨_,fun _ _ => rfl⟩,fun silent => absurd (by simp; omega) silent⟩

theorem rejectRequest_returns (cfg : XMLRPCServerConfig) (allow_none : Bool) (encoding : Encoding) (peer : Peer) :
    (∃ fuel r, rejectRequest cfg allow_none encoding peer fuel = some r) ↔ (Answers cfg encoding → peer.Ends) := by
  obtain ⟨answered,silent⟩ := rejectRequest_answers cfg allow_none encoding
  by_cases answers : Answers cfg encoding
  · obtain ⟨response,same⟩ := answered answers
    simp only [same,answers,true_implies,← sendResponse_returns peer response,Option.map_eq_some_iff,
      Option.isSome_iff_exists]
    exact exists_congr fun fuel => ⟨fun ⟨_,sent,made,_⟩ => ⟨sent,made⟩,fun ⟨sent,made⟩ => ⟨_,sent,made,rfl⟩⟩
  · obtain ⟨r,_,same⟩ := silent answers
    simp [same,answers]

def endless : Peer := ⟨true,true,true,fun _ => .data⟩

theorem rejections_return (cfg : XMLRPCServerConfig) (allow_none : Bool) (encoding : Encoding) :
    ((∃ bound, ∀ peer, ∃ fuel r, rejectRequest cfg allow_none encoding peer fuel = some r ∧ r.recvs ≤ bound) ↔
      ¬ Answers cfg encoding) ∧
    ∀ peer, (∃ fuel r, rejectRequest cfg allow_none encoding peer fuel = some r) ↔ (Answers cfg encoding → peer.Ends) := by
  refine ⟨⟨?_,?_⟩,rejectRequest_returns cfg allow_none encoding⟩
  · rintro ⟨bound,all⟩ answers
    obtain ⟨fuel,r,rejected,_⟩ := all endless
    have ends := (rejectRequest_returns cfg allow_none encoding endless).mp ⟨fuel,r,rejected⟩ answers
    simp [Peer.Ends,endless] at ends
  · intro quiet
    obtain ⟨r,none_,same⟩ := (rejectRequest_answers cfg allow_none encoding).2 quiet
    exact ⟨0,fun peer => ⟨0,r,same peer 0,none_.le⟩⟩

-- The codec `iso-8859-1`.
def latin1 : Encoding where
  name := text "iso-8859-1"
  encode := fun t => if t.all (· < 256) then some (t.map UInt8.ofNat) else none
  decode := fun b => some (b.map UInt8.toNat)

theorem endless_held : ¬ ∃ fuel r, rejectRequest (.sized 0 0 .HTTP_503) false latin1 endless fuel = some r := by
  rintro ⟨fuel,r,rejected⟩
  have never : ∀ k, drain endless.recv k fuel = none := by
    clear rejected
    induction fuel with
    | zero => exact fun _ => rfl
    | succ fuel ih => exact fun k => ih (k + 1)
  change ((drain endless.recv 0 fuel).map _).map _ = _ at rejected
  rw [never 0] at rejected
  cases rejected

end XmlrpcExtended.Server
