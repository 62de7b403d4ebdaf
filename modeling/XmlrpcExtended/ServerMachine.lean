import XmlrpcExtended.ServerConfig
import XmlrpcExtended.ServerStats
import XmlrpcExtended.TransitionRuns

namespace XmlrpcExtended.Server

inductive Call where
  | settimeout
  | acquire
  | recordRejected
  | sendResponse
  | recordSubmitted
  | submit
  | release
  | recordStarted
  | finishRequest
  | shutdownRequest
  | handleError
  | recordCompleted
  | recordErrored
  deriving DecidableEq, Repr

-- The last two are what `_adjust_thread_count` may do once `submit` has queued the call.
inductive Fate where
  | returned
  | exception
  | baseException
  | threadStarted
  | startFailed
  deriving DecidableEq, Repr

inductive Result where
  | returned
  | exception
  | baseException
  | denied
  | runtimeError
  deriving DecidableEq, Repr

inductive Ending where
  | submitted
  | rejected
  | failed
  | aborted
  deriving DecidableEq, Repr

-- The line of `process_request` at which the accept thread is for the request.
inductive Stage where
  | timing
  | acquiring
  | rejecting
  | responding
  | dismissing
  | recording
  | handing
  | refused
  | abandoning
  | ended (ending : Ending)
  deriving DecidableEq, Repr

def Stage.isOver : Stage → Bool
  | .ended _ => true
  | _ => false

-- The same for `_process_request_worker`, once the call of it is queued.
inductive Job where
  | none
  | queued
  | starting
  | finishing
  | closing
  | completing
  | handling
  | closingError
  | erroring
  | releasing
  | done
  deriving DecidableEq, Repr

def Job.running : Job → Bool
  | .none | .queued | .done => false
  | _ => true

-- `calls` is the history, newest first. No transition below reads it.
structure Request where
  stage : Stage
  job : Job
  calls : List Call
  deriving DecidableEq, Repr

def Request.times (r : Request) (call : Call) : Nat := r.calls.count call

def Request.arrived (cfg : XMLRPCServerConfig) : Request :=
  ⟨if cfg.connection_timeout.isSome then .timing else .acquiring,.none,[]⟩

-- `threads` and `shutdown` are the pool's; the calls in its queue are the requests
-- whose job is `queued`.
structure Shared where
  permits : Nat
  stats : StatsTracker
  threads : Nat
  shutdown : Bool
  deriving DecidableEq, Repr

def processRequest : Stage → Option Call
  | .timing => some .settimeout
  | .acquiring => some .acquire
  | .rejecting => some .recordRejected
  | .responding => some .sendResponse
  | .dismissing => some .shutdownRequest
  | .recording => some .recordSubmitted
  | .handing => some .submit
  | .refused => some .release
  | .abandoning => some .shutdownRequest
  | .ended _ => none

def processRequest.next (cfg : XMLRPCServerConfig) : Stage → Result → Stage
  | .timing,.returned => .acquiring
  | .timing,_ => .ended .aborted
  | .acquiring,.returned => .recording
  | .acquiring,_ => .rejecting
  | .rejecting,_ => if cfg.overload_policy = .FAULT ∨ cfg.overload_policy = .HTTP_503 then .responding else .dismissing
  | .responding,.returned => .dismissing
  | .responding,_ => .ended .rejected
  | .dismissing,_ => .ended .rejected
  | .recording,_ => .handing
  | .handing,.returned => .ended .submitted
  | .handing,_ => .refused
  | .refused,_ => .abandoning
  | .abandoning,_ => .ended .failed
  | .ended ending,_ => .ended ending

def processRequestWorker : Job → Option Call
  | .starting => some .recordStarted
  | .finishing => some .finishRequest
  | .closing => some .shutdownRequest
  | .completing => some .recordCompleted
  | .handling => some .handleError
  | .closingError => some .shutdownRequest
  | .erroring => some .recordErrored
  | .releasing => some .release
  | .none | .queued | .done => none

-- `except Exception` takes an Exception out of the try block to `handling`;
-- whatever else leaves a block goes straight to the finally clause.
def processRequestWorker.next : Job → Result → Job
  | .starting,_ => .finishing
  | .finishing,.returned => .closing
  | .finishing,.exception => .handling
  | .finishing,_ => .releasing
  | .closing,.returned => .completing
  | .closing,.exception => .handling
  | .closing,_ => .releasing
  | .completing,_ => .releasing
  | .handling,.returned => .closingError
  | .handling,_ => .releasing
  | .closingError,.returned => .erroring
  | .closingError,_ => .releasing
  | .erroring,_ => .releasing
  | .releasing,_ => .done
  | job,_ => job

def recordRejected (policy : ServerOverloadPolicy) (t : StatsTracker) : StatsTracker :=
  match policy with
  | .FAULT => t.recordRejectedFault
  | .HTTP_503 => t.recordRejected503
  | _ => t.recordRejectedClose

def Fate.result : Fate → Option Result
  | .returned => some .returned
  | .exception => some .exception
  | .baseException => some .baseException
  | _ => none

-- `none` is a call that cannot go on now, or a fate the call cannot have.
def perform (cfg : XMLRPCServerConfig) (sh : Shared) : Call → Fate → Option (Shared × Result)
  | .acquire,_ =>
    if 0 < sh.permits then some ({sh with permits := sh.permits - 1},.returned)
    else if cfg.overload_policy = .BLOCK then none
    else some (sh,.denied)
  | .release,_ => some ({sh with permits := sh.permits + 1},.returned)
  | .recordRejected,_ => some ({sh with stats := recordRejected cfg.overload_policy sh.stats},.returned)
  | .recordSubmitted,_ => some ({sh with stats := sh.stats.recordSubmitted},.returned)
  | .recordStarted,_ => some ({sh with stats := sh.stats.recordStarted},.returned)
  | .recordCompleted,_ => some ({sh with stats := sh.stats.recordCompleted},.returned)
  | .recordErrored,_ => some ({sh with stats := sh.stats.recordErrored},.returned)
  | .submit,fate =>
    if sh.shutdown then some (sh,.runtimeError)
    else match fate with
      | .returned => some (sh,.returned)
      | .threadStarted => if sh.threads < cfg.max_workers then some ({sh with threads := sh.threads + 1},.returned) else none
      | .startFailed => if sh.threads < cfg.max_workers then some (sh,.runtimeError) else none
      | _ => none
  | _,fate => fate.result.map fun result => (sh,result)

def Request.note (r : Request) (call : Call) (result : Result) : Request :=
  if result = .denied then r else {r with calls := call :: r.calls}

-- An open executor queues the call before it adjusts its threads, whatever
-- comes of that; a closed one raises with nothing queued.
def Request.accepted (cfg : XMLRPCServerConfig) (sh : Shared) (r : Request) (call : Call) (result : Result) : Request :=
  {r.note call result with
    stage := processRequest.next cfg r.stage result
    job := if call = .submit ∧ sh.shutdown = false then .queued else r.job}

def Request.worked (r : Request) (call : Call) (result : Result) : Request :=
  {r.note call result with job := processRequestWorker.next r.job result}

def Request.taken (r : Request) : Request := {r with job := .starting}

inductive Entry where
  | shutdownExecutor (wait : Bool)
  | serverClose
  deriving DecidableEq, Repr

def Entry.wait : Entry → Bool
  | .shutdownExecutor wait => wait
  | .serverClose => true

inductive Phase where
  | entering
  | holding
  | joining
  | marking
  | socket
  | returned
  | raised
  deriving DecidableEq, Repr

-- The RPC handler of a request in `finish_request` makes the call, or no worker at all.
structure Closer where
  handler : Option Nat
  entry : Entry
  phase : Phase
  deriving DecidableEq, Repr

def Phase.isOver : Phase → Bool
  | .returned | .raised => true
  | _ => false

def Entry.leave : Entry → Phase
  | .shutdownExecutor _ => .returned
  | .serverClose => .socket

-- `lock` is the closer that holds `_executor_lock`, `closed` is `_executor_closed`.
structure State where
  shared : Shared
  requests : List Request
  closers : List Closer
  lock : Option Nat
  closed : Bool
  deriving DecidableEq, Repr

def start (cfg : XMLRPCServerConfig) : State :=
  ⟨⟨cfg.capacity,.init,0,false⟩,[],[],none,false⟩

inductive Action where
  | arrive
  | accept (i : Nat) (fate : Fate)
  | take (i : Nat)
  | work (i : Nat) (fate : Fate)
  | call (handler : Option Nat) (entry : Entry)
  | close (c : Nat) (fate : Fate)
  deriving DecidableEq, Repr

def State.running (s : State) : Nat := s.requests.countP (·.job.running)

def State.drained (s : State) : Bool := s.requests.all fun r => r.job != .queued && !r.job.running

def acceptStep (cfg : XMLRPCServerConfig) (s : State) (i : Nat) (fate : Fate) : Option State := do
  let r ← s.requests[i]?
  let call ← processRequest r.stage
  let (shared,result) ← perform cfg s.shared call fate
  some {s with shared := shared,requests := s.requests.set i (r.accepted cfg s.shared call result)}

-- Any queued call may be the next one; the oldest first is one such order.
def takeStep (s : State) (i : Nat) : Option State := do
  let r ← s.requests[i]?
  if r.job = .queued ∧ s.running < s.shared.threads then
    some {s with requests := s.requests.set i r.taken}
  else none

-- A handler does not return before its own shutdown calls have ended.
def workStep (cfg : XMLRPCServerConfig) (s : State) (i : Nat) (fate : Fate) : Option State := do
  let r ← s.requests[i]?
  if r.job = .finishing ∧ s.closers.any (fun c => c.handler = some i && !c.phase.isOver) then none else do
    let call ← processRequestWorker r.job
    let (shared,result) ← perform cfg s.shared call fate
    some {s with shared := shared,requests := s.requests.set i (r.worked call result)}

def callStep (s : State) (handler : Option Nat) (entry : Entry) : Option State :=
  let next := {s with closers := s.closers ++ [⟨handler,entry,.entering⟩]}
  match handler with
  | none => some next
  | some i =>
    match s.requests[i]? with
    | some r => if r.job = .finishing then some next else none
    | none => none

def State.advance (s : State) (c : Nat) (k : Closer) (phase : Phase) : State :=
  {s with closers := s.closers.set c {k with phase := phase}}

-- `with self._executor_lock:` spans `holding` to `marking`. The pool's own
-- threads cannot be joined by one of them: that raises, and the lock is released.
def closeStep (s : State) (c : Nat) (fate : Fate) : Option State := do
  let k ← s.closers[c]?
  match k.phase with
  | .entering => if s.lock = none then some {s.advance c k .holding with lock := some c} else none
  | .holding =>
    if s.closed then some {s.advance c k k.entry.leave with lock := none}
    else some {s.advance c k (if k.entry.wait then .joining else .marking) with
      shared := {s.shared with shutdown := true}}
  | .joining =>
    match k.handler with
    | some _ => some {s.advance c k .raised with lock := none}
    | none => if s.drained then some (s.advance c k .marking) else none
  | .marking => some {s.advance c k k.entry.leave with lock := none,closed := true}
  | .socket =>
    match fate with
    | .returned => some (s.advance c k .returned)
    | .exception => some (s.advance c k .raised)
    | _ => none
  | .returned | .raised => none

def step (cfg : XMLRPCServerConfig) (s : State) : Action → Option State
  | .arrive =>
    if s.requests.all (·.stage.isOver) then some {s with requests := s.requests ++ [.arrived cfg]} else none
  | .accept i fate => acceptStep cfg s i fate
  | .take i => takeStep s i
  | .work i fate => workStep cfg s i fate
  | .call handler entry => callStep s handler entry
  | .close c fate => closeStep s c fate

abbrev Runs (cfg : XMLRPCServerConfig) (admitted : State → Action → Prop) :=
  TransitionRuns.Runs (step cfg) admitted (start cfg)

def handover (i : Nat) (fate : Fate) : List Action :=
  [.arrive,.accept i .returned,.accept i .returned,.accept i fate]

def service (i : Nat) : List Action :=
  [.take i,.work i .returned,.work i .returned,.work i .returned,.work i .returned,.work i .returned]

end XmlrpcExtended.Server
