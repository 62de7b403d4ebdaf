import XmlrpcExtended.AsgiConnections

namespace XmlrpcExtended.Connections
open Dispatch Http SlotTotals

variable {isNone : Value → Bool} {server : Server isNone} {sizes : Asgi.Sizes} {admitted : State → Action → Prop} {s next : State}
  {pools fresh : Asgi.State} {c c' : Connection} {await : Await}

def Received.request? : Received → Option Http.Event
  | .request event => some event
  | .lifespan _ => none

-- What `_read_body` has made of the events that came.
def bodyOf (events : List Received) : Option ReadState :=
  readBody (fun k => events[k]?.bind Received.request?) events.length

theorem readBody_congr {events others : Nat → Option Http.Event} (same : ∀ k < n, events k = others k) :
    readBody events n = readBody others n := by
  induction n with
  | zero => rfl
  | succ n ih =>
    rw [readBody,readBody,ih fun k below => same k (Nat.lt_succ_of_lt below),same n (Nat.lt_succ_self n)]

theorem bodyOf_heard {events : List Received} (reads : bodyOf events = some (.reading chunks)) (event : Http.Event) :
    bodyOf (events ++ [.request event]) = some (Http.receive chunks event) := by
  unfold bodyOf at reads ⊢
  have earlier : readBody (fun k => (events ++ [Received.request event])[k]?.bind Received.request?) events.length =
      some (.reading chunks) := by
    rw [← reads]
    apply readBody_congr
    intro k below
    rw [List.getElem?_append_left below]
  rw [List.length_append,List.length_singleton,readBody,earlier]
  simp [Received.request?]

def Opens (server : Server isNone) (scope : Http.Scope) : Prop :=
  scope.path.getD (text "/") = server.app.rpc_path ∧ server.upper (scope.method.getD (text "GET")) = text "POST"

-- The messages that a request is to be answered with, once its body has come.
inductive Due (server : Server isNone) (scope : Http.Scope) (events : List Received) : List Message → Prop where
  | notFound (path : scope.path.getD (text "/") ≠ server.app.rpc_path) : Due server scope events notFound
  | notAllowed (path : scope.path.getD (text "/") = server.app.rpc_path)
      (method : server.upper (scope.method.getD (text "GET")) ≠ text "POST") : Due server scope events methodNotAllowed
  | tooLarge (opens : Opens server scope) (whole : bodyOf events = some (.complete body))
      (large : server.app.max_request_size < body.length) : Due server scope events payloadTooLarge
  | answered (opens : Opens server scope) (whole : bodyOf events = some (.complete body))
      (small : body.length ≤ server.app.max_request_size) (response : Bytes) :
      Due server scope events (sendHttpResponse 200 response xmlContentType [])

theorem due_two (due : Due server scope events messages) : messages.length = 2 := by
  cases due <;> rfl

def Posted (server : Server isNone) (scope : Http.Scope) (events : List Received) : Prop :=
  Opens server scope ∧ ∃ body, bodyOf events = some (.complete body) ∧ body.length ≤ server.app.max_request_size

-- Where the coroutine of an HTTP connection is, by what it has heard, called and sent.
inductive Requests (server : Server isNone) (scope : Http.Scope) : Connection → Prop where
  | reading (opens : Opens server scope) (reads : bodyOf events = some (.reading chunks)) :
      Requests server scope ⟨.http scope,.body chunks,events,[],[]⟩
  | calling (posted : Posted server scope events) : Requests server scope ⟨.http scope,.handler call,events,[call],[]⟩
  | stalled (posted : Posted server scope events) : Requests server scope ⟨.http scope,.stalled,events,[some j],[]⟩
  | raised (posted : Posted server scope events) (once : calls.length ≤ 1) :
      Requests server scope ⟨.http scope,.raised,events,calls,[]⟩
  | sending (due : Due server scope events messages) (parts : messages.map .response = gone ++ message :: rest) (once : calls.length ≤ 1) :
      Requests server scope ⟨.http scope,.sending (message :: rest) false,events,calls,gone⟩
  | returned (due : Due server scope events messages) (once : calls.length ≤ 1) :
      Requests server scope ⟨.http scope,.returned,events,calls,messages.map .response⟩

def announced (events : List Received) : List Sent := events.filterMap fun
  | .lifespan .startup => some .startupComplete
  | .lifespan .shutdown => some .shutdownComplete
  | _ => none

-- The shutdown event is the last one that is heard.
inductive Announces : Connection → Prop where
  | listening (none_ : .lifespan .shutdown ∉ events) : Announces ⟨.lifespan,.listening,events,[],announced events⟩
  | starting (none_ : .lifespan .shutdown ∉ events) (parts : announced events = gone ++ [message]) :
      Announces ⟨.lifespan,.sending [message] true,events,[],gone⟩
  | waiting (none_ : .lifespan .shutdown ∉ earlier) :
      Announces ⟨.lifespan,.pool,earlier ++ [.lifespan .shutdown],[],announced earlier⟩
  | stopping (none_ : .lifespan .shutdown ∉ earlier) :
      Announces ⟨.lifespan,.sending [.shutdownComplete] false,earlier ++ [.lifespan .shutdown],[],announced earlier⟩
  | returned (none_ : .lifespan .shutdown ∉ earlier) :
      Announces ⟨.lifespan,.returned,earlier ++ [.lifespan .shutdown],[],announced earlier ++ [.shutdownComplete]⟩

inductive Stands (server : Server isNone) : Connection → Prop where
  | http {c : Connection} (requests : Requests server scope c) : Stands server c
  | lifespan {c : Connection} (announces : Announces c) : Stands server c
  | ignored : Stands server ⟨.other,.returned,[],[],[]⟩

theorem announced_heard (events : List Received) (event : Received) :
    announced (events ++ [event]) = announced events ++ announced [event] :=
  List.filterMap_append

theorem sending_due (due : Due server scope events messages) (once : calls.length ≤ 1) :
    Requests server scope ⟨.http scope,responds messages,events,calls,[]⟩ := by
  have two := due_two due
  match messages,two with
  | [first,second],_ => exact .sending due rfl once

theorem outcome_stands (posted : Posted server scope events) (once : calls.length ≤ 1) (outcome : Outcome) :
    Requests server scope ⟨.http scope,outcome.await,events,calls,[]⟩ := by
  cases outcome with
  | answered response =>
    obtain ⟨opens,body,whole,small⟩ := posted
    exact sending_due (.answered opens whole small response) once
  | escaped => exact .raised posted once

theorem called_stands (scope : Scope) : Stands server ⟨scope,server.call scope,[],[],[]⟩ := by
  cases scope with
  | http scope =>
    refine .http (show Requests server scope _ from ?_)
    by_cases path : scope.path.getD (text "/") = server.app.rpc_path
    · by_cases method : server.upper (scope.method.getD (text "GET")) = text "POST"
      · have reads : server.call (.http scope) = .body [] := by simp [Server.call,path,method]
        rw [reads]
        exact .reading ⟨path,method⟩ rfl
      · have refused : server.call (.http scope) = responds methodNotAllowed := by simp [Server.call,path,method]
        rw [refused]
        exact sending_due (.notAllowed path method) (Nat.zero_le _)
    · have refused : server.call (.http scope) = responds notFound := by simp [Server.call,path]
      rw [refused]
      exact sending_due (.notFound path) (Nat.zero_le _)
  | lifespan => exact .lifespan (.listening (by simp))
  | other => exact .ignored

theorem dispatched_stands (made : Dispatched sizes pools fresh await) (posted : Posted server scope events) :
    Requests server scope ⟨.http scope,await,events,await.calls,[]⟩ := by
  have ended : ∀ outcome : Outcome, Requests server scope ⟨.http scope,outcome.await,events,outcome.await.calls,[]⟩ := by
    intro outcome
    cases outcome with
    | answered response => exact outcome_stands posted (Nat.zero_le _) (.answered response)
    | escaped => exact outcome_stands posted (Nat.zero_le _) .escaped
  cases made with
  | ended outcome | refused _ _ outcome => exact ended outcome
  | awaits | submitted => exact .calling posted

theorem requests_heard (requests : Requests server scope c) (hears : Hears server pools c fresh c') : Requests server scope c' := by
  cases requests with
  | reading opens reads =>
    cases hears with
    | read at_ more =>
      cases at_
      exact .reading opens ((bodyOf_heard reads _).trans (congrArg some more))
    | tooLarge at_ ends large =>
      cases at_
      exact sending_due (.tooLarge opens ((bodyOf_heard reads _).trans (congrArg some ends)) large) (Nat.zero_le _)
    | dispatched at_ ends small made =>
      cases at_
      exact dispatched_stands made ⟨opens,_,(bodyOf_heard reads _).trans (congrArg some ends),small⟩
    | startup at_ | stopping at_ | stopped at_ | ignored at_ => cases at_
  | calling | stalled | raised | sending | returned =>
    cases hears with
    | read at_ | tooLarge at_ | dispatched at_ | startup at_ | stopping at_ | stopped at_ | ignored at_ => cases at_

theorem announces_heard (announces : Announces c) (hears : Hears server pools c fresh c') : Announces c' := by
  cases announces with
  | listening none_ =>
    cases hears with
    | read at_ | tooLarge at_ | dispatched at_ => cases at_
    | startup at_ ran => exact .starting (by simp [none_]) (announced_heard _ _)
    | stopping at_ ran waits => exact .waiting none_
    | stopped at_ ran idle => exact .stopping none_
    | ignored at_ =>
      rename_i events
      have silent : announced (events ++ [.lifespan .other]) = announced events :=
        (announced_heard events (.lifespan .other)).trans (List.append_nil _)
      have heard : Announces ⟨.lifespan,.listening,events ++ [.lifespan .other],[],announced (events ++ [.lifespan .other])⟩ :=
        .listening (by simp [none_])
      rw [silent] at heard
      exact heard
  | starting | waiting | stopping | returned =>
    cases hears with
    | read at_ | tooLarge at_ | dispatched at_ | startup at_ | stopping at_ | stopped at_ | ignored at_ => cases at_

theorem requests_proceed (requests : Requests server scope c) (proceeds : Proceeds c c') : Requests server scope c' := by
  cases requests with
  | calling posted =>
    cases proceeds with
    | woke at_ outcome => exact outcome_stands posted (Nat.le_refl _) outcome
    | stalled at_ =>
      cases at_
      exact .stalled posted
    | sent at_ => cases at_
  | @sending events messages gone message rest calls due parts once =>
    cases proceeds with
    | woke at_ | stalled at_ => cases at_
    | sent at_ =>
      cases at_
      cases rest with
      | nil =>
        have returned := Requests.returned due once
        rw [parts] at returned
        exact returned
      | cons next rest => exact .sending due (by rw [parts,List.append_cons]) once
  | reading | stalled | raised | returned =>
    cases proceeds with
    | woke at_ | stalled at_ | sent at_ => cases at_

theorem announces_proceed (announces : Announces c) (proceeds : Proceeds c c') : Announces c' := by
  cases announces with
  | starting none_ parts =>
    cases proceeds with
    | woke at_ | stalled at_ => cases at_
    | sent at_ =>
      cases at_
      have listening := Announces.listening none_
      rw [parts] at listening
      exact listening
  | stopping none_ =>
    cases proceeds with
    | woke at_ | stalled at_ => cases at_
    | sent at_ =>
      cases at_
      exact .returned none_
  | listening | waiting | returned =>
    cases proceeds with
    | woke at_ | stalled at_ | sent at_ => cases at_

theorem resumed_stands (stands : Stands server c) : Stands server c.resumed := by
  cases stands with
  | http requests =>
    have same : c.resumed = c := by cases requests <;> rfl
    rw [same]
    exact .http requests
  | lifespan announces =>
    cases announces with
    | waiting none_ => exact .lifespan (.stopping none_)
    | listening none_ => exact .lifespan (.listening none_)
    | starting none_ parts => exact .lifespan (.starting none_ parts)
    | stopping none_ => exact .lifespan (.stopping none_)
    | returned none_ => exact .lifespan (.returned none_)
  | ignored => exact .ignored

theorem hears_stands (stands : Stands server c) (hears : Hears server pools c fresh c') : Stands server c' := by
  cases stands with
  | http requests => exact .http (requests_heard requests hears)
  | lifespan announces => exact .lifespan (announces_heard announces hears)
  | ignored =>
    cases hears with
    | read at_ | tooLarge at_ | dispatched at_ | startup at_ | stopping at_ | stopped at_ | ignored at_ => cases at_

theorem proceeds_stands (stands : Stands server c) (proceeds : Proceeds c c') : Stands server c' := by
  cases stands with
  | http requests => exact .http (requests_proceed requests proceeds)
  | lifespan announces => exact .lifespan (announces_proceed announces proceeds)
  | ignored =>
    cases proceeds with
    | woke at_ | stalled at_ | sent at_ => cases at_

theorem moved_stands (stands : ∀ c ∈ s.connections, Stands server c) (moved : Moved server s action next) :
    ∀ c ∈ next.connections, Stands server c := by
  intro c member
  cases moved with
  | connected free =>
    rcases List.mem_append.mp member with old | new
    · exact stands c old
    · rw [List.mem_singleton.mp new]
      exact called_stands _
  | heard free found hears =>
    rcases List.mem_or_eq_of_mem_set member with old | rfl
    · exact stands c old
    · exact hears_stands (stands _ (List.mem_of_getElem? found)) hears
  | proceeded free found proceeds =>
    rcases List.mem_or_eq_of_mem_set member with old | rfl
    · exact stands c old
    · exact proceeds_stands (stands _ (List.mem_of_getElem? found)) proceeds
  | closed => exact stands c member
  | worked => exact stands c member
  | resumed =>
    obtain ⟨before,old,rfl⟩ := List.mem_map.mp member
    exact resumed_stands (stands before old)

theorem runs_stand (path : Runs server admitted actions s) : ∀ c ∈ s.connections, Stands server c := by
  apply path.keeps fun s => ∀ c ∈ s.connections, Stands server c
  · intro c member
    cases member
  · intro _ _ _ _ _ stands _ ran
    exact moved_stands stands (step_sound ran)

-- How many connections have made the call with this number.
def State.owners (s : State) (j : Nat) : Nat := (s.connections.map fun c => c.calls.count (some j)).sum

theorem steady_calls (steady : ∀ handler, action ≠ .dispatch handler) (ran : Asgi.step sizes pools action = some fresh) :
    fresh.calls.length = pools.calls.length := by
  have stopped : ∀ moment, (Asgi.State.stop {pools with moment := none} moment).calls = pools.calls := by
    intro moment
    unfold Asgi.State.stop
    split <;> rfl
  cases action with
  | dispatch handler => exact absurd rfl (steady handler)
  | startup =>
    simp only [Asgi.step] at ran
    split at ran <;> cases ran
    rfl
  | shutdown =>
    simp only [Asgi.step] at ran
    split at ran <;> cases ran
    rw [stopped]
  | close =>
    simp only [Asgi.step] at ran
    split at ran <;> cases ran
    rw [stopped]
  | resume =>
    change Asgi.resume {pools with moment := none} = some fresh at ran
    unfold Asgi.resume at ran
    split at ran
    · split at ran <;> cases ran
      rfl
    · cases ran
  | pickUp j | finish j =>
    obtain ⟨call,found,ran⟩ := Option.bind_eq_some_iff.mp ran
    split at ran <;> cases ran
    simp [Asgi.State.advance]

-- A call that is new on the pools is one of the connection that has just heard.
def Adds (pools fresh : Asgi.State) (c c' : Connection) : Prop :=
  fresh.calls.length = pools.calls.length ∧ (∀ j, c'.calls.count (some j) = c.calls.count (some j)) ∨
    fresh.calls.length = pools.calls.length + 1 ∧
      ∀ j, c'.calls.count (some j) = c.calls.count (some j) + if j = pools.calls.length then 1 else 0

theorem hears_adds (hears : Hears server pools c fresh c') : Adds pools fresh c c' := by
  have silent : ∀ {await : Await} {event : Received}, (∀ j, some j ∉ await.calls) → ∀ j : Nat,
      (c.hear event await).calls.count (some j) = c.calls.count (some j) := by
    intro await event none_ j
    simp [Connection.hear,List.count_append,List.count_eq_zero.mpr (none_ j)]
  cases hears with
  | read | tooLarge | ignored => exact .inl ⟨rfl,silent (by simp [Await.calls,responds])⟩
  | startup _ ran | stopping _ ran | stopped _ ran =>
    exact .inl ⟨steady_calls (by simp) ran,silent (by simp [Await.calls])⟩
  | dispatched _ _ _ made =>
    cases made with
    | ended outcome => exact .inl ⟨rfl,silent (by cases outcome <;> simp [Outcome.await,responds,Await.calls])⟩
    | awaits _ kept => exact .inl ⟨by rw [kept],silent (by simp [Await.calls])⟩
    | refused _ kept outcome =>
      exact .inl ⟨by rw [kept],silent (by cases outcome <;> simp [Outcome.await,responds,Await.calls])⟩
    | submitted _ added =>
      refine .inr ⟨by simp [added],fun j => ?_⟩
      by_cases here : j = pools.calls.length
      · simp [Connection.hear,Await.calls,here]
      · simp [Connection.hear,Await.calls,here,Ne.symm here]

theorem moved_owners (owned : ∀ j, s.owners j = if j < s.pools.calls.length then 1 else 0) (moved : Moved server s action next) (j : Nat) :
    next.owners j = if j < next.pools.calls.length then 1 else 0 := by
  have before := owned j
  cases moved with
  | connected => simpa [State.owners] using before
  | @heard i c pools c' event plan free found hears =>
    have sums := sum_set (fun c : Connection => c.calls.count (some j)) found c'
    change State.owners ⟨pools,s.connections.set i c'⟩ j + _ = s.owners j + _ at sums
    change State.owners ⟨pools,s.connections.set i c'⟩ j = if j < pools.calls.length then 1 else 0
    rcases hears_adds hears with ⟨length,same⟩ | ⟨length,more⟩
    · have count := same j
      rw [length]
      omega
    · have count := more j
      rw [length]
      split at before <;> split at count <;> split <;> omega
  | @proceeded i c c' action free found proceeds stalls =>
    have sums := sum_set (fun c : Connection => c.calls.count (some j)) found c'
    have same : c'.calls = c.calls := by cases proceeds <;> rfl
    change State.owners ⟨s.pools,s.connections.set i c'⟩ j + _ = s.owners j + _ at sums
    change State.owners ⟨s.pools,s.connections.set i c'⟩ j = if j < s.pools.calls.length then 1 else 0
    rw [same] at sums
    omega
  | closed ran =>
    rw [steady_calls (by simp) ran]
    exact before
  | worked thread ran =>
    rw [steady_calls (by rcases thread with rfl | rfl <;> simp) ran]
    exact before
  | resumed ran =>
    have same : ∀ c : Connection, c.resumed.calls = c.calls := by
      intro c
      unfold Connection.resumed
      split <;> rfl
    rw [steady_calls (by simp) ran]
    simpa [State.owners,List.map_map,Function.comp_def,same] using before

theorem runs_owners (path : Runs server admitted actions s) (j : Nat) : s.owners j = if j < s.pools.calls.length then 1 else 0 := by
  have owned : ∀ j, s.owners j = if j < s.pools.calls.length then 1 else 0 := by
    apply path.keeps fun s => ∀ j, s.owners j = if j < s.pools.calls.length then 1 else 0
    · intro j
      rfl
    · intro _ _ _ _ _ owned _ ran
      exact moved_owners owned (step_sound ran)
  exact owned j

-- The request by itself, with these events and the same result of the dispatch, is answered with the same messages.
def Alone (server : Server isNone) (scope : Http.Scope) (events : List Received) (messages : List Message) : Prop :=
  ∀ {World : Type} (py : Python Value Exn World) (codec : Codec) (w next : World),
    (∀ body response, bodyOf events = some (.complete body) → messages = sendHttpResponse 200 response xmlContentType [] →
      asyncMarshaledDispatch py codec server.app.toXMLRPCASGIApp body w = .ok response next) →
    ∃ ops last, serve py codec server.upper server.app scope (fun k => events[k]?.bind Received.request?) events.length w =
      some (ops,.ok () last) ∧ Http.sent ops = messages

theorem body_looped (whole : bodyOf events = some (.complete body)) :
    ∃ n, readLoop (fun k => events[k]?.bind Received.request?) [] 0 events.length = some (List.replicate n .receive,body) := by
  unfold bodyOf at whole
  generalize events.length = length at whole ⊢
  cases length with
  | zero => cases whole
  | succ n => exact ⟨n + 1,readLoop_start.mpr ⟨n,Nat.lt_succ_self n,whole,rfl⟩⟩

theorem due_alone (due : Due server scope events messages) : Alone server scope events messages := by
  intro World py codec w next gives
  cases due with
  | notFound path => exact ⟨_,w,if_pos path,sent_sends _⟩
  | notAllowed path method =>
    refine ⟨_,w,?_,sent_sends methodNotAllowed⟩
    simp only [serve,path,method,ne_eq,not_true_eq_false,not_false_eq_true,if_false,if_true]
  | tooLarge opens whole large =>
    obtain ⟨n,looped⟩ := body_looped whole
    refine ⟨List.replicate n .receive ++ payloadTooLarge.map .send,w,?_,by simp⟩
    simp only [serve,opens.1,opens.2,looped,answer,large,gt_iff_lt,ne_eq,not_true_eq_false,if_false,if_true,Option.map_some]
  | @answered body opens whole small response =>
    obtain ⟨n,looped⟩ := body_looped whole
    have ran := gives _ response whole rfl
    refine ⟨List.replicate n .receive ++ .dispatch body :: (sendHttpResponse 200 response xmlContentType []).map .send,next,?_,by simp⟩
    simp only [serve,opens.1,opens.2,looped,answer,Nat.not_lt.mpr small,ran,gt_iff_lt,ne_eq,not_true_eq_false,if_false,Option.map_some]

structure Conforms (server : Server isNone) (s : State) : Prop where
  stands : ∀ c ∈ s.connections, Stands server c
  once : ∀ c ∈ s.connections, c.calls.length ≤ 1
  owned : ∀ j, s.owners j = if j < s.pools.calls.length then 1 else 0
  alone : ∀ c ∈ s.connections, ∀ scope, c.scope = .http scope → c.await = .returned →
    ∃ messages, c.sent = messages.map .response ∧ Due server scope c.received messages ∧ Alone server scope c.received messages

theorem stands_once (stands : Stands server c) : c.calls.length ≤ 1 := by
  cases stands with
  | http requests =>
    cases requests with
    | reading | calling | stalled => simp
    | raised _ once | sending _ _ once | returned _ once => exact once
  | lifespan announces => cases announces <;> exact Nat.zero_le _
  | ignored => exact Nat.zero_le _

theorem stands_answered (stands : Stands server c) (http : c.scope = .http scope) (done : c.await = .returned) :
    ∃ messages, c.sent = messages.map .response ∧ Due server scope c.received messages := by
  cases stands with
  | http requests =>
    cases requests with
    | returned due once =>
      cases http
      exact ⟨_,rfl,due⟩
    | reading | calling | stalled | raised | sending => cases done
  | lifespan announces => cases announces <;> cases http
  | ignored => cases http

-- However the connections of one event loop fall between each other, each one is answered as it is by itself.
theorem connections_conform (path : Runs server admitted actions s) :
    (∃ moves, Asgi.Runs server.sizes TransitionRuns.Anything moves s.pools ∧ moves.length ≤ actions.length) ∧ Conforms server s := by
  have stands := runs_stand path
  refine ⟨runs_pools path,stands,fun c member => stands_once (stands c member),runs_owners path,?_⟩
  intro c member scope http done
  obtain ⟨messages,sent_,due⟩ := stands_answered (stands c member) http done
  exact ⟨messages,sent_,due,due_alone due⟩

def roomyServer : Server (faulting 0).isNone := ⟨roomyApp,id,Asgi.one⟩

-- A request is on its way when the shutdown comes: the loop waits for its handler, and both are answered.
def shutdownSchedule : List Action :=
  [.connect .lifespan,.connect (.http postScope),.receive 0 (.lifespan .startup) (.ended .escaped),.send 0,
    .receive 1 (.request (.request (some [60]) none)) (.handler .function .escaped),.receive 0 (.lifespan .shutdown) (.ended .escaped),
    .pickUp 0,.finish 0,.resume,.wake 1 (.answered [62]),.send 1,.send 0,.send 1]

theorem connections_conform_shutdown : ∃ s, Runs roomyServer TransitionRuns.Anything shutdownSchedule s ∧ Conforms roomyServer s ∧
    s.connections.map (·.sent) = [[.startupComplete,.shutdownComplete],(sendHttpResponse 200 [62] xmlContentType []).map .response] := by
  have ran : (TransitionRuns.execute (step roomyServer) TransitionRuns.Anything start shutdownSchedule).any
      (fun s => s.connections.map (·.sent) ==
        [[.startupComplete,.shutdownComplete],(sendHttpResponse 200 [62] xmlContentType []).map .response]) = true := by decide
  obtain ⟨s,path,seen⟩ := TransitionRuns.execute_reaches ran
  exact ⟨s,path,(connections_conform path).2,beq_iff_eq.mp seen⟩

end XmlrpcExtended.Connections
