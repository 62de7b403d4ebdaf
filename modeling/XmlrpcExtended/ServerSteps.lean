import XmlrpcExtended.ServerMachine

namespace XmlrpcExtended.Server

variable {cfg : XMLRPCServerConfig} {admitted : State → Action → Prop}

def Call.foreign : Call → Bool
  | .settimeout | .sendResponse | .finishRequest | .shutdownRequest | .handleError => true
  | _ => false

-- What one call does, its guards included: later proofs go through these rules.
inductive Performed (cfg : XMLRPCServerConfig) (sh : Shared) : Call → Fate → Shared → Result → Prop where
  | acquired (free : 0 < sh.permits) :
      Performed cfg sh .acquire fate {sh with permits := sh.permits - 1} .returned
  | denied (full : sh.permits = 0) (policy : cfg.overload_policy ≠ .BLOCK) : Performed cfg sh .acquire fate sh .denied
  | released : Performed cfg sh .release fate {sh with permits := sh.permits + 1} .returned
  | rejected : Performed cfg sh .recordRejected fate
      {sh with stats := recordRejected cfg.overload_policy sh.stats} .returned
  | submitted : Performed cfg sh .recordSubmitted fate {sh with stats := sh.stats.recordSubmitted} .returned
  | started : Performed cfg sh .recordStarted fate {sh with stats := sh.stats.recordStarted} .returned
  | completed : Performed cfg sh .recordCompleted fate {sh with stats := sh.stats.recordCompleted} .returned
  | errored : Performed cfg sh .recordErrored fate {sh with stats := sh.stats.recordErrored} .returned
  | closed (shut : sh.shutdown = true) : Performed cfg sh .submit fate sh .runtimeError
  | queued (opened : sh.shutdown = false) : Performed cfg sh .submit .returned sh .returned
  | thread (opened : sh.shutdown = false) (room : sh.threads < cfg.max_workers) :
      Performed cfg sh .submit .threadStarted {sh with threads := sh.threads + 1} .returned
  | threadless (opened : sh.shutdown = false) (room : sh.threads < cfg.max_workers) :
      Performed cfg sh .submit .startFailed sh .runtimeError
  | outside (foreign : call.foreign = true) (ended : fate.result = some result) : Performed cfg sh call fate sh result

theorem submit_sound (ran : perform cfg sh .submit fate = some (after,result)) :
    Performed cfg sh .submit fate after result := by
  simp only [perform] at ran
  split at ran
  · rename_i shut
    cases ran
    exact .closed shut
  · rename_i opened
    have opened : sh.shutdown = false := by simpa using opened
    cases fate with
    | returned => cases ran; exact .queued opened
    | threadStarted =>
      dsimp only at ran
      split at ran <;> cases ran
      exact .thread opened ‹_›
    | startFailed =>
      dsimp only at ran
      split at ran <;> cases ran
      exact .threadless opened ‹_›
    | exception => cases ran
    | baseException => cases ran

theorem perform_sound (ran : perform cfg sh call fate = some (after,result)) : Performed cfg sh call fate after result := by
  cases call with
  | acquire =>
    simp only [perform] at ran
    split at ran
    · cases ran
      exact .acquired ‹_›
    · split at ran <;> cases ran
      exact .denied (by omega) ‹_›
  | submit => exact submit_sound ran
  | release => cases ran; exact .released
  | recordRejected => cases ran; exact .rejected
  | recordSubmitted => cases ran; exact .submitted
  | recordStarted => cases ran; exact .started
  | recordCompleted => cases ran; exact .completed
  | recordErrored => cases ran; exact .errored
  | settimeout | sendResponse | finishRequest | shutdownRequest | handleError =>
    obtain ⟨result,ended,same⟩ := Option.map_eq_some_iff.mp ran
    cases same
    exact .outside rfl ended

inductive RequestStep (cfg : XMLRPCServerConfig) : State → Action → State → Prop where
  | arrive (free : ∀ r ∈ s.requests, r.stage.isOver = true) :
      RequestStep cfg s .arrive {s with requests := s.requests ++ [.arrived cfg]}
  | accept (found : s.requests[i]? = some r) (made : processRequest r.stage = some call)
      (ran : perform cfg s.shared call fate = some (shared,result)) :
      RequestStep cfg s (.accept i fate)
        {s with shared := shared,requests := s.requests.set i (r.accepted cfg s.shared call result)}
  | take (found : s.requests[i]? = some r) (queued : r.job = .queued) (idle : s.running < s.shared.threads) :
      RequestStep cfg s (.take i) {s with requests := s.requests.set i r.taken}
  | work (found : s.requests[i]? = some r) (made : processRequestWorker r.job = some call)
      (ran : perform cfg s.shared call fate = some (shared,result)) :
      RequestStep cfg s (.work i fate)
        {s with shared := shared,requests := s.requests.set i (r.worked call result)}

inductive CloserStep : State → Action → State → Prop where
  | call (entered : ∀ i, handler = some i → ∃ r, s.requests[i]? = some r ∧ r.job = .finishing) :
      CloserStep s (.call handler entry) {s with closers := s.closers ++ [⟨handler,entry,.entering⟩]}
  | lock (found : s.closers[c]? = some k) (phase : k.phase = .entering) (free : s.lock = none) :
      CloserStep s (.close c fate) {s.advance c k .holding with lock := some c}
  | already (found : s.closers[c]? = some k) (phase : k.phase = .holding) (closed : s.closed = true) :
      CloserStep s (.close c fate) {s.advance c k k.entry.leave with lock := none}
  | shutdown (found : s.closers[c]? = some k) (phase : k.phase = .holding) (opened : s.closed = false) :
      CloserStep s (.close c fate) {s.advance c k (if k.entry.wait then .joining else .marking) with
        shared := {s.shared with shutdown := true}}
  | selfJoin (found : s.closers[c]? = some k) (phase : k.phase = .joining) (inside : k.handler = some i) :
      CloserStep s (.close c fate) {s.advance c k .raised with lock := none}
  | joined (found : s.closers[c]? = some k) (phase : k.phase = .joining) (outside : k.handler = none)
      (drained : s.drained = true) :
      CloserStep s (.close c fate) (s.advance c k .marking)
  | mark (found : s.closers[c]? = some k) (phase : k.phase = .marking) :
      CloserStep s (.close c fate) {s.advance c k k.entry.leave with lock := none,closed := true}
  | socket (found : s.closers[c]? = some k) (phase : k.phase = .socket)
      (ended : after = .returned ∨ after = .raised) :
      CloserStep s (.close c fate) (s.advance c k after)

theorem accept_sound (ran : acceptStep cfg s i fate = some next) : RequestStep cfg s (.accept i fate) next := by
  obtain ⟨r,found,ran⟩ := Option.bind_eq_some_iff.mp ran
  obtain ⟨call,made,ran⟩ := Option.bind_eq_some_iff.mp ran
  obtain ⟨⟨shared,result⟩,performed,ran⟩ := Option.bind_eq_some_iff.mp ran
  cases ran
  exact .accept found made performed

theorem take_sound (ran : takeStep s i = some next) : RequestStep cfg s (.take i) next := by
  obtain ⟨r,found,ran⟩ := Option.bind_eq_some_iff.mp ran
  split at ran
  · rename_i ready
    cases ran
    exact .take found ready.1 ready.2
  · cases ran

theorem work_sound (ran : workStep cfg s i fate = some next) : RequestStep cfg s (.work i fate) next := by
  obtain ⟨r,found,ran⟩ := Option.bind_eq_some_iff.mp ran
  split at ran
  · cases ran
  · obtain ⟨call,made,ran⟩ := Option.bind_eq_some_iff.mp ran
    obtain ⟨⟨shared,result⟩,performed,ran⟩ := Option.bind_eq_some_iff.mp ran
    cases ran
    exact .work found made performed

theorem call_sound (ran : callStep s handler entry = some next) : CloserStep s (.call handler entry) next := by
  unfold callStep at ran
  cases handler with
  | none => cases ran; exact .call fun i same => by cases same
  | some i =>
    dsimp only at ran
    split at ran
    · rename_i r found
      split at ran
      · rename_i inside
        cases ran
        refine .call ?_
        intro j same
        cases same
        exact ⟨r,found,inside⟩
      · cases ran
    · cases ran

theorem close_sound (ran : closeStep s c fate = some next) : CloserStep s (.close c fate) next := by
  obtain ⟨k,found,ran⟩ := Option.bind_eq_some_iff.mp ran
  cases phase : k.phase with
  | entering =>
    simp only [phase] at ran
    split at ran
    · rename_i free; cases ran; exact .lock found phase free
    · cases ran
  | holding =>
    simp only [phase] at ran
    split at ran
    · rename_i closed; cases ran; exact .already found phase closed
    · rename_i opened; cases ran; exact .shutdown found phase (by simpa using opened)
  | joining =>
    simp only [phase] at ran
    cases inside : k.handler with
    | some i => simp only [inside] at ran; cases ran; exact .selfJoin found phase inside
    | none =>
      simp only [inside] at ran
      split at ran
      · rename_i drained; cases ran; exact .joined found phase inside drained
      · cases ran
  | marking => simp only [phase] at ran; cases ran; exact .mark found phase
  | socket =>
    simp only [phase] at ran
    cases fate with
    | returned => cases ran; exact .socket found phase (.inl rfl)
    | exception => cases ran; exact .socket found phase (.inr rfl)
    | baseException => cases ran
    | threadStarted => cases ran
    | startFailed => cases ran
  | returned => simp only [phase] at ran; cases ran
  | raised => simp only [phase] at ran; cases ran

theorem step_sound (ran : step cfg s action = some next) :
    RequestStep cfg s action next ∨ CloserStep s action next := by
  cases action with
  | arrive =>
    simp only [step] at ran
    split at ran
    · rename_i free
      cases ran
      exact .inl (.arrive (by simpa using free))
    · cases ran
  | accept i fate => exact .inl (accept_sound ran)
  | take i => exact .inl (take_sound ran)
  | work i fate => exact .inl (work_sound ran)
  | call handler entry => exact .inr (call_sound ran)
  | close c fate => exact .inr (close_sound ran)

-- Of the shared objects the shutdown calls change the executor's flag only.
structure Frame (s next : State) : Prop where
  requests : next.requests = s.requests
  permits : next.shared.permits = s.shared.permits
  stats : next.shared.stats = s.shared.stats
  threads : next.shared.threads = s.shared.threads
  shutdown : s.shared.shutdown = true → next.shared.shutdown = true

theorem closer_frame (moved : CloserStep s action next) : Frame s next := by
  cases moved with
  | shutdown => exact ⟨rfl,rfl,rfl,rfl,fun _ => rfl⟩
  | call => exact ⟨rfl,rfl,rfl,rfl,id⟩
  | lock => exact ⟨rfl,rfl,rfl,rfl,id⟩
  | already => exact ⟨rfl,rfl,rfl,rfl,id⟩
  | selfJoin => exact ⟨rfl,rfl,rfl,rfl,id⟩
  | joined => exact ⟨rfl,rfl,rfl,rfl,id⟩
  | mark => exact ⟨rfl,rfl,rfl,rfl,id⟩
  | socket => exact ⟨rfl,rfl,rfl,rfl,id⟩

inductive Origin (cfg : XMLRPCServerConfig) (s : State) (action : Action) (r' : Request) : Prop where
  | kept (member : r' ∈ s.requests)
  | arrived (same : r' = .arrived cfg)
  | accepted (i : Nat) (r : Request) (call : Call) (fate : Fate) (shared : Shared) (result : Result)
      (acting : action = .accept i fate) (found : s.requests[i]? = some r)
      (made : processRequest r.stage = some call)
      (ran : perform cfg s.shared call fate = some (shared,result))
      (same : r' = r.accepted cfg s.shared call result)
  | taken (i : Nat) (r : Request) (acting : action = .take i) (found : s.requests[i]? = some r)
      (queued : r.job = .queued) (same : r' = r.taken)
  | worked (i : Nat) (r : Request) (call : Call) (fate : Fate) (shared : Shared) (result : Result)
      (acting : action = .work i fate) (found : s.requests[i]? = some r)
      (made : processRequestWorker r.job = some call)
      (ran : perform cfg s.shared call fate = some (shared,result))
      (same : r' = r.worked call result)

theorem step_origin (ran : step cfg s action = some next) (member : r' ∈ next.requests) :
    Origin cfg s action r' := by
  rcases step_sound ran with moved | moved
  · cases moved with
    | arrive =>
      rcases List.mem_append.mp member with old | new
      · exact .kept old
      · exact .arrived (List.mem_singleton.mp new)
    | accept found made performed =>
      rcases List.mem_or_eq_of_mem_set member with old | new
      · exact .kept old
      · exact .accepted _ _ _ _ _ _ rfl found made performed new
    | take found queued =>
      rcases List.mem_or_eq_of_mem_set member with old | new
      · exact .kept old
      · exact .taken _ _ rfl found queued new
    | work found made performed =>
      rcases List.mem_or_eq_of_mem_set member with old | new
      · exact .kept old
      · exact .worked _ _ _ _ _ _ rfl found made performed new
  · exact .kept ((closer_frame moved).requests ▸ member)

theorem runs_each (P : Request → Prop) (arrived : P (.arrived cfg))
    (accepted : ∀ {earlier} {s : State} {i : Nat} {r call fate shared result}, Runs cfg admitted earlier s → admitted s (.accept i fate) →
      s.requests[i]? = some r → P r → processRequest r.stage = some call →
      perform cfg s.shared call fate = some (shared,result) → P (r.accepted cfg s.shared call result))
    (taken : ∀ {earlier} {s : State} {i : Nat} {r}, Runs cfg admitted earlier s → s.requests[i]? = some r → P r → r.job = .queued → P r.taken)
    (worked : ∀ {earlier} {s : State} {i : Nat} {r call fate shared result}, Runs cfg admitted earlier s → admitted s (.work i fate) →
      s.requests[i]? = some r → P r → processRequestWorker r.job = some call →
      perform cfg s.shared call fate = some (shared,result) → P (r.worked call result))
    (path : Runs cfg admitted actions s) : ∀ r ∈ s.requests, P r := by
  apply path.keeps fun s => ∀ r ∈ s.requests, P r
  · intro r member
    cases member
  · intro earlier middle action next prior holds ok ran r' member
    have each : ∀ {i : Nat} {r : Request}, middle.requests[i]? = some r → P r := fun found => holds _ (List.mem_of_getElem? found)
    cases step_origin ran member with
    | kept old => exact holds r' old
    | arrived same => rw [same]; exact arrived
    | accepted i r call fate shared result acting found made performed same =>
      subst acting same
      exact accepted prior ok found (each found) made performed
    | taken i r acting found queued same =>
      subst same
      exact taken prior found (each found) queued
    | worked i r call fate shared result acting found made performed same =>
      subst acting same
      exact worked prior ok found (each found) made performed

end XmlrpcExtended.Server
