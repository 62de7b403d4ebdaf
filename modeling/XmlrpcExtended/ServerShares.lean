import XmlrpcExtended.ServerCapacity

namespace XmlrpcExtended.Server
open SlotTotals

variable {cfg : XMLRPCServerConfig} {admitted : State → Action → Prop} {s : State} {r : Request}
  {call : Call} {result : Result}

def Workers (rule : Job → Fate → Bool) (s : State) : Action → Prop
  | .work i fate => (s.requests[i]?).all (fun r => rule r.job fate) = true
  | _ => True

instance (rule : Job → Fate → Bool) (s : State) (a : Action) : Decidable (Workers rule s a) := by
  unfold Workers
  split <;> infer_instance

-- finish_request returns or raises an Exception; handle_error and the
-- shutdown_request of the except branch return.
def Job.promised : Job → Fate → Bool
  | .finishing,fate => fate != .baseException
  | .handling,fate | .closingError,fate => fate == .returned
  | _,_ => true

-- The shutdown_request of the try branch returns or raises an Exception.
def Job.closes : Job → Fate → Bool
  | .closing,fate => fate != .baseException
  | _,_ => true

def Job.tame (job : Job) (fate : Fate) : Bool := job.promised fate && job.closes fate

def Opened (s : State) : Action → Prop
  | .accept i _ => (s.requests[i]?).all (fun r => r.stage != .handing || !s.shared.shutdown) = true
  | _ => True

instance (s : State) (a : Action) : Decidable (Opened s a) := by
  unfold Opened
  split <;> infer_instance

-- The two together: every submit returns.
def Submits (s : State) (a : Action) : Prop := ThreadsStart s a ∧ Opened s a

instance (s : State) (a : Action) : Decidable (Submits s a) := inferInstanceAs (Decidable (_ ∧ _))

def Promised (s : State) (a : Action) : Prop :=
  Workers Job.promised s a ∧ ThreadsStart s a ∧ Opened s a

instance (s : State) (a : Action) : Decidable (Promised s a) := inferInstanceAs (Decidable (_ ∧ _))

def Served (s : State) (a : Action) : Prop := Promised s a ∧ Workers Job.closes s a

instance (s : State) (a : Action) : Decidable (Served s a) := inferInstanceAs (Decidable (_ ∧ _))

theorem tame_workers (promised : Workers Job.promised s a) (closes : Workers Job.closes s a) :
    Workers Job.tame s a := by
  cases a with
  | work i fate =>
    simp only [Workers] at *
    cases found : s.requests[i]? with
    | none => rfl
    | some r => simp_all [Job.tame]
  | _ => trivial

-- The last record_* call comes with the finally clause, and the socket is shut
-- down before that.
def Job.cleaned : Job → Bool
  | .completing | .erroring | .releasing | .done => true
  | _ => false

structure Accounted (r : Request) : Prop where
  settled : r.times .recordCompleted + r.times .recordErrored = r.job.settled
  cleaned : r.job.cleaned = true → 1 ≤ r.times .shutdownRequest

theorem arrived_accounted : Accounted (Request.arrived cfg) :=
  ⟨rfl,fun cleaned => by cases cleaned⟩

theorem accepted_accounted (valid : Coherent r) (books : Accounted r) (made : processRequest r.stage = some call) :
    Accounted (r.accepted cfg sh call result) := by
  obtain ⟨completed,errored⟩ := accepted_untouched result made
  rcases accepted_job cfg sh result valid made with same | ⟨_,_,fresh,queued⟩
  · refine ⟨?_,?_⟩
    · rw [accepted_times,accepted_times,completed,errored,same]
      exact books.settled
    · rw [same,accepted_times]
      intro cleaned
      have before := books.cleaned cleaned
      omega
  · refine ⟨?_,?_⟩
    · have before := books.settled
      rw [fresh] at before
      rw [accepted_times,accepted_times,completed,errored,queued]
      exact before
    · rw [queued]
      intro cleaned
      cases cleaned

theorem taken_accounted (books : Accounted r) (queued : r.job = .queued) : Accounted r.taken := by
  refine ⟨?_,fun cleaned => by cases cleaned⟩
  have before := books.settled
  rw [queued] at before
  exact before

def Job.ends : Job → Result → Bool
  | .finishing,result | .closing,result => result == .returned || result == .exception
  | _,result => result == .returned

theorem tame_result (tame : job.tame fate = true) (made : processRequestWorker job = some call)
    (ran : perform cfg sh call fate = some (after,result)) : job.ends result = true := by
  cases job <;> cases made <;> have ends := perform_result ran <;> simp only [Call.allows] at ends
  case finishing | closing | handling | closingError =>
    obtain ⟨_,ended,same⟩ := Option.map_eq_some_iff.mp ran
    cases same
    cases fate <;> cases ended <;> first | rfl | cases tame
  all_goals subst ends; rfl

theorem next_settled (made : processRequestWorker job = some call) (ends : job.ends result = true) :
    (processRequestWorker.next job result).settled =
      job.settled + carried call result .recordCompleted + carried call result .recordErrored := by
  cases job <;> cases made <;> cases result <;> first | rfl | cases ends

theorem next_cleaned (made : processRequestWorker job = some call) (ends : job.ends result = true)
    (cleaned : (processRequestWorker.next job result).cleaned = true) :
    job.cleaned = true ∨ carried call result .shutdownRequest = 1 := by
  cases job <;> cases made <;> cases result <;>
    simp [processRequestWorker.next,Job.cleaned,Job.ends,carried] at ends cleaned ⊢

theorem worked_accounted (books : Accounted r) (tame : r.job.tame fate = true)
    (made : processRequestWorker r.job = some call) (ran : perform cfg sh call fate = some (after,result)) :
    Accounted (r.worked call result) := by
  have ends := tame_result tame made ran
  refine ⟨?_,?_⟩
  · have before := books.settled
    have job : (r.worked call result).job.settled =
        r.job.settled + carried call result .recordCompleted + carried call result .recordErrored :=
      next_settled made ends
    rw [worked_times,worked_times,job]
    omega
  · intro cleaned
    rw [worked_times]
    rcases next_cleaned made ends cleaned with before | once
    · have once := books.cleaned before
      omega
    · omega

theorem runs_accounted (path : Runs cfg (Workers Job.tame) actions s) : ∀ r ∈ s.requests, Accounted r := by
  apply runs_each Accounted arrived_accounted _ _ _ path
  · intro earlier s i r call fate shared result prior ok found books made performed
    exact accepted_accounted (runs_coherent prior r (List.mem_of_getElem? found)) books made
  · intro earlier s i r prior found books queued
    exact taken_accounted books queued
  · intro earlier s i r call fate shared result prior ok found books made performed
    have tame : r.job.tame fate = true := by simpa [Workers,found] using ok
    exact worked_accounted books tame made performed

theorem served_tame (path : Runs cfg Served actions s) : Runs cfg (Workers Job.tame) actions s :=
  path.relax fun _ _ ok => tame_workers ok.1.1 ok.2

theorem served_threads (path : Runs cfg Served actions s) : Runs cfg ThreadsStart actions s :=
  path.relax fun _ _ ok => ok.1.2.1

theorem served_submits (path : Runs cfg Served actions s) : Runs cfg Submits actions s :=
  path.relax fun _ _ ok => ok.1.2

theorem submits_threads (path : Runs cfg Submits actions s) : Runs cfg ThreadsStart actions s :=
  path.relax fun _ _ ok => ok.1

def Stage.refusal : Stage → Bool
  | .refused | .abandoning | .ended .failed => true
  | _ => false

theorem next_refusal (made : processRequest stage = some call) (before : stage.refusal = false)
    (returned : stage = .handing → result = .returned) : (processRequest.next cfg stage result).refusal = false := by
  cases stage <;> cases made
  case rejecting =>
    simp only [processRequest.next]
    split <;> rfl
  all_goals cases result <;> simp [processRequest.next,Stage.refusal] at before returned ⊢

theorem runs_unrefused (path : Runs cfg Submits actions s) : ∀ r ∈ s.requests, r.stage.refusal = false := by
  apply runs_each (fun r => r.stage.refusal = false) _ _ _ _ path
  · unfold Request.arrived
    split <;> rfl
  · intro earlier s i r call fate shared result prior ok found before made performed
    obtain ⟨started,opened⟩ := ok
    apply next_refusal made before
    intro handing
    rw [handing] at made
    cases made
    have unlocked : s.shared.shutdown = false := by simpa [Opened,found,handing] using opened
    rcases submit_returned performed (by rintro rfl; exact started) with ⟨shut,_⟩ | ⟨_,same⟩
    · rw [unlocked] at shut
      cases shut
    · exact same
  · intro earlier s i r prior found before queued
    exact before
  · intro earlier s i r call fate shared result prior ok found before made performed
    rw [worked_stage]
    exact before

def Request.queuedShare (r : Request) : Int := r.times .recordSubmitted - r.times .recordStarted

def Request.activeShare (r : Request) : Int :=
  r.times .recordStarted - r.times .recordCompleted - r.times .recordErrored

def State.stats (s : State) : ServerStats := s.shared.stats.snapshot

theorem gauges_shared (path : Runs cfg admitted actions s) :
    s.stats.queued = total Request.queuedShare s.requests ∧ s.stats.active = total Request.activeShare s.requests := by
  have books := runs_balanced path
  refine ⟨books.submitted.trans ?_,books.active.trans ?_⟩
  · exact (total_sub _ _ _).symm
  · simp only [State.made,← total_sub]
    rfl

theorem queuedShare_cases (valid : Coherent r) :
    r.queuedShare = r.stage.count .recordSubmitted - r.job.count .recordStarted := by
  unfold Request.queuedShare
  rw [valid.counts .recordSubmitted rfl,valid.counts .recordStarted rfl]
  simp [Stage.count,Job.count]

-- A request is counted before it is handed over, hence before it is started.
theorem queuedShare_nonneg (valid : Coherent r) : 0 ≤ r.queuedShare := by
  rw [queuedShare_cases valid]
  by_cases fresh : r.job = .none
  · rw [fresh]
    simp [Job.count]
  · have once := valid.placed fresh
    have recorded : r.stage.count .recordSubmitted = 1 := by
      revert once
      cases r.stage with
      | ended ending => cases ending <;> simp [Stage.count]
      | _ => simp [Stage.count]
    have started : r.job.count .recordStarted ≤ 1 := by cases r.job <;> simp [Job.count]
    omega

theorem activeShare_cases (valid : Coherent r) (books : Accounted r) :
    r.activeShare = r.job.count .recordStarted - r.job.settled := by
  unfold Request.activeShare
  have settled := books.settled
  rw [valid.counts .recordStarted rfl]
  simp only [Stage.count]
  omega

theorem activeShare_nonneg (valid : Coherent r) : 0 ≤ r.activeShare := by
  unfold Request.activeShare
  have settled := valid.settled
  rw [valid.counts .recordStarted rfl]
  have order : r.job.settled ≤ r.job.count .recordStarted := by cases r.job <;> simp [Job.settled,Job.count]
  omega

theorem activeShare_running (valid : Coherent r) (books : Accounted r) :
    r.activeShare ≤ if r.job.running then 1 else 0 := by
  rw [activeShare_cases valid books]
  cases r.job <;> simp [Job.count,Job.settled,Job.running]

-- Counted after the acquire and taken out before the release: a request is in a
-- gauge only while it holds its permit.
theorem shares_hold (valid : Coherent r) (books : Accounted r) (clean : Clean r)
    (accepted : r.stage.refusal = false) :
    r.activeShare + r.queuedShare ≤ if r.holds then 1 else 0 := by
  have permit := clean_permit valid clean
  rw [holds_weight permit.1 permit.2,activeShare_cases valid books,queuedShare_cases valid,
    valid.counts .acquire rfl,valid.counts .release rfl]
  rcases clean_cases clean with ⟨fresh,_⟩ | ⟨settled,placed⟩
  · rw [fresh]
    cases stage : r.stage with
    | ended ending => cases ending <;> simp [stage,Stage.count,Job.count,Job.settled,Stage.refusal] at accepted ⊢
    | _ => simp [stage,Stage.count,Job.count,Job.settled,Stage.refusal] at accepted ⊢
  · rw [settled]
    cases job : r.job <;> simp [Stage.count,Job.count,Job.settled]

theorem perform_threads (ran : perform cfg sh call fate = some (after,result)) :
    sh.threads ≤ after.threads ∧ (sh.threads ≤ cfg.max_workers → after.threads ≤ cfg.max_workers) := by
  cases perform_sound ran with
  | thread opened room => exact ⟨Nat.le_succ _,fun _ => room⟩
  | _ => exact ⟨le_refl _,id⟩

theorem running_set {s : State} (found : s.requests[i]? = some r) (r' : Request) :
    ((s.requests.set i r').countP (·.job.running) : Int) =
      s.running - (if r.job.running then 1 else 0) + (if r'.job.running then 1 else 0) := by
  exact countP_set found r'

-- The executor runs one call a thread, and it never has more threads than workers.
theorem runs_threads (path : Runs cfg admitted actions s) :
    s.running ≤ s.shared.threads ∧ s.shared.threads ≤ cfg.max_workers := by
  refine path.keeps (fun s => s.running ≤ s.shared.threads ∧ s.shared.threads ≤ cfg.max_workers) ?_ ?_
  · exact ⟨Nat.le_refl _,Nat.zero_le _⟩
  · intro earlier s action next prior bounds ok ran
    have valid := runs_coherent prior
    rcases step_sound ran with moved | moved
    · cases moved with
      | arrive => simpa [State.running,Request.arrived,Job.running] using bounds
      | accept found made performed =>
        rename_i i r call fate shared result
        have threads := perform_threads performed
        have count := running_set found (r.accepted cfg s.shared call result)
        have job : (r.accepted cfg s.shared call result).job.running = r.job.running := by
          rcases accepted_job cfg s.shared result (valid r (List.mem_of_getElem? found)) made with
            same | ⟨_,_,fresh,queued⟩
          · rw [same]
          · rw [fresh,queued]; rfl
        rw [job] at count
        change (s.requests.set i _).countP _ ≤ shared.threads ∧ shared.threads ≤ _
        omega
      | take found queued idle =>
        rename_i i r
        have count := running_set found r.taken
        rw [queued,show r.taken.job.running = true from rfl,if_pos rfl,if_neg (by simp [Job.running])] at count
        change (s.requests.set i _).countP _ ≤ s.shared.threads ∧ s.shared.threads ≤ _
        omega
      | work found made performed =>
        rename_i i r call fate shared result
        have threads := perform_threads performed
        have count := running_set found (r.worked call result)
        have job : r.job.running = true := by
          revert made
          cases r.job <;> simp [processRequestWorker,Job.running]
        rw [job,if_pos rfl] at count
        change (s.requests.set i _).countP _ ≤ shared.threads ∧ shared.threads ≤ _
        split at count <;> omega
    · have frame := closer_frame moved
      rw [State.running,frame.requests,frame.threads]
      exact bounds

end XmlrpcExtended.Server
