import XmlrpcExtended.ServerSteps
import XmlrpcExtended.SlotTotals

namespace XmlrpcExtended.Server
open SlotTotals

variable {cfg : XMLRPCServerConfig} {admitted : State → Action → Prop}

def carried (call : Call) (result : Result) (c : Call) : Nat :=
  if call = c ∧ result ≠ .denied then 1 else 0

theorem note_times (r : Request) (call : Call) (result : Result) (c : Call) :
    (r.note call result).times c = r.times c + carried call result c := by
  unfold Request.note carried Request.times
  by_cases denied : result = .denied
  · simp [denied]
  · by_cases same : call = c
    · simp [denied,same]
    · simp [denied,same]

@[simp] theorem accepted_times (sh : Shared) (r : Request) (call : Call) (result : Result) (c : Call) :
    (r.accepted cfg sh call result).times c = r.times c + carried call result c :=
  note_times r call result c

@[simp] theorem worked_times (r : Request) (call : Call) (result : Result) (c : Call) :
    (r.worked call result).times c = r.times c + carried call result c :=
  note_times r call result c

@[simp] theorem taken_times (r : Request) (c : Call) : r.taken.times c = r.times c := rfl

theorem worked_stage (r : Request) (call : Call) (result : Result) : (r.worked call result).stage = r.stage := by
  unfold Request.worked Request.note
  split <;> rfl

@[simp] theorem arrived_times (c : Call) : (Request.arrived cfg).times c = 0 := rfl

def State.made (s : State) (c : Call) : Int := total (fun r => (r.times c : Int)) s.requests

theorem made_accept {s : State} (found : s.requests[i]? = some r) (call : Call) (result : Result) (c : Call) :
    total (fun r => (r.times c : Int)) (s.requests.set i (r.accepted cfg s.shared call result)) =
      s.made c + carried call result c := by
  rw [total_set found]
  simp only [accepted_times,State.made,Nat.cast_add]
  omega

theorem made_take {s : State} (found : s.requests[i]? = some r) (c : Call) :
    total (fun r => (r.times c : Int)) (s.requests.set i r.taken) = s.made c := by
  rw [total_set found]
  simp only [taken_times,State.made]
  omega

theorem made_work {s : State} (found : s.requests[i]? = some r) (call : Call) (result : Result) (c : Call) :
    total (fun r => (r.times c : Int)) (s.requests.set i (r.worked call result)) =
      s.made c + carried call result c := by
  rw [total_set found]
  simp only [worked_times,State.made,Nat.cast_add]
  omega

def rejects (cfg : XMLRPCServerConfig) (policy : ServerOverloadPolicy) : Int :=
  if cfg.overload_policy = policy then 1 else 0

-- The shared counters are sums over the histories of the requests.
structure Balanced (cfg : XMLRPCServerConfig) (sh : Shared) (made : Call → Int) : Prop where
  permits : (sh.permits : Int) = cfg.capacity - made .acquire + made .release
  submitted : sh.stats.submitted = made .recordSubmitted - made .recordStarted
  active : sh.stats.active = made .recordStarted - made .recordCompleted - made .recordErrored
  completed : sh.stats.completed = made .recordCompleted
  errored : sh.stats.errored = made .recordErrored
  fault : sh.stats.rejected_fault = rejects cfg .FAULT * made .recordRejected
  unavailable : sh.stats.rejected_503 = rejects cfg .HTTP_503 * made .recordRejected
  close : sh.stats.rejected_close =
    (1 - rejects cfg .FAULT - rejects cfg .HTTP_503) * made .recordRejected

theorem perform_balanced {made : Call → Int} (books : Balanced cfg sh made)
    (ran : perform cfg sh call fate = some (after,result)) :
    Balanced cfg after (fun c => made c + carried call result c) := by
  obtain ⟨permits,submitted,active,completed,errored,fault,unavailable,close⟩ := books
  cases perform_sound ran with
  | acquired free =>
    constructor <;> simp [carried, *]
    omega
  | denied full policy =>
    clear full
    constructor <;> simp [carried, *]
  | released =>
    constructor <;> simp [carried, *]
    omega
  | rejected =>
    cases policy : cfg.overload_policy <;>
      simp only [rejects,policy] at fault unavailable close <;>
      constructor <;> simp [carried,recordRejected,rejects,StatsTracker.recordRejectedClose,
        StatsTracker.recordRejectedFault,StatsTracker.recordRejected503, *]
  | submitted =>
    constructor <;> simp [carried,StatsTracker.recordSubmitted, *]
    omega
  | started => constructor <;> simp [carried,StatsTracker.recordStarted, *] <;> omega
  | completed =>
    constructor <;> simp [carried,StatsTracker.recordCompleted, *]
    omega
  | errored =>
    constructor <;> simp [carried,StatsTracker.recordErrored, *]
    omega
  | closed | queued | thread | threadless => constructor <;> simp [carried, *]
  | outside foreign ended =>
    cases call <;> cases foreign <;> constructor <;> simp [carried, *]

theorem step_balanced (books : Balanced cfg s.shared s.made) (ran : step cfg s action = some next) :
    Balanced cfg next.shared next.made := by
  rcases step_sound ran with moved | moved
  · cases moved with
    | arrive =>
      have same : State.made {s with requests := s.requests ++ [.arrived cfg]} = s.made := by
        funext c
        simp [State.made]
      rw [same]
      exact books
    | accept found made performed =>
      have sums := perform_balanced books performed
      rwa [← funext (made_accept found _ _)] at sums
    | take found =>
      rwa [← funext (made_take found)] at books
    | work found made performed =>
      have sums := perform_balanced books performed
      rwa [← funext (made_work found _ _)] at sums
  · have frame := closer_frame moved
    have same : next.made = s.made := by
      funext c
      simp only [State.made,frame.requests]
    rw [same]
    obtain ⟨permits,submitted,active,completed,errored,fault,unavailable,close⟩ := books
    constructor <;> simp only [frame.permits,frame.stats] <;> assumption

theorem start_balanced (cfg : XMLRPCServerConfig) : Balanced cfg (start cfg).shared (start cfg).made := by
  constructor <;> simp [start,State.made,StatsTracker.init]

theorem runs_balanced (path : Runs cfg admitted actions s) : Balanced cfg s.shared s.made :=
  path.keeps (fun s => Balanced cfg s.shared s.made) (start_balanced cfg)
    fun _ books _ ran => step_balanced books ran

def Call.allows (call : Call) (sh : Shared) (result : Result) : Prop :=
  match call with
  | .acquire => result = .returned ∨ result = .denied
  | .submit => result = .runtimeError ∨ result = .returned ∧ sh.shutdown = false
  | .settimeout | .sendResponse | .finishRequest | .shutdownRequest | .handleError =>
    result = .returned ∨ result = .exception ∨ result = .baseException
  | _ => result = .returned

theorem perform_result (ran : perform cfg sh call fate = some (after,result)) : call.allows sh result := by
  cases perform_sound ran with
  | acquired free => exact .inl rfl
  | denied full policy => exact .inr rfl
  | closed shut => exact .inl rfl
  | queued opened => exact .inr ⟨rfl,opened⟩
  | thread opened room => exact .inr ⟨rfl,opened⟩
  | threadless opened room => exact .inl rfl
  | outside foreign ended => cases call <;> cases foreign <;> cases fate <;> cases ended <;> simp [Call.allows]
  | released | rejected | submitted | started | completed | errored => rfl

-- Left out are the calls that two paths to one place make differently often.
def Stage.count (stage : Stage) : Call → Nat
  | .acquire => match stage with
    | .recording | .handing | .refused | .abandoning | .ended .submitted | .ended .failed => 1
    | _ => 0
  | .recordSubmitted => match stage with
    | .handing | .refused | .abandoning | .ended .submitted | .ended .failed => 1
    | _ => 0
  | .submit => match stage with
    | .refused | .abandoning | .ended .submitted | .ended .failed => 1
    | _ => 0
  | .release => match stage with
    | .abandoning | .ended .failed => 1
    | _ => 0
  | .recordRejected => match stage with
    | .responding | .dismissing | .ended .rejected => 1
    | _ => 0
  | _ => 0

def Job.count (job : Job) : Call → Nat
  | .recordStarted => match job with
    | .none | .queued | .starting => 0
    | _ => 1
  | .finishRequest => match job with
    | .none | .queued | .starting | .finishing => 0
    | _ => 1
  | .release => match job with
    | .done => 1
    | _ => 0
  | _ => 0

def Call.tracked : Call → Bool
  | .acquire | .recordSubmitted | .submit | .release | .recordRejected | .recordStarted | .finishRequest => true
  | _ => false

def Job.settled : Job → Nat
  | .releasing | .done => 1
  | _ => 0

theorem next_stage_count (cfg : XMLRPCServerConfig) (made : processRequest stage = some call) (ends : call.allows sh result)
    (tracked : c.tracked = true) :
    (processRequest.next cfg stage result).count c = stage.count c + carried call result c := by
  cases stage <;> cases made <;> simp only [Call.allows] at ends
  case rejecting =>
    subst ends
    simp only [processRequest.next]
    split <;> cases c <;> rfl
  case handing =>
    rcases ends with rfl | ⟨rfl,_⟩ <;> cases c <;> rfl
  case acquiring =>
    rcases ends with rfl | rfl <;> cases c <;> rfl
  case recording | refused => subst ends; cases c <;> rfl
  all_goals rcases ends with rfl | rfl | rfl <;> cases c <;> first | rfl | cases tracked

theorem next_job_count (made : processRequestWorker job = some call) (ends : call.allows sh result)
    (tracked : c.tracked = true) :
    (processRequestWorker.next job result).count c = job.count c + carried call result c := by
  cases job <;> cases made <;> simp only [Call.allows] at ends
  case starting | completing | erroring | releasing => subst ends; cases c <;> first | rfl | cases tracked
  all_goals rcases ends with rfl | rfl | rfl <;> cases c <;> first | rfl | cases tracked

structure Coherent (r : Request) : Prop where
  counts : ∀ c, c.tracked = true → r.times c = r.stage.count c + r.job.count c
  settled : r.times .recordCompleted + r.times .recordErrored ≤ r.job.settled
  placed : r.job ≠ .none → r.stage.count .submit = 1

theorem arrived_coherent : Coherent (Request.arrived cfg) := by
  refine ⟨?_,Nat.le_refl _,fun placed => absurd rfl placed⟩
  intro c _
  unfold Request.arrived
  split <;> cases c <;> rfl

theorem accepted_job (cfg : XMLRPCServerConfig) (sh : Shared) (result : Result) (valid : Coherent r) (made : processRequest r.stage = some call) :
    (r.accepted cfg sh call result).job = r.job ∨
      r.stage = .handing ∧ sh.shutdown = false ∧ r.job = .none ∧ (r.accepted cfg sh call result).job = .queued := by
  by_cases queues : call = .submit ∧ sh.shutdown = false
  · have handing : r.stage = .handing := by
      obtain ⟨rfl,_⟩ := queues
      revert made
      cases r.stage <;> simp [processRequest]
    have fresh : r.job = .none := by
      by_contra placed
      have once := valid.placed placed
      rw [handing] at once
      cases once
    exact .inr ⟨handing,queues.2,fresh,if_pos queues⟩
  · exact .inl (if_neg queues)

theorem accepted_untouched (result : Result) (made : processRequest stage = some call) :
    carried call result .recordCompleted = 0 ∧ carried call result .recordErrored = 0 := by
  cases stage <;> cases made <;> simp [carried]

theorem accepted_coherent (valid : Coherent r) (made : processRequest r.stage = some call)
    (ran : perform cfg sh call fate = some (after,result)) : Coherent (r.accepted cfg sh call result) := by
  have ends := perform_result ran
  have job := accepted_job cfg sh result valid made
  refine ⟨?_,?_,?_⟩
  · intro c tracked
    have before := valid.counts c tracked
    have stage : (r.accepted cfg sh call result).stage.count c = r.stage.count c + carried call result c :=
      next_stage_count cfg made ends tracked
    have same : (r.accepted cfg sh call result).job.count c = r.job.count c := by
      rcases job with same | ⟨_,_,fresh,queued⟩
      · rw [same]
      · -- A queued call has done nothing yet, like one that does not exist.
        rw [fresh,queued]
        cases c <;> rfl
    rw [accepted_times]
    omega
  · obtain ⟨completed,errored⟩ := accepted_untouched result made
    have before := valid.settled
    rw [accepted_times,accepted_times,completed,errored]
    rcases job with same | ⟨_,_,fresh,queued⟩
    · rw [same]; omega
    · rw [fresh] at before; rw [queued]; exact before
  · intro placed
    have stage := next_stage_count cfg made ends (show Call.tracked .submit = true from rfl)
    change (processRequest.next cfg r.stage result).count .submit = 1
    rcases job with same | ⟨handing,opened,_,_⟩
    · have once := valid.placed (same ▸ placed)
      have bound : (processRequest.next cfg r.stage result).count .submit ≤ 1 := by
        cases processRequest.next cfg r.stage result with
        | ended ending => cases ending <;> simp [Stage.count]
        | _ => simp [Stage.count]
      omega
    · rw [handing] at made stage ⊢
      cases made
      simp only [Call.allows] at ends
      rcases ends with rfl | ⟨rfl,_⟩ <;> rfl

theorem worked_settled {r : Request} (settled : r.times .recordCompleted + r.times .recordErrored ≤ r.job.settled)
    (made : processRequestWorker r.job = some call) :
    (r.worked call result).times .recordCompleted + (r.worked call result).times .recordErrored ≤
      (r.worked call result).job.settled := by
  rw [worked_times,worked_times]
  change _ ≤ (processRequestWorker.next r.job result).settled
  generalize r.job = job at *
  cases job <;> cases made <;> cases result <;>
    simp_all [carried,processRequestWorker.next,Job.settled]

theorem worked_coherent (valid : Coherent r) (made : processRequestWorker r.job = some call)
    (ran : perform cfg sh call fate = some (after,result)) : Coherent (r.worked call result) := by
  have ends := perform_result ran
  refine ⟨?_,worked_settled valid.settled made,?_⟩
  · intro c tracked
    have before := valid.counts c tracked
    have job : (r.worked call result).job.count c = r.job.count c + carried call result c :=
      next_job_count made ends tracked
    rw [worked_times,worked_stage]
    omega
  · intro _
    rw [worked_stage]
    apply valid.placed
    intro absent
    rw [absent] at made
    cases made

theorem taken_coherent (valid : Coherent r) (queued : r.job = .queued) : Coherent r.taken := by
  have once := valid.placed (by rw [queued]; simp)
  refine ⟨?_,?_,fun _ => once⟩
  · intro c tracked
    have before := valid.counts c tracked
    rw [queued] at before
    rw [taken_times,before]
    cases c <;> rfl
  · have before := valid.settled
    rw [queued] at before
    exact before

theorem runs_coherent (path : Runs cfg admitted actions s) : ∀ r ∈ s.requests, Coherent r := by
  apply runs_each Coherent arrived_coherent _ _ _ path
  · intro earlier s i r call fate shared result prior ok found valid made performed
    exact accepted_coherent valid made performed
  · intro earlier s i r prior found valid queued
    exact taken_coherent valid queued
  · intro earlier s i r call fate shared result prior ok found valid made performed
    exact worked_coherent valid made performed

end XmlrpcExtended.Server
