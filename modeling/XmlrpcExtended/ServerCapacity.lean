import XmlrpcExtended.ServerBooks

namespace XmlrpcExtended.Server
open SlotTotals

variable {cfg : XMLRPCServerConfig} {args : Arguments} {s : State} {r : Request} {call : Call} {result : Result}

-- No thread start fails after submit has queued the call.
def ThreadsStart (_ : State) : Action → Prop
  | .accept _ .startFailed => False
  | _ => True

instance (s : State) (a : Action) : Decidable (ThreadsStart s a) := by
  unfold ThreadsStart
  split <;> infer_instance

def Request.holds (r : Request) : Bool := decide (r.times .release < r.times .acquire)

def Request.inFlight (r : Request) : Bool := r.job == .queued || r.job.running

def Clean (r : Request) : Prop := r.job ≠ .none ↔ r.stage = .ended .submitted

theorem submit_returned (ran : perform cfg sh .submit fate = some (after,result))
    (started : fate ≠ .startFailed) : sh.shutdown = true ∧ result = .runtimeError ∨
      sh.shutdown = false ∧ result = .returned := by
  cases perform_sound ran with
  | closed shut => exact .inl ⟨shut,rfl⟩
  | queued opened => exact .inr ⟨opened,rfl⟩
  | thread opened room => exact .inr ⟨opened,rfl⟩
  | threadless opened room => exact absurd rfl started
  | outside foreign ended => cases foreign

theorem next_submitted (made : processRequest stage = some call)
    (reached : processRequest.next cfg stage result = .ended .submitted) : stage = .handing ∧ result = .returned := by
  cases stage <;> cases made <;> cases result <;> simp only [processRequest.next] at reached <;>
    first | exact ⟨rfl,rfl⟩ | cases reached | (split at reached <;> cases reached)

theorem accepted_clean (valid : Coherent r) (clean : Clean r) (made : processRequest r.stage = some call)
    (ran : perform cfg sh call fate = some (after,result)) (started : fate ≠ .startFailed) :
    Clean (r.accepted cfg sh call result) := by
  have unsubmitted : r.stage ≠ .ended .submitted := by
    intro settled
    rw [settled] at made
    cases made
  have fresh : r.job = .none := by
    by_contra placed
    exact unsubmitted (clean.mp placed)
  rcases accepted_job cfg sh result valid made with same | ⟨handing,opened,_,queued⟩
  · rw [Clean,same,fresh]
    refine iff_of_false (fun placed => placed rfl) fun reached => ?_
    obtain ⟨handing,rfl⟩ := next_submitted made reached
    rw [handing] at made
    cases made
    rcases submit_returned ran started with ⟨_,raised⟩ | ⟨opened,_⟩
    · cases raised
    · have queued : (r.accepted cfg sh .submit .returned).job = .queued := if_pos ⟨rfl,opened⟩
      rw [same,fresh] at queued
      cases queued
  · rw [Clean,queued]
    refine iff_of_true (by simp) ?_
    change processRequest.next cfg r.stage result = _
    rw [handing] at made ⊢
    cases made
    rcases submit_returned ran started with ⟨shut,_⟩ | ⟨_,rfl⟩
    · rw [opened] at shut; cases shut
    · rfl

theorem worked_placed (result : Result) (made : processRequestWorker r.job = some call) :
    r.job ≠ .none ∧ (r.worked call result).job ≠ .none := by
  change _ ∧ processRequestWorker.next r.job result ≠ .none
  cases job : r.job <;> rw [job] at made <;> cases made <;> cases result <;> simp [processRequestWorker.next]

theorem worked_clean (clean : Clean r) (made : processRequestWorker r.job = some call) :
    Clean (r.worked call result) := by
  obtain ⟨before,after⟩ := worked_placed result made
  exact iff_of_true after ((worked_stage r call result).trans (clean.mp before))

theorem arrived_clean : Clean (Request.arrived cfg) := by
  refine iff_of_false (fun placed => placed rfl) ?_
  unfold Request.arrived
  split <;> simp

theorem runs_clean (path : Runs cfg ThreadsStart actions s) : ∀ r ∈ s.requests, Clean r := by
  apply runs_each Clean arrived_clean _ _ _ path
  · intro earlier s i r call fate shared result prior ok found clean made performed
    apply accepted_clean (runs_coherent prior r (List.mem_of_getElem? found)) clean made performed
    rintro rfl
    exact ok
  · intro earlier s i r prior found clean queued
    exact iff_of_true (by simp [Request.taken]) (clean.mp (by simp [queued]))
  · intro earlier s i r call fate shared result prior ok found clean made performed
    exact worked_clean clean made

theorem clean_cases (clean : Clean r) : r.job = .none ∧ r.stage ≠ .ended .submitted ∨ r.stage = .ended .submitted ∧ r.job ≠ .none := by
  by_cases fresh : r.job = .none
  · exact .inl ⟨fresh,fun settled => clean.mpr settled fresh⟩
  · exact .inr ⟨clean.mp fresh,fresh⟩

theorem clean_permit (valid : Coherent r) (clean : Clean r) :
    r.times .acquire ≤ 1 ∧ r.times .release ≤ r.times .acquire := by
  rw [valid.counts .acquire rfl,valid.counts .release rfl]
  rcases clean_cases clean with ⟨fresh,_⟩ | ⟨settled,_⟩
  · rw [fresh]
    cases stage : r.stage with
    | ended ending => cases ending <;> simp [Stage.count,Job.count]
    | _ => simp [Stage.count,Job.count]
  · rw [settled]
    cases r.job <;> simp [Stage.count,Job.count]

theorem holds_weight (once : r.times .acquire ≤ 1) (paired : r.times .release ≤ r.times .acquire) :
    ((if Request.holds r then 1 else 0 : Int)) = r.times .acquire - r.times .release := by
  unfold Request.holds
  split <;> rename_i held <;> simp only [decide_eq_true_eq] at held <;> omega

theorem permits_held (path : Runs cfg ThreadsStart actions s) :
    s.shared.permits + s.requests.countP Request.holds = cfg.capacity := by
  have permits := (runs_balanced path).permits
  have held : (s.requests.countP Request.holds : Int) = s.made .acquire - s.made .release := by
    rw [← total_countP,State.made,State.made,← total_sub]
    apply total_congr
    intro r member
    have permit := clean_permit (runs_coherent path r member) (runs_clean path r member)
    exact holds_weight permit.1 permit.2
  omega

theorem inFlight_holds (valid : Coherent r) (clean : Clean r) (flying : r.inFlight = true) : r.holds = true := by
  unfold Request.holds
  rw [valid.counts .acquire rfl,valid.counts .release rfl]
  rcases clean_cases clean with ⟨fresh,_⟩ | ⟨settled,_⟩
  · simp [Request.inFlight,fresh,Job.running] at flying
  · rw [settled]
    cases job : r.job <;> simp [Request.inFlight,Job.running,job] at flying <;> simp [Stage.count,Job.count]

theorem over_released (valid : Coherent r) (clean : Clean r) (left : r.stage.isOver = true)
    (landed : r.inFlight = false) : r.holds = false := by
  unfold Request.holds
  rw [valid.counts .acquire rfl,valid.counts .release rfl]
  rcases clean_cases clean with ⟨fresh,unsubmitted⟩ | ⟨settled,placed⟩
  · rw [fresh]
    cases stage : r.stage with
    | ended ending =>
      cases ending with
      | submitted => exact absurd stage unsubmitted
      | rejected => rfl
      | failed => rfl
      | aborted => rfl
    | _ => simp [stage,Stage.isOver] at left
  · rw [settled]
    cases job : r.job <;> simp [Request.inFlight,Job.running,job] at landed placed
    simp [Stage.count,Job.count]

theorem capacity_safe (built : args.configure = .ok cfg) (path : Runs cfg ThreadsStart actions s) :
    (s.shared.permits : Int) + s.requests.countP Request.holds = args.max_workers + args.effectivePending ∧
    (∀ r ∈ s.requests, r.times .release ≤ r.times .acquire ∧ r.times .acquire ≤ 1) ∧
    (s.requests.countP Request.inFlight : Int) ≤ args.max_workers + args.effectivePending ∧
    ((∀ r ∈ s.requests, r.stage.isOver = true ∧ r.inFlight = false) →
      (s.shared.permits : Int) = args.max_workers + args.effectivePending) := by
  have valid := runs_coherent path
  have clean := runs_clean path
  have balance := permits_held path
  rw [← configure_capacity built]
  refine ⟨by omega,?_,?_,?_⟩
  · intro r member
    exact (clean_permit (valid r member) (clean r member)).symm
  · -- A request in flight holds its permit still.
    have bound : s.requests.countP Request.inFlight ≤ s.requests.countP Request.holds :=
      List.countP_mono_left fun r member flying => inFlight_holds (valid r member) (clean r member) flying
    omega
  · intro quiet
    have none : s.requests.countP Request.holds = 0 := by
      rw [List.countP_eq_zero]
      intro r member
      rw [over_released (valid r member) (clean r member) (quiet r member).1 (quiet r member).2]
      simp
    omega

-- The handler raises a BaseException, and the next request gets the permit.
def raisingSchedule : List Action :=
  handover 0 .threadStarted ++ [.take 0,.work 0 .returned,.work 0 .baseException,.work 0 .returned] ++
    handover 1 .returned

theorem capacity_safe_raising : ∃ s, Runs (.sized 0 0 .CLOSE) ThreadsStart raisingSchedule s ∧
    (s.shared.permits : Int) + s.requests.countP Request.holds = 1 ∧ s.shared.permits = 0 := by
  have ran : (TransitionRuns.execute (step (.sized 0 0 .CLOSE)) ThreadsStart (start (.sized 0 0 .CLOSE))
      raisingSchedule).any (fun s => s.shared.permits == 0) = true := by decide
  obtain ⟨s,path,none⟩ := TransitionRuns.execute_reaches ran
  have built : ({max_workers := 1,max_pending := some 0,overload_policy := .inl .CLOSE} : Arguments).configure =
      .ok (.sized 0 0 .CLOSE) := rfl
  exact ⟨s,path,(capacity_safe built path).1,by simpa using none⟩

-- What a process_request call that raised because of its submit leaves behind.
structure LeftNothing (cfg : XMLRPCServerConfig) (s : State) : Prop where
  unrun : ∀ r ∈ s.requests, r.stage = .ended .failed → r.times .recordStarted = 0 ∧ r.times .finishRequest = 0 ∧
    r.inFlight = false
  released : ∀ r ∈ s.requests, r.stage = .ended .failed → r.times .release = 1
  bounded : s.shared.permits ≤ cfg.capacity

theorem failed_leaves_nothing (path : Runs cfg ThreadsStart actions s) : LeftNothing cfg s := by
  have unplaced : ∀ r ∈ s.requests, r.stage = .ended .failed → r.job = .none := by
    intro r member failed
    rcases clean_cases (runs_clean path r member) with ⟨fresh,_⟩ | ⟨settled,_⟩
    · exact fresh
    · rw [failed] at settled; cases settled
  refine ⟨?_,?_,?_⟩
  · intro r member failed
    have valid := runs_coherent path r member
    have fresh := unplaced r member failed
    rw [valid.counts .recordStarted rfl,valid.counts .finishRequest rfl,failed,fresh]
    exact ⟨rfl,rfl,by simp [Request.inFlight,fresh,Job.running]⟩
  · intro r member failed
    rw [(runs_coherent path r member).counts .release rfl,failed,unplaced r member failed]
    rfl
  · have balance := permits_held path
    omega

def refusedSchedule : List Action :=
  [.call none (.shutdownExecutor false),.close 0 .returned,.close 0 .returned,.close 0 .returned] ++
    handover 0 .returned ++ [.accept 0 .returned,.accept 0 .returned]

theorem failed_leaves_nothing_refused : ∃ s, Runs (.sized 0 0 .BLOCK) ThreadsStart refusedSchedule s ∧
    LeftNothing (.sized 0 0 .BLOCK) s ∧ s.requests.any (·.stage = .ended .failed) = true := by
  have ran : (TransitionRuns.execute (step (.sized 0 0 .BLOCK)) ThreadsStart (start (.sized 0 0 .BLOCK))
      refusedSchedule).any (fun s => s.requests.any (·.stage = .ended .failed)) = true := by decide
  obtain ⟨s,path,failed⟩ := TransitionRuns.execute_reaches ran
  exact ⟨s,path,failed_leaves_nothing path,failed⟩

-- No second thread can be started for the queued request: the error path gives its
-- permit back and shuts its socket down, and the first request's thread runs it.
def startFailedSchedule : List Action :=
  handover 0 .threadStarted ++ [.take 0,.work 0 .returned] ++
    handover 1 .startFailed ++ [.accept 1 .returned,.accept 1 .returned] ++
    [.work 0 .returned,.work 0 .returned,.work 0 .returned,.work 0 .returned] ++
    [.take 1,.work 1 .returned,.work 1 .exception,.work 1 .returned,.work 1 .returned,.work 1 .returned,
      .work 1 .returned]

def ranAfterFailing (r : Request) : Bool :=
  r.stage = .ended .failed ∧ r.times .finishRequest = 1 ∧ r.times .release = 2

theorem start_failed_runs : ∃ s, Runs (.sized 1 0 .CLOSE) TransitionRuns.Anything startFailedSchedule s ∧
    s.requests.any ranAfterFailing = true ∧ s.shared.permits = 3 ∧ ¬ LeftNothing (.sized 1 0 .CLOSE) s := by
  have ran : (TransitionRuns.execute (step (.sized 1 0 .CLOSE)) TransitionRuns.Anything (start (.sized 1 0 .CLOSE))
      startFailedSchedule).any (fun s => s.requests.any ranAfterFailing && s.shared.permits == 3) = true := by decide
  obtain ⟨s,path,seen⟩ := TransitionRuns.execute_reaches ran
  obtain ⟨twice,three⟩ := Bool.and_eq_true_iff.mp seen
  rw [beq_iff_eq] at three
  refine ⟨s,path,twice,three,fun assumed => ?_⟩
  have two : s.shared.permits ≤ 2 := assumed.bounded
  omega

end XmlrpcExtended.Server
