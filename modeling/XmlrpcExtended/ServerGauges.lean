import XmlrpcExtended.ServerShares

namespace XmlrpcExtended.Server
open SlotTotals

variable {cfg : XMLRPCServerConfig} {admitted : State → Action → Prop} {s later : State} {r : Request}

theorem recordRejected_grown (policy : ServerOverloadPolicy) (t : StatsTracker) :
    t.snapshot.Grown (recordRejected policy t).snapshot := by
  cases policy <;> constructor <;> simp [recordRejected,StatsTracker.snapshot,StatsTracker.recordRejectedClose,
    StatsTracker.recordRejectedFault,StatsTracker.recordRejected503]

theorem perform_grown (ran : perform cfg sh call fate = some (after,result)) :
    sh.stats.snapshot.Grown after.stats.snapshot := by
  cases perform_sound ran with
  | rejected => exact recordRejected_grown _ _
  | submitted | started | completed | errored =>
    constructor <;> simp [StatsTracker.snapshot,StatsTracker.recordSubmitted,StatsTracker.recordStarted,
      StatsTracker.recordCompleted,StatsTracker.recordErrored]
  | _ => exact .refl _

theorem step_grown (ran : step cfg s action = some next) : s.stats.Grown next.stats := by
  rcases step_sound ran with moved | moved
  · cases moved with
    | arrive => exact .refl _
    | accept found made performed => exact perform_grown performed
    | take found queued idle => exact .refl _
    | work found made performed => exact perform_grown performed
  · rw [State.stats,State.stats,(closer_frame moved).stats]
    exact .refl _

theorem runs_grown (path : TransitionRuns.Runs (step cfg) admitted s actions later) : s.stats.Grown later.stats :=
  path.keeps (fun t => s.stats.Grown t.stats) (.refl _) fun _ before _ ran => before.trans (step_grown ran)

structure Truthful (cfg : XMLRPCServerConfig) (s : State) : Prop where
  queued : 0 ≤ s.stats.queued
  active : 0 ≤ s.stats.active ∧ s.stats.active ≤ cfg.max_workers
  bounded : s.stats.active + s.stats.queued ≤ cfg.max_workers + cfg.max_pending
  slots : s.stats.active + s.stats.queued + s.shared.permits ≤ cfg.max_workers + cfg.max_pending
  waiting : s.stats.active = cfg.max_workers → s.stats.queued ≤ cfg.max_pending
  counted : s.stats.queued + s.stats.active + s.stats.completed + s.stats.errored =
    s.requests.countP (fun r => r.times .recordSubmitted == 1)

theorem runs_counted (path : Runs cfg admitted actions s) :
    s.stats.queued + s.stats.active + s.stats.completed + s.stats.errored =
      s.requests.countP (fun r => r.times .recordSubmitted == 1) := by
  have books := runs_balanced path
  have once : s.made .recordSubmitted = s.requests.countP (fun r => r.times .recordSubmitted == 1) := by
    rw [State.made,← total_countP]
    apply total_congr
    intro r member
    rw [(runs_coherent path r member).counts .recordSubmitted rfl]
    cases r.stage with
    | ended ending => cases ending <;> rfl
    | _ => rfl
  have submitted := books.submitted
  have active := books.active
  have completed := books.completed
  have errored := books.errored
  simp only [State.stats,StatsTracker.snapshot]
  omega

theorem active_running (path : Runs cfg (Workers Job.tame) actions s) : s.stats.active ≤ s.running := by
  have valid := runs_coherent path
  have books := runs_accounted path
  rw [(gauges_shared path).2,State.running,← total_countP]
  exact total_le fun r member => activeShare_running (valid r member) (books r member)

theorem gauges_hold (path : Runs cfg Served actions s) :
    s.stats.active + s.stats.queued ≤ s.requests.countP Request.holds := by
  have valid := runs_coherent path
  have books := runs_accounted (served_tame path)
  have clean := runs_clean (served_threads path)
  rw [(gauges_shared path).1,(gauges_shared path).2,← total_add,← total_countP]
  exact total_le fun r member =>
    shares_hold (valid r member) (books r member) (clean r member) (runs_unrefused (served_submits path) r member)

theorem gauges_nonneg (path : Runs cfg admitted actions s) : 0 ≤ s.stats.queued ∧ 0 ≤ s.stats.active := by
  have valid := runs_coherent path
  rw [(gauges_shared path).1,(gauges_shared path).2]
  exact ⟨total_nonneg fun r member => queuedShare_nonneg (valid r member),
    total_nonneg fun r member => activeShare_nonneg (valid r member)⟩

theorem gauges_truthful (path : Runs cfg Served actions s) :
    Truthful cfg s ∧
    ∀ more later, TransitionRuns.Runs (step cfg) TransitionRuns.Anything s more later → s.stats.Grown later.stats := by
  have signs := gauges_nonneg path
  have held := gauges_hold path
  have permits := permits_held (served_threads path)
  have running := active_running (served_tame path)
  have threads := runs_threads path
  have capacity : cfg.capacity = cfg.max_workers + cfg.max_pending := rfl
  refine ⟨⟨signs.1,⟨signs.2,by omega⟩,by omega,by omega,fun full => by omega,runs_counted path⟩,?_⟩
  intro more later beyond
  exact runs_grown beyond

def fullSchedule : List Action :=
  handover 0 .threadStarted ++ [.take 0,.work 0 .returned] ++ handover 1 .returned

theorem gauges_truthful_full : ∃ s, Runs (.sized 0 1 .BLOCK) Served fullSchedule s ∧
    Truthful (.sized 0 1 .BLOCK) s ∧ s.stats.active = 1 ∧ s.stats.queued = 1 := by
  have ran : (TransitionRuns.execute (step (.sized 0 1 .BLOCK)) Served (start (.sized 0 1 .BLOCK))
      fullSchedule).any (fun s => s.stats.active == 1 && s.stats.queued == 1) = true := by decide
  obtain ⟨s,path,seen⟩ := TransitionRuns.execute_reaches ran
  rw [Bool.and_eq_true,beq_iff_eq,beq_iff_eq] at seen
  exact ⟨s,path,(gauges_truthful path).1,seen⟩

-- The finally clause gives the permit back; nothing takes the request out of `active`.
def unclosedSchedule : List Action :=
  handover 0 .threadStarted ++
    [.take 0,.work 0 .returned,.work 0 .returned,.work 0 .baseException,.work 0 .returned] ++ handover 1 .returned

theorem unclosed_untruthful : ∃ s, Runs (.sized 0 0 .CLOSE) Promised unclosedSchedule s ∧
    s.stats.active = 1 ∧ s.stats.queued = 1 ∧ ¬ Truthful (.sized 0 0 .CLOSE) s := by
  have ran : (TransitionRuns.execute (step (.sized 0 0 .CLOSE)) Promised (start (.sized 0 0 .CLOSE))
      unclosedSchedule).any (fun s => s.stats.active == 1 && s.stats.queued == 1) = true := by decide
  obtain ⟨s,path,seen⟩ := TransitionRuns.execute_reaches ran
  rw [Bool.and_eq_true,beq_iff_eq,beq_iff_eq] at seen
  refine ⟨s,path,seen.1,seen.2,fun assumed => ?_⟩
  have one : s.stats.active + s.stats.queued ≤ 1 := assumed.bounded
  omega

def Request.wasTaken (r : Request) : Bool := r.job != .none && r.job != .queued

-- The accept thread is between record_submitted and submit, or submit was refused.
def Request.unhanded (r : Request) : Bool := r.times .recordSubmitted == 1 && r.job == .none

structure Cleaned (s : State) : Prop where
  active : s.stats.active = 0
  queued : (∀ r ∈ s.requests, r.unhanded = false) → s.stats.queued = 0
  settled : s.stats.completed + s.stats.errored = s.requests.countP Request.wasTaken
  once : ∀ r ∈ s.requests, r.times .recordCompleted + r.times .recordErrored ≤ 1
  shut : ∀ r ∈ s.requests, r.wasTaken = true → 1 ≤ r.times .shutdownRequest

theorem drained_job {s : State} (drained : s.drained = true) (member : r ∈ s.requests) :
    r.job = .none ∨ r.job = .done := by
  have quiet := List.all_eq_true.mp drained r member
  revert quiet
  cases r.job <;> simp [Job.running]

theorem drained_queued (valid : Coherent r) (handed : r.unhanded = false) (quiet : r.job = .none ∨ r.job = .done) :
    r.queuedShare = 0 := by
  have counted := valid.counts .recordSubmitted rfl
  rw [queuedShare_cases valid]
  rcases quiet with fresh | ended
  · simp only [Request.unhanded,fresh,counted] at handed
    rw [fresh]
    cases stage : r.stage with
    | ended ending => cases ending <;> simp [stage,Stage.count,Job.count] at handed ⊢
    | _ => simp [stage,Stage.count,Job.count] at handed ⊢
  · have placed := valid.placed (by simp [ended])
    rw [ended]
    revert placed
    cases r.stage with
    | ended ending => cases ending <;> simp [Stage.count,Job.count]
    | _ => simp [Stage.count,Job.count]

theorem workers_clean (path : Runs cfg (Workers Job.tame) actions s) (drained : s.drained = true) : Cleaned s := by
  have valid := runs_coherent path
  have books := runs_accounted path
  have sums := runs_balanced path
  have active : s.stats.active = 0 := by
    rw [(gauges_shared path).2]
    apply total_zero
    intro r member
    rw [activeShare_cases (valid r member) (books r member)]
    rcases drained_job drained member with fresh | ended
    · rw [fresh]; rfl
    · rw [ended]; rfl
  refine ⟨active,?_,?_,?_,?_⟩
  · intro handed
    rw [(gauges_shared path).1]
    exact total_zero fun r member =>
      drained_queued (valid r member) (handed r member) (drained_job drained member)
  · change s.shared.stats.completed + s.shared.stats.errored = _
    rw [sums.completed,sums.errored,State.made,State.made,← total_add,← total_countP]
    apply total_congr
    intro r member
    rw [← Nat.cast_add,(books r member).settled]
    rcases drained_job drained member with fresh | ended
    · simp [Request.wasTaken,fresh,Job.settled]
    · simp [Request.wasTaken,ended,Job.settled]
  · intro r member
    have bound : r.job.settled ≤ 1 := by cases r.job <;> simp [Job.settled]
    have settled := (books r member).settled
    omega
  · intro r member taken
    apply (books r member).cleaned
    rcases drained_job drained member with fresh | ended
    · simp [Request.wasTaken,fresh] at taken
    · rw [ended]; rfl

def erroredSchedule : List Action :=
  handover 0 .threadStarted ++ [.take 0,.work 0 .returned,.work 0 .exception,.work 0 .returned,.work 0 .returned,
    .work 0 .returned,.work 0 .returned]

theorem workers_clean_errored : ∃ s, Runs (.sized 0 0 .FAULT) (Workers Job.tame) erroredSchedule s ∧
    Cleaned s ∧ s.stats.errored = 1 := by
  have ran : (TransitionRuns.execute (step (.sized 0 0 .FAULT)) (Workers Job.tame) (start (.sized 0 0 .FAULT))
      erroredSchedule).any (fun s => s.drained && s.stats.errored == 1) = true := by decide
  obtain ⟨s,path,seen⟩ := TransitionRuns.execute_reaches ran
  rw [Bool.and_eq_true,beq_iff_eq] at seen
  exact ⟨s,path,workers_clean path seen.1,seen.2⟩

-- Past the except clause only the permit is given back.
def leakedSchedule : List Action :=
  handover 0 .threadStarted ++ [.take 0,.work 0 .returned,.work 0 .baseException,.work 0 .returned]

theorem leaked_active : ∃ s, Runs (.sized 0 0 .FAULT) TransitionRuns.Anything leakedSchedule s ∧
    s.drained = true ∧ s.stats.active = 1 ∧ s.shared.permits = 1 ∧ ¬ Cleaned s := by
  have ran : (TransitionRuns.execute (step (.sized 0 0 .FAULT)) TransitionRuns.Anything (start (.sized 0 0 .FAULT))
      leakedSchedule).any (fun s => s.drained && s.stats.active == 1 && s.shared.permits == 1) = true := by decide
  obtain ⟨s,path,seen⟩ := TransitionRuns.execute_reaches ran
  rw [Bool.and_eq_true,Bool.and_eq_true,beq_iff_eq,beq_iff_eq] at seen
  refine ⟨s,path,seen.1.1,seen.1.2,seen.2,fun assumed => ?_⟩
  have none := assumed.active
  omega

def State.without (s : State) (i : Nat) : State := {s with requests := s.requests.eraseIdx i}

def Request.turnedAway (r : Request) : Bool := r.stage == .ended .failed && r.job == .none

structure Unrolled (cfg : XMLRPCServerConfig) (s : State) : Prop where
  queued : ∀ i r, s.requests[i]? = some r → r.turnedAway = true →
    s.stats.queued = (s.without i).made .recordSubmitted - (s.without i).made .recordStarted
  active : ∀ i r, s.requests[i]? = some r → r.turnedAway = true →
    s.stats.active = (s.without i).made .recordStarted - (s.without i).made .recordCompleted -
      (s.without i).made .recordErrored
  completed : ∀ i r, s.requests[i]? = some r → r.turnedAway = true → s.stats.completed = (s.without i).made .recordCompleted
  errored : ∀ i r, s.requests[i]? = some r → r.turnedAway = true → s.stats.errored = (s.without i).made .recordErrored
  bounded : s.stats.active + s.stats.queued ≤ cfg.max_workers + cfg.max_pending
  quiet : (∀ r ∈ s.requests, r.stage.isOver = true ∧ r.inFlight = false) → s.stats.queued = 0 ∧ s.stats.active = 0

theorem without_made (found : s.requests[i]? = some r) (c : Call) : (s.without i).made c = s.made c - r.times c :=
  total_eraseIdx found

-- Each refusal leaves `queued` one too high, and nothing ever takes it back.
theorem turnedAway_drift (path : Runs cfg admitted actions s) (found : s.requests[i]? = some r)
    (away : r.turnedAway = true) :
    s.stats.queued = (s.without i).made .recordSubmitted - (s.without i).made .recordStarted + 1 := by
  have valid := runs_coherent path r (List.mem_of_getElem? found)
  simp only [Request.turnedAway,Bool.and_eq_true,beq_iff_eq] at away
  have submitted := valid.counts .recordSubmitted rfl
  have started := valid.counts .recordStarted rfl
  rw [away.1,away.2] at submitted started
  simp only [Stage.count,Job.count] at submitted started
  rw [without_made found,without_made found]
  have sum : s.stats.queued = s.made .recordSubmitted - s.made .recordStarted := (runs_balanced path).submitted
  omega

theorem refusals_counted (path : Runs cfg admitted actions s) :
    (Runs cfg Served actions s → Unrolled cfg s) ∧
    ((∃ r ∈ s.requests, Request.turnedAway r = true) → ¬ Unrolled cfg s) := by
  refine ⟨?_,?_⟩
  · intro served
    have absent : ∀ (i : Nat) (r : Request), s.requests[i]? = some r → r.turnedAway = true → False := by
      intro i r found away
      have accepted := runs_unrefused (served_submits served) r (List.mem_of_getElem? found)
      simp only [Request.turnedAway,Bool.and_eq_true,beq_iff_eq] at away
      rw [away.1] at accepted
      cases accepted
    have held := gauges_hold served
    have signs := gauges_nonneg served
    have permits := permits_held (served_threads served)
    have capacity : cfg.capacity = cfg.max_workers + cfg.max_pending := rfl
    refine ⟨fun i r found away => (absent i r found away).elim,fun i r found away => (absent i r found away).elim,
      fun i r found away => (absent i r found away).elim,fun i r found away => (absent i r found away).elim,
      by omega,?_⟩
    intro left
    have none : s.requests.countP Request.holds = 0 := by
      rw [List.countP_eq_zero]
      intro r member
      rw [over_released (runs_coherent served r member) (runs_clean (served_threads served) r member)
        (left r member).1 (left r member).2]
      simp
    omega
  · rintro ⟨r,member,away⟩ assumed
    obtain ⟨i,found⟩ := List.mem_iff_getElem?.mp member
    have drift := turnedAway_drift path found away
    have same := assumed.queued i r found away
    omega

-- The executor is shut down while one request runs and another is queued.
def closedSchedule : List Action :=
  fullSchedule ++ [.call none (.shutdownExecutor false),.close 0 .returned,.close 0 .returned,.close 0 .returned] ++
    [.work 0 .returned,.work 0 .returned,.work 0 .returned,.work 0 .returned] ++ service 1

theorem refusals_counted_served : ∃ s, Runs (.sized 0 1 .BLOCK) Served closedSchedule s ∧ s.closed = true ∧
    Unrolled (.sized 0 1 .BLOCK) s ∧ s.stats.completed = 2 := by
  have ran : (TransitionRuns.execute (step (.sized 0 1 .BLOCK)) Served (start (.sized 0 1 .BLOCK))
      closedSchedule).any (fun s => s.closed && s.stats.completed == 2) = true := by decide
  obtain ⟨s,path,seen⟩ := TransitionRuns.execute_reaches ran
  rw [Bool.and_eq_true,beq_iff_eq] at seen
  exact ⟨s,path,seen.1,(refusals_counted path).1 path,seen.2⟩

theorem refused_stays_queued : ∃ s, Runs (.sized 0 0 .BLOCK) TransitionRuns.Anything refusedSchedule s ∧
    s.stats.queued = 1 ∧ s.shared.permits = 1 ∧ ¬ Unrolled (.sized 0 0 .BLOCK) s := by
  have ran : (TransitionRuns.execute (step (.sized 0 0 .BLOCK)) TransitionRuns.Anything (start (.sized 0 0 .BLOCK))
      refusedSchedule).any (fun s => s.stats.queued == 1 && s.shared.permits == 1 &&
        s.requests.all (fun r => r.stage.isOver && !r.inFlight)) = true := by decide
  obtain ⟨s,path,seen⟩ := TransitionRuns.execute_reaches ran
  rw [Bool.and_eq_true,Bool.and_eq_true,beq_iff_eq,beq_iff_eq] at seen
  refine ⟨s,path,seen.1.1,seen.1.2,fun assumed => ?_⟩
  have none := (assumed.quiet (by simpa using seen.2)).1
  omega

end XmlrpcExtended.Server
