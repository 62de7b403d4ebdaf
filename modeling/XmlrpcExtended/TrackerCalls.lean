import XmlrpcExtended.LockedObjects
import XmlrpcExtended.ServerStats

namespace XmlrpcExtended.Tracker
open TransitionRuns LockedObjects

-- The methods of _StatsTracker.
inductive Call where
  | recordSubmitted
  | recordStarted
  | recordCompleted
  | recordErrored
  | recordRejectedClose
  | recordRejectedFault
  | recordRejected503
  | snapshot
  deriving DecidableEq, Repr

-- A step on the values that a thread has loaded, and on the fields.
abbrev Access := List Int × StatsTracker → List Int × StatsTracker

def load (field : StatsTracker → Int) : Access := fun (loaded,t) => (field t :: loaded,t)

def store (set : StatsTracker → Int → StatsTracker) (change : Int) : Access := fun (loaded,t) =>
  (loaded.tail,set t (loaded.headD 0 + change))

-- `self._field += change`: the field is read, then written.
def increment (field : StatsTracker → Int) (set : StatsTracker → Int → StatsTracker) (change : Int) : List Access :=
  [load field,store set change]

def addSubmitted : Int → List Access := increment (·.submitted) fun t n => {t with submitted := n}
def addActive : Int → List Access := increment (·.active) fun t n => {t with active := n}
def addRejectedClose : Int → List Access := increment (·.rejected_close) fun t n => {t with rejected_close := n}
def addRejectedFault : Int → List Access := increment (·.rejected_fault) fun t n => {t with rejected_fault := n}
def addRejected503 : Int → List Access := increment (·.rejected_503) fun t n => {t with rejected_503 := n}
def addCompleted : Int → List Access := increment (·.completed) fun t n => {t with completed := n}
def addErrored : Int → List Access := increment (·.errored) fun t n => {t with errored := n}

-- What each method does between taking `_lock` and leaving it.
def body : Call → List Access
  | .recordSubmitted => addSubmitted 1
  | .recordStarted => addSubmitted (-1) ++ addActive 1
  | .recordCompleted => addActive (-1) ++ addCompleted 1
  | .recordErrored => addActive (-1) ++ addErrored 1
  | .recordRejectedClose => addRejectedClose 1
  | .recordRejectedFault => addRejectedFault 1
  | .recordRejected503 => addRejected503 1
  | .snapshot => [load (·.active),load (·.submitted),load (·.rejected_close),load (·.rejected_fault),load (·.rejected_503),
      load (·.completed),load (·.errored)]

def result : Call → List Int → Option ServerStats
  | .snapshot,[errored,completed,rejected_503,rejected_fault,rejected_close,queued,active] =>
    some ⟨active,queued,rejected_close,rejected_fault,rejected_503,completed,errored⟩
  | _,_ => none

def tracker : Object Call StatsTracker (List Int) (Option ServerStats) := ⟨fun _ => [],body,result⟩

-- The methods as ServerStats has them, each in one piece.
def apply : Call → StatsTracker → StatsTracker × Option ServerStats
  | .recordSubmitted,t => (t.recordSubmitted,none)
  | .recordStarted,t => (t.recordStarted,none)
  | .recordCompleted,t => (t.recordCompleted,none)
  | .recordErrored,t => (t.recordErrored,none)
  | .recordRejectedClose,t => (t.recordRejectedClose,none)
  | .recordRejectedFault,t => (t.recordRejectedFault,none)
  | .recordRejected503,t => (t.recordRejected503,none)
  | .snapshot,t => (t,some t.snapshot)

theorem tracker_atomic : tracker.atomic = apply := by
  funext call t
  cases call <;> rfl

-- What the counters come to when these calls have been made, in whatever order.
def tally (made : List Call) : ServerStats :=
  {active := made.count .recordStarted - made.count .recordCompleted - made.count .recordErrored
   queued := made.count .recordSubmitted - made.count .recordStarted
   rejected_close := made.count .recordRejectedClose
   rejected_fault := made.count .recordRejectedFault
   rejected_503 := made.count .recordRejected503
   completed := made.count .recordCompleted
   errored := made.count .recordErrored}

theorem tally_perm {left right : List Call} (same : left.Perm right) : tally left = tally right := by
  simp only [tally,same.count_eq]

theorem apply_tally (call : Call) {made : List Call} {t : StatsTracker} (before : t.snapshot = tally made) :
    (apply call t).1.snapshot = tally (made ++ [call]) := by
  obtain ⟨active,queued,close,fault,unavailable,completed,errored⟩ := ServerStats.mk.inj before
  have counts : ∀ other, (made ++ [call]).count other = made.count other + if call = other then 1 else 0 := by
    intro other
    by_cases same : call = other <;> simp [List.count_append,same]
  cases call <;>
    simp [apply,StatsTracker.recordSubmitted,StatsTracker.recordStarted,StatsTracker.recordCompleted,
      StatsTracker.recordErrored,StatsTracker.recordRejectedClose,StatsTracker.recordRejectedFault,
      StatsTracker.recordRejected503,StatsTracker.snapshot,tally,counts,active,queued,close,fault,unavailable,completed,errored] <;>
    omega

theorem sequential_tally {done : List (Call × Option ServerStats)}
    (legal : Sequential tracker.atomic .init done t) : t.snapshot = tally (done.map (·.1)) := by
  induction legal with
  | nil => rfl
  | @snoc earlier middle call legal ih =>
    rw [List.map_append,tracker_atomic]
    exact apply_tally call ih

structure Consistent {Thread : Type} [DecidableEq Thread] (s : State Thread Call StatsTracker (List Int) (Option ServerStats)) :
    Prop where
  linearizable : Linearizable apply .init s.history
  snapshots : ∀ before thread out later, s.history = before ++ .done thread .snapshot out :: later →
    out = some (tally ((taken before).map (·.2)))
  settled : (∀ thread, s.phase thread = .idle) → s.fields.snapshot = tally ((calls s.history).map (·.2))

-- However the reads and writes of the threads fall between each other, no update is lost and every snapshot is of one moment.
theorem stats_consistent {Thread : Type} [DecidableEq Thread] (actions : List (Action Thread Call))
    (s : State Thread Call StatsTracker (List Int) (Option ServerStats))
    (path : Runs (step tracker) Anything (.init .init) actions s) : Consistent s := by
  obtain ⟨⟨left,legal,held⟩,orderly⟩ := runs_coherent path
  refine ⟨tracker_atomic ▸ runs_linearizable path,?_,?_⟩
  · intro before thread out later parts
    rw [parts,effects_append] at legal
    change Sequential _ _ (_ ++ (.snapshot,out) :: effects later) _ at legal
    obtain ⟨middle,earlier,given⟩ := legal.split (effects later)
    rw [given,tracker_atomic,← effects_taken,← sequential_tally earlier]
    rfl
  · intro idle
    have outside : s.owner = none := by
      cases held with
      | free unowned => exact unowned
      | @taken thread _ _ _ _ _ inside =>
        rw [idle thread] at inside
        cases inside
    have together : (calls s.history).Perm (taken s.history) := own_perm fun thread => by
      have balanced := (orderly thread).balanced
      rw [idle thread] at balanced
      exact balanced.trans (List.append_nil _)
    rw [(held.of_free outside).2,sequential_tally legal,effects_taken,tally_perm (together.map _)]

-- The snapshot is called while the other thread is between the read and the write of its increment.
def interleaved : List (Action Bool Call) :=
  [.call true .recordSubmitted,.acquire true,.act true,.call false .snapshot,.act true,.release true,.acquire false] ++
    List.replicate 7 (.act false) ++ [.release false,.return_ false,.return_ true]

theorem stats_consistent_interleaved : ∃ s, Runs (step tracker) Anything (.init .init) interleaved s ∧ Consistent s ∧
    effects s.history = [(.recordSubmitted,none),(.snapshot,some ⟨0,1,0,0,0,0,0⟩)] := by
  have checked : (execute (step tracker) Anything (.init .init) interleaved).any
      (fun s => effects s.history == [(.recordSubmitted,none),(.snapshot,some ⟨0,1,0,0,0,0,0⟩)]) = true := by decide
  obtain ⟨s,path,seen⟩ := execute_reaches checked
  exact ⟨s,path,stats_consistent interleaved s path,by simpa using seen⟩

end XmlrpcExtended.Tracker
