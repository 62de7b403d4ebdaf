import Mathlib.Data.Int.Order.Basic

namespace XmlrpcExtended

structure ServerStats where
  active : Int
  queued : Int
  rejected_close : Int
  rejected_fault : Int
  rejected_503 : Int
  completed : Int
  errored : Int
  deriving DecidableEq, Repr

-- Python integers can become negative. Each method holds `_lock` from its first
-- line to its last, so one call is one atomic step.
structure StatsTracker where
  submitted : Int
  active : Int
  rejected_close : Int
  rejected_fault : Int
  rejected_503 : Int
  completed : Int
  errored : Int
  deriving DecidableEq, Repr

namespace StatsTracker

def init : StatsTracker := ⟨0,0,0,0,0,0,0⟩

def recordSubmitted (t : StatsTracker) : StatsTracker :=
  {t with submitted := t.submitted + 1}

def recordStarted (t : StatsTracker) : StatsTracker :=
  {t with submitted := t.submitted - 1,active := t.active + 1}

def recordCompleted (t : StatsTracker) : StatsTracker :=
  {t with active := t.active - 1,completed := t.completed + 1}

def recordErrored (t : StatsTracker) : StatsTracker :=
  {t with active := t.active - 1,errored := t.errored + 1}

def recordRejectedClose (t : StatsTracker) : StatsTracker :=
  {t with rejected_close := t.rejected_close + 1}

def recordRejectedFault (t : StatsTracker) : StatsTracker :=
  {t with rejected_fault := t.rejected_fault + 1}

def recordRejected503 (t : StatsTracker) : StatsTracker :=
  {t with rejected_503 := t.rejected_503 + 1}

def snapshot (t : StatsTracker) : ServerStats :=
  {active := t.active,queued := t.submitted,rejected_close := t.rejected_close,
   rejected_fault := t.rejected_fault,rejected_503 := t.rejected_503,
   completed := t.completed,errored := t.errored}

end StatsTracker

structure ServerStats.Grown (before after : ServerStats) : Prop where
  rejected_close : before.rejected_close ≤ after.rejected_close
  rejected_fault : before.rejected_fault ≤ after.rejected_fault
  rejected_503 : before.rejected_503 ≤ after.rejected_503
  completed : before.completed ≤ after.completed
  errored : before.errored ≤ after.errored

theorem ServerStats.Grown.refl (s : ServerStats) : s.Grown s :=
  ⟨le_refl _,le_refl _,le_refl _,le_refl _,le_refl _⟩

theorem ServerStats.Grown.trans (first : ServerStats.Grown a b) (second : b.Grown c) : a.Grown c :=
  ⟨le_trans first.rejected_close second.rejected_close,le_trans first.rejected_fault second.rejected_fault,
   le_trans first.rejected_503 second.rejected_503,le_trans first.completed second.completed,
   le_trans first.errored second.errored⟩

end XmlrpcExtended
