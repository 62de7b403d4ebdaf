import Mathlib.Data.List.Induction
import Mathlib.Logic.Function.Basic
import XmlrpcExtended.TransitionRuns

namespace XmlrpcExtended.LockedObjects
open TransitionRuns

variable {Thread Op Fields Local Out : Type}

-- An object with one lock: a method takes it, makes its steps on the fields one by one, and leaves it.
structure Object (Op Fields Local Out : Type) where
  enter : Op → Local
  body : Op → List (Local × Fields → Local × Fields)
  result : Op → Local → Out

def Object.made (path : List (Local × Fields → Local × Fields)) (at_ : Local × Fields) : Local × Fields :=
  path.foldl (fun reached act => act reached) at_

-- The method in one piece.
def Object.atomic (object : Object Op Fields Local Out) (op : Op) (fields : Fields) : Fields × Out :=
  let (here,fields) := Object.made (object.body op) (object.enter op,fields)
  (fields,object.result op here)

inductive Phase (Op Fields Local Out : Type) where
  | idle
  | waiting (op : Op)
  | inside (op : Op) (here : Local) (rest : List (Local × Fields → Local × Fields))
  | leaving (op : Op) (out : Out)

def Phase.isInside : Phase Op Fields Local Out → Bool
  | .inside _ _ _ => true
  | _ => false

inductive Event (Thread Op Out : Type) where
  | called (thread : Thread) (op : Op)
  | done (thread : Thread) (op : Op) (out : Out)
  | returned (thread : Thread) (op : Op) (out : Out)

def Event.thread : Event Thread Op Out → Thread
  | .called thread _ => thread
  | .done thread _ _ => thread
  | .returned thread _ _ => thread

structure State (Thread Op Fields Local Out : Type) where
  fields : Fields
  owner : Option Thread
  phase : Thread → Phase Op Fields Local Out
  history : List (Event Thread Op Out)

def State.init (fields : Fields) : State Thread Op Fields Local Out := ⟨fields,none,fun _ => .idle,[]⟩

inductive Action (Thread Op : Type) where
  | call (thread : Thread) (op : Op)
  | acquire (thread : Thread)
  | act (thread : Thread)
  | release (thread : Thread)
  | return_ (thread : Thread)

section
variable [DecidableEq Thread]

def State.moved (s : State Thread Op Fields Local Out) (thread : Thread) (phase : Phase Op Fields Local Out)
    (events : List (Event Thread Op Out)) : State Thread Op Fields Local Out :=
  {s with phase := Function.update s.phase thread phase,history := s.history ++ events}

def step (object : Object Op Fields Local Out) (s : State Thread Op Fields Local Out) :
    Action Thread Op → Option (State Thread Op Fields Local Out)
  | .call thread op =>
    match s.phase thread with
    | .idle => some (s.moved thread (.waiting op) [.called thread op])
    | _ => none
  | .acquire thread =>
    match s.owner,s.phase thread with
    | none,.waiting op => some {s.moved thread (.inside op (object.enter op) (object.body op)) [] with owner := some thread}
    | _,_ => none
  | .act thread =>
    match s.phase thread with
    | .inside op here (act :: rest) =>
      some {s.moved thread (.inside op (act (here,s.fields)).1 rest) [] with fields := (act (here,s.fields)).2}
    | _ => none
  | .release thread =>
    match s.phase thread with
    | .inside op here [] =>
      some {s.moved thread (.leaving op (object.result op here)) [.done thread op (object.result op here)] with owner := none}
    | _ => none
  | .return_ thread =>
    match s.phase thread with
    | .leaving op out => some (s.moved thread .idle [.returned thread op out])
    | _ => none

inductive Moves (object : Object Op Fields Local Out) (s : State Thread Op Fields Local Out) :
    State Thread Op Fields Local Out → Prop where
  | called (idle : s.phase thread = .idle) : Moves object s (s.moved thread (.waiting op) [.called thread op])
  | acquired (free : s.owner = none) (waits : s.phase thread = .waiting op) :
      Moves object s {s.moved thread (.inside op (object.enter op) (object.body op)) [] with owner := some thread}
  | acted (inside : s.phase thread = .inside op here (act :: rest)) :
      Moves object s {s.moved thread (.inside op (act (here,s.fields)).1 rest) [] with fields := (act (here,s.fields)).2}
  | released (inside : s.phase thread = .inside op here []) :
      Moves object s {s.moved thread (.leaving op (object.result op here)) [.done thread op (object.result op here)] with
        owner := none}
  | returned (leaves : s.phase thread = .leaving op out) : Moves object s (s.moved thread .idle [.returned thread op out])

theorem step_moves {object : Object Op Fields Local Out} {s next : State Thread Op Fields Local Out}
    (ran : step object s action = some next) : Moves object s next := by
  cases action with
  | call thread op =>
    simp only [step] at ran
    split at ran
    · rename_i idle
      cases ran
      exact .called idle
    · cases ran
  | acquire thread =>
    simp only [step] at ran
    split at ran
    · rename_i free waits
      cases ran
      exact .acquired free waits
    · cases ran
  | act thread =>
    simp only [step] at ran
    split at ran
    · rename_i inside
      cases ran
      exact .acted inside
    · cases ran
  | release thread =>
    simp only [step] at ran
    split at ran
    · rename_i inside
      cases ran
      exact .released inside
    · cases ran
  | return_ thread =>
    simp only [step] at ran
    split at ran
    · rename_i leaves
      cases ran
      exact .returned leaves
    · cases ran

end

-- The calls in the order in which they took effect, with what they gave.
def effects (history : List (Event Thread Op Out)) : List (Op × Out) := history.filterMap fun
  | .done _ op out => some (op,out)
  | _ => none

@[simp] theorem effects_append (before later : List (Event Thread Op Out)) :
    effects (before ++ later) = effects before ++ effects later := List.filterMap_append

-- One call after another, each on the fields that the one before it has left.
inductive Sequential (apply : Op → Fields → Fields × Out) (start : Fields) : List (Op × Out) → Fields → Prop where
  | nil : Sequential apply start [] start
  | snoc (earlier : Sequential apply start calls middle) :
      Sequential apply start (calls ++ [(op,(apply op middle).2)]) (apply op middle).1

theorem Sequential.split {apply : Op → Fields → Fields × Out} {start last : Fields} (later : List (Op × Out))
    (legal : Sequential apply start (calls ++ (op,out) :: later) last) :
    ∃ middle, Sequential apply start calls middle ∧ out = (apply op middle).2 := by
  generalize whole : calls ++ (op,out) :: later = all at legal
  induction legal generalizing later with
  | nil => simp at whole
  | @snoc before middle op' earlier ih =>
    rcases List.eq_nil_or_concat later with rfl | ⟨front,final,rfl⟩
    · obtain ⟨rfl,same⟩ := List.append_inj' whole rfl
      cases same
      exact ⟨middle,earlier,rfl⟩
    · have parts : (calls ++ (op,out) :: front) ++ [final] = before ++ [(op',(apply op' middle).2)] := by
        rw [← whole]
        simp
      exact ih front (List.append_inj' parts rfl).1

-- Where a thread stands in a history.
inductive Turn (Op Out : Type) where
  | idle
  | called (op : Op)
  | done (op : Op) (out : Out)

-- A thread makes one call after another; each takes effect once before it returns, with what it returns.
inductive Follows (thread : Thread) : List (Event Thread Op Out) → Turn Op Out → Prop where
  | start : Follows thread [] .idle
  | other (earlier : Follows thread events turn) (another : event.thread ≠ thread) : Follows thread (events ++ [event]) turn
  | called (earlier : Follows thread events .idle) : Follows thread (events ++ [.called thread op]) (.called op)
  | done (earlier : Follows thread events (.called op)) : Follows thread (events ++ [.done thread op out]) (.done op out)
  | returned (earlier : Follows thread events (.done op out)) : Follows thread (events ++ [.returned thread op out]) .idle

def calls (history : List (Event Thread Op Out)) : List (Thread × Op) := history.filterMap fun
  | .called thread op => some (thread,op)
  | _ => none

def taken (history : List (Event Thread Op Out)) : List (Thread × Op) := history.filterMap fun
  | .done thread op _ => some (thread,op)
  | _ => none

@[simp] theorem calls_append (before later : List (Event Thread Op Out)) : calls (before ++ later) = calls before ++ calls later :=
  List.filterMap_append

@[simp] theorem taken_append (before later : List (Event Thread Op Out)) : taken (before ++ later) = taken before ++ taken later :=
  List.filterMap_append

theorem effects_taken (history : List (Event Thread Op Out)) : (effects history).map (·.1) = (taken history).map (·.2) := by
  simp only [effects,taken,List.map_filterMap]
  congr 1
  funext event
  cases event <;> rfl

def Turn.pending : Turn Op Out → List Op
  | .called op => [op]
  | _ => []

section
variable [DecidableEq Thread]

def own (thread : Thread) (calls : List (Thread × Op)) : List Op := (calls.filter (·.1 = thread)).map (·.2)

@[simp] theorem own_append (thread : Thread) (before later : List (Thread × Op)) :
    own thread (before ++ later) = own thread before ++ own thread later := by
  simp [own]

theorem own_count [DecidableEq Op] (thread : Thread) (op : Op) (calls : List (Thread × Op)) :
    calls.count (thread,op) = (own thread calls).count op := by
  induction calls with
  | nil => rfl
  | cons call rest ih =>
    obtain ⟨other,made⟩ := call
    by_cases same : other = thread
    · subst same
      simp only [own,List.filter_cons,decide_true,if_true,List.map_cons,List.count_cons] at ih ⊢
      rw [ih]
      simp
    · simp only [own,List.filter_cons,same,decide_false,Bool.false_eq_true,if_false,List.count_cons] at ih ⊢
      rw [ih]
      simp [same]

theorem own_perm [DecidableEq Op] {left right : List (Thread × Op)} (same : ∀ thread, own thread left = own thread right) :
    left.Perm right := by
  rw [List.perm_iff_count]
  rintro ⟨thread,op⟩
  rw [own_count,own_count,same]

theorem own_others {event : Event Thread Op Out} (another : event.thread ≠ thread) :
    own thread (calls [event]) = [] ∧ own thread (taken [event]) = [] := by
  cases event <;> simp_all [calls,taken,own,Event.thread]

-- All that a thread has called has taken effect, but for the call that it is in.
theorem Follows.balanced {history : List (Event Thread Op Out)} (follows : Follows thread history turn) :
    own thread (calls history) = own thread (taken history) ++ turn.pending := by
  induction follows with
  | start => rfl
  | other earlier another ih =>
    obtain ⟨uncalled,untaken⟩ := own_others another
    rw [calls_append,taken_append,own_append,own_append,uncalled,untaken,List.append_nil,List.append_nil,ih]
  | called earlier ih =>
    rw [calls_append,taken_append,own_append,own_append,ih]
    simp [calls,taken,own,Turn.pending]
  | done earlier ih =>
    rw [calls_append,taken_append,own_append,own_append,ih]
    simp [calls,taken,own,Turn.pending]
  | returned earlier ih =>
    rw [calls_append,taken_append,own_append,own_append,ih]
    simp [calls,taken,own,Turn.pending]

end

structure Linearizable (apply : Op → Fields → Fields × Out) (start : Fields) (history : List (Event Thread Op Out)) : Prop where
  legal : ∃ last, Sequential apply start (effects history) last
  orderly : ∀ thread, ∃ turn, Follows thread history turn

def Phase.turn : Phase Op Fields Local Out → Turn Op Out
  | .idle => .idle
  | .waiting op => .called op
  | .inside op _ _ => .called op
  | .leaving op out => .done op out

-- `left` is what the last call that has taken effect left; only a thread that holds the lock is past it.
inductive Held (object : Object Op Fields Local Out) (s : State Thread Op Fields Local Out) (left : Fields) : Prop where
  | free (unowned : s.owner = none) (outside : ∀ thread, (s.phase thread).isInside = false) (same : s.fields = left)
  | taken (owned : s.owner = some thread) (inside : s.phase thread = .inside op here rest)
      (alone : ∀ other, other ≠ thread → (s.phase other).isInside = false)
      (parts : object.body op = path ++ rest) (ran : Object.made path (object.enter op,left) = (here,s.fields))

theorem Held.of_free {object : Object Op Fields Local Out} {s : State Thread Op Fields Local Out}
    (held : Held object s left) (unowned : s.owner = none) :
    (∀ thread, (s.phase thread).isInside = false) ∧ s.fields = left := by
  cases held with
  | free _ outside same => exact ⟨outside,same⟩
  | taken owned => rw [unowned] at owned; cases owned

theorem Held.of_inside {object : Object Op Fields Local Out} {s : State Thread Op Fields Local Out}
    (held : Held object s left) (inside : s.phase thread = .inside op here rest) :
    s.owner = some thread ∧ (∀ other, other ≠ thread → (s.phase other).isInside = false) ∧
      ∃ path, object.body op = path ++ rest ∧ Object.made path (object.enter op,left) = (here,s.fields) := by
  cases held with
  | free _ outside =>
    have out := outside thread
    rw [inside] at out
    cases out
  | @taken holder _ _ _ path owned within alone parts ran =>
    have same : thread = holder := by
      by_contra another
      have out := alone thread another
      rw [inside] at out
      cases out
    subst same
    rw [inside] at within
    cases within
    exact ⟨owned,alone,path,parts,ran⟩

structure Coherent (object : Object Op Fields Local Out) (start : Fields) (s : State Thread Op Fields Local Out) : Prop where
  legal : ∃ left, Sequential object.atomic start (effects s.history) left ∧ Held object s left
  orderly : ∀ thread, Follows thread s.history (s.phase thread).turn

section
variable [DecidableEq Thread] {object : Object Op Fields Local Out} {start : Fields}

theorem update_outside {phase : Thread → Phase Op Fields Local Out} (outside : (phase other).isInside = false)
    (now : changed.isInside = false ∨ other ≠ thread) : (Function.update phase thread changed other).isInside = false := by
  by_cases same : other = thread
  · subst same
    rw [Function.update_self]
    exact now.resolve_right fun another => another rfl
  · rwa [Function.update_of_ne same]

-- The histories of the other threads are as they were.
theorem moved_orderly {s : State Thread Op Fields Local Out} (phase : Phase Op Fields Local Out)
    (orderly : ∀ thread, Follows thread s.history (s.phase thread).turn)
    (own : Follows thread (s.history ++ events) phase.turn) (events_ : ∀ event ∈ events, event.thread = thread) (other : Thread) :
    Follows other (s.moved thread phase events).history ((s.moved thread phase events).phase other).turn := by
  by_cases same : other = thread
  · subst same
    simpa only [State.moved,Function.update_self] using own
  · simp only [State.moved,Function.update_of_ne same]
    clear own
    induction events using List.reverseRecOn with
    | nil => simpa using orderly other
    | append_singleton front event ih =>
      rw [← List.append_assoc]
      refine .other (ih fun e member => events_ e (List.mem_append_left _ member)) ?_
      rw [events_ event (by simp)]
      exact fun taken => same taken.symm

-- A thread that neither enters nor leaves the lock.
theorem Held.moved {s : State Thread Op Fields Local Out} (held : Held object s left) (before : (s.phase thread).isInside = false)
    (now : phase.isInside = false) (events : List (Event Thread Op Out)) : Held object (s.moved thread phase events) left := by
  cases held with
  | free unowned outside same => exact .free unowned (fun other => update_outside (outside other) (.inl now)) same
  | @taken holder _ _ _ _ owned inside alone parts ran =>
    have another : holder ≠ thread := by
      rintro rfl
      rw [inside] at before
      cases before
    exact .taken owned ((Function.update_of_ne another _ _).trans inside)
      (fun other different => update_outside (alone other different) (.inl now)) parts ran

theorem step_coherent {s next : State Thread Op Fields Local Out} (coherent : Coherent object start s) (moves : Moves object s next) :
    Coherent object start next := by
  obtain ⟨⟨left,legal,held⟩,orderly⟩ := coherent
  cases moves with
  | @called thread op idle =>
    refine ⟨⟨left,by simpa [State.moved,effects] using legal,held.moved (by rw [idle]; rfl) rfl _⟩,?_⟩
    · have before := orderly thread
      rw [idle] at before
      exact moved_orderly (.waiting op) orderly (.called before) (by simp [Event.thread])
  | @acquired thread op unowned waits =>
    obtain ⟨outside,same⟩ := held.of_free unowned
    refine ⟨⟨left,by simpa [State.moved] using legal,?_⟩,?_⟩
    · refine .taken rfl (Function.update_self _ _ _) (fun other different => ?_) (show _ = [] ++ _ from rfl) (by rw [← same]; rfl)
      exact update_outside (outside other) (.inr different)
    · have before := orderly thread
      rw [waits] at before
      exact moved_orderly (.inside op (object.enter op) (object.body op)) orderly (by rwa [List.append_nil]) (by simp)
  | @acted thread op here act rest inside =>
    obtain ⟨owned,alone,path,parts,ran⟩ := held.of_inside inside
    refine ⟨⟨left,by simpa [State.moved] using legal,?_⟩,?_⟩
    · have farther : object.body op = (path ++ [act]) ++ rest := by simp [parts]
      refine .taken owned (Function.update_self _ _ _) (fun other different => ?_) farther ?_
      · exact update_outside (alone other different) (.inr different)
      · simp only [Object.made] at ran
        simp [Object.made,List.foldl_append,ran]
    · have before := orderly thread
      rw [inside] at before
      exact moved_orderly (.inside op (act (here,s.fields)).1 rest) orderly (by rwa [List.append_nil]) (by simp)
  | @released thread op here inside =>
    obtain ⟨owned,alone,path,parts,ran⟩ := held.of_inside inside
    have whole : object.atomic op left = (s.fields,object.result op here) := by
      rw [List.append_nil] at parts
      simp only [Object.atomic,parts,ran]
    refine ⟨⟨s.fields,?_,?_⟩,?_⟩
    · have more : Sequential object.atomic start (effects s.history ++ [(op,(object.atomic op left).2)]) _ := legal.snoc
      rw [whole] at more
      simpa [State.moved,effects] using more
    · refine .free rfl (fun other => ?_) rfl
      by_cases same : other = thread
      · subst same
        simp [State.moved,Phase.isInside]
      · exact update_outside (alone other same) (.inr same)
    · have before := orderly thread
      rw [inside] at before
      exact moved_orderly (.leaving op (object.result op here)) orderly (.done before) (by simp [Event.thread])
  | @returned thread op out leaves =>
    refine ⟨⟨left,by simpa [State.moved,effects] using legal,held.moved (by rw [leaves]; rfl) rfl _⟩,?_⟩
    · have before := orderly thread
      rw [leaves] at before
      exact moved_orderly .idle orderly (.returned before) (by simp [Event.thread])

theorem runs_coherent {s : State Thread Op Fields Local Out}
    (path : Runs (step object) Anything (State.init start) actions s) : Coherent object start s := by
  have initial : Coherent object start (State.init start : State Thread Op Fields Local Out) :=
    ⟨⟨start,.nil,.free rfl (fun _ => rfl) rfl⟩,fun _ => .start⟩
  exact path.keeps (Coherent object start) initial fun _ coherent _ ran => step_coherent coherent (step_moves ran)

-- Whatever the interleaving of the steps, the calls take effect one at a time.
theorem runs_linearizable {s : State Thread Op Fields Local Out}
    (path : Runs (step object) Anything (State.init start) actions s) :
    Linearizable object.atomic start s.history := by
  obtain ⟨⟨left,legal,_⟩,orderly⟩ := runs_coherent path
  exact ⟨⟨left,legal⟩,fun thread => ⟨_,orderly thread⟩⟩

end

end XmlrpcExtended.LockedObjects
