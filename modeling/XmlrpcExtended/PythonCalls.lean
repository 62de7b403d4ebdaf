import XmlrpcExtended.PythonText

namespace XmlrpcExtended.Dispatch

-- What asyncio tells apart of an exception's class, as CPython 3.10 and 3.11 have it. The last
-- three are those of concurrent.futures themselves.
inductive ExceptionKind where
  | exception
  | baseException
  | stopIteration
  | stopIterationSubclass
  | cancelledError
  | timeoutError
  | invalidStateError
  deriving DecidableEq

def ExceptionKind.stops : ExceptionKind → Bool
  | .stopIteration | .stopIterationSubclass => true
  | _ => false

-- `rebuilt` is asyncio's exception of the same name, whose str() is as given.
class Exceptional (Exc : Type) where
  kind : Exc → ExceptionKind
  rebuilt : Text → Exc → Exc
  runtimeError : Text → Exc
  rebuilt_stops : ∀ message exc, (kind exc).stops = false → (kind (rebuilt message exc)).stops = false

-- Reading an attribute, calling and awaiting run code of the application, which may
-- change the world in any way and raise anything. The rest has no effect. `stopValue` is
-- `exc.value` of a StopIteration, `rebuiltStr` the str() of a new exception with `exc.args`.
structure Python (Obj Exc World : Type) where
  isNone : Obj → Bool
  iscoroutinefunction : Obj → Bool
  isAttributeError : Exc → Bool
  str : Text → Obj
  tuple : List Obj → Obj
  nameOf : Obj → Option Text
  stopValue : Exc → Obj
  rebuiltStr : Exc → Text
  getattr : Obj → Text → World → Except Exc Obj × World
  call : Obj → List Obj → World → Except Exc Obj × World
  await : Obj → World → Except Exc Obj × World

-- `pending` is no exception: an await that never ends.
inductive Failure (Exc : Type) where
  | raised (exc : Exc)
  | pending
  | attributeError (message : Text)
  | exception (message : Text)
  | fault (faultCode : Int) (faultString : Text)

-- The world is kept when an exception is raised: what was done stays done.
abbrev Act (Exc World α : Type) := EStateM (Failure Exc) World α

variable {Obj Exc World α : Type}

def attempt (ask : World → Except Exc α × World) : Act Exc World α := fun w =>
  match ask w with
  | (.ok v,next) => .ok v next
  | (.error exc,next) => .error (.raised exc) next

namespace Python

variable (py : Python Obj Exc World)

def orNone (obj : Obj) : Option Obj := if py.isNone obj then none else some obj

def catches : Failure Exc → Bool
  | .raised exc => py.isAttributeError exc
  | .attributeError _ => true
  | _ => false

-- `try: ... except AttributeError: pass`
def exceptAttributeError (body : Act Exc World α) : Act Exc World (Option α) := fun w =>
  match body w with
  | .ok v next => .ok (some v) next
  | .error failure next => if py.catches failure then .ok none next else .error failure next

def hasattr (obj : Obj) (name : Text) : Act Exc World Bool :=
  Option.isSome <$> py.exceptAttributeError (attempt (py.getattr obj name))

end Python

section
variable [Exceptional Exc]

inductive Handed (Obj Exc : Type) where
  | raised (exc : Exc)
  | returned (obj : Obj)
  | pending

def Handed.run (next : World) : Handed Obj Exc → EStateM.Result (Failure Exc) World Obj
  | .raised exc => .error (.raised exc) next
  | .returned obj => .ok obj next
  | .pending => .error .pending next

-- What awaiting the asyncio future of a call gives where the call has raised: `Future.set_exception`
-- refuses StopIteration itself, so that the future stays pending, a subclass of it ends the await
-- as a return would, and `_convert_future_exc` replaces the three of concurrent.futures.
def Python.handed (py : Python Obj Exc World) (exc : Exc) : Handed Obj Exc :=
  match Exceptional.kind exc with
  | .stopIteration => .pending
  | .stopIterationSubclass => .returned (py.stopValue exc)
  | .cancelledError | .timeoutError | .invalidStateError => .raised (Exceptional.rebuilt (py.rebuiltStr exc) exc)
  | .exception | .baseException => .raised exc

def Python.awaitFuture (py : Python Obj Exc World) (ask : World → Except Exc Obj × World) : Act Exc World Obj := fun w =>
  match ask w with
  | (.ok v,next) => .ok v next
  | (.error exc,next) => (py.handed exc).run next

-- No StopIteration leaves a coroutine.
def leaving (exc : Exc) : Exc :=
  if (Exceptional.kind exc).stops then Exceptional.runtimeError (text "coroutine raised StopIteration") else exc

def Failure.leaving : Failure Exc → Failure Exc
  | .raised exc => .raised (Dispatch.leaving exc)
  | failure => failure

def asLeft : EStateM.Result (Failure Exc) World α → EStateM.Result (Failure Exc) World α
  | .ok v next => .ok v next
  | .error failure next => .error failure.leaving next

def coroutine (body : Act Exc World α) : Act Exc World α := fun w => asLeft (body w)

end

inductive Event (Obj : Type) where
  | read (obj : Obj) (name : Text)
  | called (f : Obj) (args : List Obj)
  | awaited (coroutine : Obj)
  deriving DecidableEq

def recorded (event : Event Obj) (ask : World → Except Exc α × World) :
    World × List (Event Obj) → Except Exc α × (World × List (Event Obj)) := fun (w,events) =>
  ((ask w).1,(ask w).2,events ++ [event])

def Python.traced (py : Python Obj Exc World) : Python Obj Exc (World × List (Event Obj)) :=
  {isNone := py.isNone,iscoroutinefunction := py.iscoroutinefunction,isAttributeError := py.isAttributeError,
   str := py.str,tuple := py.tuple,nameOf := py.nameOf,stopValue := py.stopValue,rebuiltStr := py.rebuiltStr,
   getattr := fun obj name => recorded (.read obj name) (py.getattr obj name),
   call := fun f args => recorded (.called f args) (py.call f args),
   await := fun coroutine => recorded (.awaited coroutine) (py.await coroutine)}

def after : EStateM.Result ε σ α → σ
  | .ok _ s => s
  | .error _ s => s

variable {py : Python Obj Exc World}

theorem bind_run (first : Act Exc World α) (rest : α → Act Exc World β) (w : World) :
    (first >>= rest) w = match first w with
      | .ok v next => rest v next
      | .error failure next => .error failure next := by
  simp only [bind,EStateM.bind]
  cases first w <;> rfl

-- Every exception that a step can end with is of this kind.
def Fails (kind : Failure Exc → Prop) (step : Act Exc World α) : Prop :=
  ∀ w failure next, step w = .error failure next → kind failure

def Raised (failure : Failure Exc) : Prop := ∃ exc, failure = .raised exc

abbrev Raises (step : Act Exc World α) : Prop := Fails Raised step

section
variable {kind : Failure Exc → Prop}

theorem Fails.mono {wider : Failure Exc → Prop} {step : Act Exc World α} (fails : Fails kind step)
    (implied : ∀ failure, kind failure → wider failure) : Fails wider step :=
  fun w failure next ran => implied failure (fails w failure next ran)

theorem throw_fails {failure : Failure Exc} (ofKind : kind failure) : Fails kind (throw failure : Act Exc World α) := by
  intro w thrown next ran
  cases ran
  exact ofKind

theorem bind_fails {first : Act Exc World α} {rest : α → Act Exc World β} (before : Fails kind first)
    (later : ∀ v, Fails kind (rest v)) : Fails kind (first >>= rest) := by
  intro w failure next ran
  rw [bind_run] at ran
  split at ran
  · exact later _ _ _ _ ran
  · rename_i failed
    cases ran
    exact before _ _ _ failed

end

theorem attempt_raises (ask : World → Except Exc α × World) : Raises (attempt ask) := by
  intro w failure next ran
  simp only [attempt] at ran
  split at ran
  · cases ran
  · cases ran
    exact ⟨_,rfl⟩

theorem except_cases {failure : Failure Exc} {body : Act Exc World α} (ran : py.exceptAttributeError body w = .error failure next) :
    body w = .error failure next ∧ py.catches failure = false := by
  simp only [Python.exceptAttributeError] at ran
  split at ran
  · cases ran
  · split at ran
    · cases ran
    · rename_i failed uncaught
      cases ran
      exact ⟨failed,by simpa using uncaught⟩

theorem hasattr_run (obj : Obj) (name : Text) (w : World) :
    py.hasattr obj name w = match py.exceptAttributeError (attempt (py.getattr obj name)) w with
      | .ok found next => .ok found.isSome next
      | .error failure next => .error failure next := by
  simp only [Python.hasattr,Functor.map,EStateM.map]
  cases py.exceptAttributeError (attempt (py.getattr obj name)) w <;> rfl

theorem hasattr_raises (obj : Obj) (name : Text) : Raises (py.hasattr obj name) := by
  intro w failure next ran
  rw [hasattr_run] at ran
  split at ran
  · cases ran
  · rename_i probed
    cases ran
    exact attempt_raises _ _ _ _ (except_cases probed).1

def logged (events : List (Event Obj)) : EStateM.Result (Failure Exc) World α →
    EStateM.Result (Failure Exc) (World × List (Event Obj)) α
  | .ok v next => .ok v (next,events)
  | .error failure next => .error failure (next,events)

theorem logged_events (events : List (Event Obj)) (result : EStateM.Result (Failure Exc) World α) :
    (after (logged events result)).2 = events := by
  cases result <;> rfl

-- The step ends as it does without the record, to which it adds such events only.
def Traced (shown : Event Obj → Prop) (recording : Act Exc (World × List (Event Obj)) α) (plain : Act Exc World α) : Prop :=
  ∀ w events, ∃ added, recording (w,events) = logged (events ++ added) (plain w) ∧ ∀ event ∈ added, shown event

section
variable {shown : Event Obj → Prop}

theorem pure_traced (v : α) : Traced shown (pure v : Act Exc (World × List (Event Obj)) α) (pure v) :=
  fun w events => ⟨[],by rw [List.append_nil]; rfl,by simp⟩

theorem throw_traced (failure : Failure Exc) :
    Traced shown (throw failure : Act Exc (World × List (Event Obj)) α) (throw failure) :=
  fun w events => ⟨[],by rw [List.append_nil]; rfl,by simp⟩

theorem bind_traced {first : Act Exc (World × List (Event Obj)) α} {plainFirst : Act Exc World α}
    {rest : α → Act Exc (World × List (Event Obj)) β} {plainRest : α → Act Exc World β}
    (before : Traced shown first plainFirst) (later : ∀ v, Traced shown (rest v) (plainRest v)) :
    Traced shown (first >>= rest) (plainFirst >>= plainRest) := by
  intro w events
  obtain ⟨added,same,each⟩ := before w events
  rw [bind_run,bind_run,same]
  cases plainFirst w with
  | ok v next =>
    obtain ⟨more,same',each'⟩ := later v next (events ++ added)
    refine ⟨added ++ more,?_,?_⟩
    · rw [← List.append_assoc]
      exact same'
    · intro event member
      exact (List.mem_append.mp member).elim (each event) (each' event)
  | error failure next => exact ⟨added,rfl,each⟩

theorem Traced.mono {wider : Event Obj → Prop} {recording : Act Exc (World × List (Event Obj)) α} {plain : Act Exc World α}
    (traced : Traced shown recording plain) (implied : ∀ event, shown event → wider event) : Traced wider recording plain := by
  intro w events
  obtain ⟨added,same,each⟩ := traced w events
  exact ⟨added,same,fun event member => implied event (each event member)⟩

end

theorem attempt_traced (ask : World → Except Exc α × World) (event : Event Obj) (w : World) (events : List (Event Obj)) :
    attempt (recorded event ask) (w,events) = logged (events ++ [event]) (attempt ask w) := by
  simp only [attempt,recorded]
  rcases ask w with ⟨result,next⟩
  cases result <;> rfl

theorem except_traced (py : Python Obj Exc World) (body : Act Exc (World × List (Event Obj)) α) (plain : Act Exc World α)
    (same : body (w,events) = logged more (plain w)) :
    py.traced.exceptAttributeError body (w,events) = logged more (py.exceptAttributeError plain w) := by
  simp only [Python.exceptAttributeError,same]
  cases plain w with
  | ok v next => rfl
  | error failure next =>
    have caught : py.traced.catches failure = py.catches failure := by cases failure <;> rfl
    simp only [logged,caught]
    cases py.catches failure <;> rfl

theorem hasattr_traced (py : Python Obj Exc World) (obj : Obj) (name : Text) (w : World) (events : List (Event Obj)) :
    py.traced.hasattr obj name (w,events) = logged (events ++ [.read obj name]) (py.hasattr obj name w) := by
  have probe := except_traced py (attempt (py.traced.getattr obj name)) (attempt (py.getattr obj name))
    (attempt_traced (py.getattr obj name) (.read obj name) w events)
  rw [hasattr_run,hasattr_run,probe]
  cases py.exceptAttributeError (attempt (py.getattr obj name)) w <;> rfl

def Event.Reads : Event Obj → Prop
  | .read _ _ => True
  | _ => False

def Event.Public : Event Obj → Prop
  | .read _ name => name.startsWith (text "_") = false
  | _ => False

theorem Event.Public.reads {event : Event Obj} (public_ : event.Public) : event.Reads := by
  cases event with
  | read obj name => trivial
  | called f args => exact public_
  | awaited coroutine => exact public_

end XmlrpcExtended.Dispatch
