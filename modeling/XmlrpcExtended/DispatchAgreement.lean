import XmlrpcExtended.Dispatch

namespace XmlrpcExtended.Dispatch

variable {Obj Exc World : Type} {py : Python Obj Exc World} {isNone : Obj → Bool}

-- What a method name stands for: a callable, with the arguments that it is to be given.
def select (py : Python Obj Exc World) (app : Registry isNone) (method : Text) (params : List Obj) :
    Act Exc World (Option (Obj × List Obj)) :=
  match (app.funcs.lookup method).bind py.orNone with
  | some func => pure (some (func,params))
  | none =>
    match app.instance_ with
    | none => pure none
    | some inst => do
      if ← py.hasattr inst (text "_dispatch") then
        let hook ← attempt (py.getattr inst (text "_dispatch"))
        return some (hook,[py.str method,py.tuple params])
      else
        let func ← py.exceptAttributeError
          (resolveDottedAttribute py inst method (app.allow_dotted_names.getD false))
        return (func.bind py.orNone).map fun func => (func,params)

def Refusal (method : Text) : Failure Exc := .fault (-32601) (text "Method \"" ++ method ++ text "\" is not supported")

def Unsupported (method : Text) : Failure Exc := .exception (text "method \"" ++ method ++ text "\" is not supported")

theorem Registry.lookup_some {app : Registry isNone} (found : app.funcs.lookup method = some func) : isNone func = false := by
  obtain ⟨before,later,same,_⟩ := List.lookup_eq_some_iff.mp found
  exact app.callable (method,func) (by simp [same])

theorem Registry.lookup_orNone {app : Registry py.isNone} (found : app.funcs.lookup method = some func) :
    py.orNone func = some func := by
  simp [Python.orNone,Registry.lookup_some found]

section
variable [Exceptional Exc]

theorem asyncDispatch_selects (py : Python Obj Exc World) (app : Registry isNone) (method : Text) (params : List Obj) :
    asyncDispatch py app method params = coroutine (select py app method params >>= fun found => match found with
      | some (f,args) => callHandler py f args
      | none => throw (Refusal method)) := by
  unfold asyncDispatch select
  congr 1
  cases (app.funcs.lookup method).bind py.orNone with
  | some func => simp only [pure_bind]
  | none =>
    cases app.instance_ with
    | none => simp only [pure_bind]; rfl
    | some inst =>
      simp only [bind_assoc]
      congr 1
      funext hooked
      cases hooked with
      | true => simp only [if_true,bind_assoc,pure_bind]
      | false =>
        simp only [Bool.false_eq_true,if_false,bind_assoc,pure_bind]
        congr 1
        funext func
        cases func.bind py.orNone <;> rfl

end

theorem dispatch_selects (py : Python Obj Exc World) (same : py.isNone = isNone) (app : Registry isNone) (method : Text)
    (params : List Obj) :
    dispatch py app method params = (select py app method params >>= fun found => match found with
      | some (f,args) => attempt (py.call f args)
      | none => throw (Unsupported method)) := by
  subst same
  unfold dispatch select
  cases registered : app.funcs.lookup method with
  | some func =>
    have some_ : py.isNone func = false := Registry.lookup_some registered
    simp only [Option.bind_some,Registry.lookup_orNone registered,some_,Bool.false_eq_true,if_false,pure_bind]
  | none =>
    simp only [Option.bind_none]
    cases installed : app.instance_ with
    | none => simp only [pure_bind]; rfl
    | some inst =>
      obtain ⟨allowed,flag⟩ := Option.isSome_iff_exists.mp (app.flagged (by simp [installed]))
      simp only [bind_assoc,flag,Option.getD_some]
      congr 1
      funext hooked
      cases hooked with
      | true => simp only [if_true,bind_assoc,pure_bind]
      | false =>
        simp only [Bool.false_eq_true,if_false,bind_assoc,pure_bind]
        congr 1
        funext func
        cases func.bind py.orNone <;> rfl

-- What resolving can raise is an AttributeError of its own or the application's.
theorem resolve_fails (py : Python Obj Exc World) (obj : Obj) (names : List Text) :
    Fails (fun failure => py.catches failure = true ∨ Raised failure) (resolve py obj names) := by
  induction names generalizing obj with
  | nil =>
    intro w failure next ran
    cases ran
  | cons i rest ih =>
    rw [resolve]
    split
    · apply throw_fails
      exact .inl rfl
    · apply bind_fails
      · exact (attempt_raises _).mono fun _ raised => .inr raised
      · exact ih

theorem resolved_raises (obj : Obj) (attr : Text) (allowed : Bool) :
    Raises (py.exceptAttributeError (resolveDottedAttribute py obj attr allowed)) := by
  intro w failure next ran
  obtain ⟨failed,uncaught⟩ := except_cases ran
  rcases resolve_fails py obj (attrs attr allowed) _ _ _ failed with caught | raised
  · rw [uncaught] at caught
    cases caught
  · exact raised

theorem pure_raises (v : α) : Raises (pure v : Act Exc World α) := by
  intro w failure next ran
  cases ran

theorem select_raises (py : Python Obj Exc World) (app : Registry isNone) (method : Text) (params : List Obj) :
    Raises (select py app method params) := by
  unfold select
  cases (app.funcs.lookup method).bind py.orNone with
  | some func => exact pure_raises _
  | none =>
    cases app.instance_ with
    | none => exact pure_raises _
    | some inst =>
      apply bind_fails (hasattr_raises _ _)
      intro hooked
      cases hooked with
      | true => exact bind_fails (attempt_raises _) fun hook => pure_raises _
      | false => exact bind_fails (resolved_raises _ _ _) fun func => pure_raises _

theorem resolve_traced (py : Python Obj Exc World) (obj : Obj) (names : List Text) :
    Traced Event.Public (resolve py.traced obj names) (resolve py obj names) := by
  induction names generalizing obj with
  | nil => exact pure_traced obj
  | cons i rest ih =>
    rw [resolve,resolve]
    split
    · exact throw_traced _
    · rename_i shown
      refine bind_traced (fun w events => ⟨[.read obj i],attempt_traced _ _ w events,?_⟩) ih
      intro event member
      rw [List.mem_singleton.mp member]
      simpa [Event.Public] using shown

theorem resolved_traced (py : Python Obj Exc World) (inst : Obj) (method : Text) (allowed : Bool) :
    Traced Event.Public (py.traced.exceptAttributeError (resolveDottedAttribute py.traced inst method allowed))
      (py.exceptAttributeError (resolveDottedAttribute py inst method allowed)) := by
  intro w events
  obtain ⟨added,same,each⟩ := resolve_traced py inst (attrs method allowed) w events
  exact ⟨added,except_traced py _ _ same,each⟩

theorem traced_isNone (py : Python Obj Exc World) : py.traced.isNone = py.isNone := rfl

theorem select_traced (py : Python Obj Exc World) (app : Registry isNone) (method : Text) (params : List Obj) :
    Traced Event.Reads (select py.traced app method params) (select py app method params) := by
  have read : ∀ obj name, Traced Event.Reads (attempt (py.traced.getattr obj name)) (attempt (py.getattr obj name)) :=
    fun obj name w events => ⟨[.read obj name],attempt_traced _ _ w events,by simp [Event.Reads]⟩
  unfold select
  have same : (app.funcs.lookup method).bind py.traced.orNone = (app.funcs.lookup method).bind py.orNone := rfl
  rw [same]
  cases (app.funcs.lookup method).bind py.orNone with
  | some func => exact pure_traced _
  | none =>
    cases app.instance_ with
    | none => exact pure_traced _
    | some inst =>
      refine bind_traced (fun w events => ⟨[.read inst (text "_dispatch")],hasattr_traced py _ _ w events,by simp [Event.Reads]⟩) ?_
      intro hooked
      cases hooked with
      | true => exact bind_traced (read _ _) fun hook => pure_traced _
      | false =>
        exact bind_traced ((resolved_traced py inst method _).mono fun _ => Event.Public.reads) fun func => pure_traced _

theorem select_hookless (app : Registry py.isNone) (method : Text) (params : List Obj) (w : World)
    (installed : app.instance_ = some inst) (hookless : py.hasattr inst (text "_dispatch") w = .ok false probed) :
    ∃ events, select py.traced app method params (w,[]) = logged events (select py app method params w) ∧
      ∀ event ∈ events.drop 1, event.Public := by
  have same : (app.funcs.lookup method).bind py.traced.orNone = (app.funcs.lookup method).bind py.orNone := rfl
  unfold select
  rw [same]
  cases (app.funcs.lookup method).bind py.orNone with
  | some func => exact ⟨[],rfl,by simp⟩
  | none =>
    obtain ⟨added,resolved,public_⟩ := resolved_traced py inst method (app.allow_dotted_names.getD false) probed
      [.read inst (text "_dispatch")]
    simp only [installed]
    rw [bind_run,bind_run,hasattr_traced,hookless]
    simp only [logged,List.nil_append,Bool.false_eq_true,if_false]
    rw [bind_run,bind_run,resolved]
    refine ⟨[.read inst (text "_dispatch")] ++ added,?_,by simpa using public_⟩
    cases py.exceptAttributeError (resolveDottedAttribute py inst method (app.allow_dotted_names.getD false)) probed <;> rfl

-- The same value, the same exception, or two refusals before any call.
inductive Agrees (method : Text) : EStateM.Result (Failure Exc) (World × List (Event Obj)) Obj →
    EStateM.Result (Failure Exc) (World × List (Event Obj)) Obj → Prop where
  | value : Agrees method (.ok v env) (.ok v env)
  | raised : Agrees method (.error (.raised exc) env) (.error (.raised exc) env)
  | refused (uncalled : ∀ f args, Event.called f args ∉ env.2) :
      Agrees method (.error (.fault (-32601) (text "Method \"" ++ method ++ text "\" is not supported")) env)
        (.error (.exception (text "method \"" ++ method ++ text "\" is not supported")) env)

section
variable [Exceptional Exc]

-- What the application raises reaches the caller of _async_dispatch as it is: no StopIteration
-- leaves a read of an attribute, and the future of the call hands its exception over.
def Carried (py : Python Obj Exc World) (app : Registry isNone) (method : Text) (params : List Obj) (w : World) : Prop :=
  match select py app method params w with
  | .error (.raised exc) _ => leaving exc = exc
  | .ok (some (f,args)) next => ∀ exc later, py.call f args next = (.error exc,later) → py.handed exc = .raised exc
  | _ => True

theorem callHandler_sync (py : Python Obj Exc World) (sync : py.iscoroutinefunction func = false) (args : List Obj) :
    callHandler py func args = py.awaitFuture (py.call func args) := by
  simp only [callHandler,sync,inThread]
  rfl

-- A future gives nothing that the coroutine would change.
theorem handed_left (py : Python Obj Exc World) (handed : py.handed exc = .raised kept) : leaving kept = kept := by
  have running : (Exceptional.kind kept).stops = false := by
    unfold Python.handed at handed
    split at handed
    · cases handed
    · cases handed
    all_goals
      cases handed
      rename_i kind
    · exact Exceptional.rebuilt_stops _ _ (by rw [kind]; rfl)
    · exact Exceptional.rebuilt_stops _ _ (by rw [kind]; rfl)
    · exact Exceptional.rebuilt_stops _ _ (by rw [kind]; rfl)
    · rw [kind]; rfl
    · rw [kind]; rfl
  simp [leaving,running]

theorem awaitFuture_traced (py : Python Obj Exc World) (f : Obj) (args : List Obj) (w : World) (events : List (Event Obj)) :
    py.traced.awaitFuture (py.traced.call f args) (w,events) =
      logged (events ++ [.called f args]) (py.awaitFuture (py.call f args) w) := by
  have same : ∀ exc, py.traced.handed exc = py.handed exc := fun exc => rfl
  have asked : py.traced.call f args (w,events) = ((py.call f args w).1,(py.call f args w).2,events ++ [.called f args]) := rfl
  simp only [Python.awaitFuture,asked,same]
  rcases py.call f args w with ⟨result,next⟩
  cases result with
  | ok v => rfl
  | error exc =>
    simp only
    cases py.handed exc <;> rfl

theorem coroutine_after (body : Act Exc World α) (w : World) : after (coroutine body w) = after (body w) := by
  unfold coroutine
  cases body w <;> rfl

theorem raised_agrees {env : World × List (Event Obj)} :
    Agrees method (.error (.raised left) env : EStateM.Result _ _ Obj) (.error (.raised right) env) ↔ left = right := by
  constructor
  · intro agree
    cases agree
    rfl
  · rintro rfl
    exact .raised

theorem handed_agrees (py : Python Obj Exc World) (exc : Exc) (w : World) (events : List (Event Obj)) :
    Agrees method (asLeft (logged events ((py.handed exc).run w))) (.error (.raised exc) (w,events)) ↔
      py.handed exc = .raised exc := by
  cases handed : py.handed exc with
  | raised kept =>
    simp only [Handed.run,logged,asLeft,Failure.leaving,handed_left py handed,raised_agrees,Handed.raised.injEq]
  | returned obj => exact iff_of_false (fun agree => by cases agree) (by simp)
  | pending => exact iff_of_false (fun agree => by cases agree) (by simp)

theorem called_agrees (py : Python Obj Exc World) (f : Obj) (args : List Obj) (w : World) (events : List (Event Obj)) :
    Agrees method (asLeft (py.traced.awaitFuture (py.traced.call f args) (w,events)))
        (attempt (py.traced.call f args) (w,events)) ↔
      ∀ exc later, py.call f args w = (.error exc,later) → py.handed exc = .raised exc := by
  have asked := attempt_traced (py.call f args) (.called f args) w events
  change attempt (py.traced.call f args) (w,events) = _ at asked
  rw [awaitFuture_traced,asked]
  simp only [Python.awaitFuture,attempt]
  rcases py.call f args w with ⟨result,next⟩
  cases result with
  | ok v => exact iff_of_true .value (by simp)
  | error exc =>
    refine (handed_agrees py exc next _).trans ⟨fun kept exc' later same => ?_,fun kept => kept exc next rfl⟩
    cases same
    exact kept

theorem awaitFuture_after (py : Python Obj Exc World) (ask : World → Except Exc Obj × World) (w : World) :
    after (py.awaitFuture ask w) = after (attempt ask w) := by
  simp only [Python.awaitFuture,attempt]
  rcases ask w with ⟨result,next⟩
  cases result with
  | ok v => rfl
  | error exc =>
    simp only
    cases py.handed exc <;> rfl

-- Both dispatchers make the same reads and the same call, and end alike on what is carried.
theorem dispatchers_agree (sync : ∀ f, py.iscoroutinefunction f = false) (app : Registry py.isNone) (method : Text)
    (params : List Obj) (w : World) :
    after (asyncDispatch py.traced app method params (w,[])) = after (dispatch py.traced app method params (w,[])) ∧
    (Agrees method (asyncDispatch py.traced app method params (w,[])) (dispatch py.traced app method params (w,[])) ↔
      Carried py app method params w) := by
  obtain ⟨events,selected,reads⟩ := select_traced py app method params w []
  have pool := dispatch_selects py.traced (traced_isNone py) app method params
  have uncalled : ∀ f args, Event.called f args ∉ events := fun f args member => reads _ member
  rw [List.nil_append] at selected
  rw [asyncDispatch_selects,pool,coroutine_after,coroutine,bind_run,bind_run,selected,Carried]
  cases found : select py app method params w with
  | error failure next =>
    obtain ⟨exc,rfl⟩ := select_raises py app method params w failure next found
    exact ⟨rfl,raised_agrees⟩
  | ok chosen next =>
    cases chosen with
    | none => exact ⟨rfl,iff_of_true (.refused uncalled) trivial⟩
    | some call =>
      obtain ⟨f,args⟩ := call
      simp only [logged,callHandler_sync py.traced (sync f)]
      exact ⟨awaitFuture_after _ _ _,called_agrees py f args next events⟩

theorem hookless_public (sync : ∀ f, py.iscoroutinefunction f = false) (app : Registry py.isNone) (method : Text)
    (params : List Obj) (w : World) (installed : app.instance_ = some inst)
    (hookless : py.hasattr inst (text "_dispatch") w = .ok false probed) :
    ∀ obj name, Event.read obj name ∈ (after (asyncDispatch py.traced app method params (w,[]))).2.drop 1 →
      name.startsWith (text "_") = false := by
  obtain ⟨events,selected,public_⟩ := select_hookless app method params w installed hookless
  intro obj name
  rw [asyncDispatch_selects,coroutine_after,bind_run,selected]
  cases select py app method params w with
  | error failure next => exact fun member => public_ _ member
  | ok chosen next =>
    cases chosen with
    | none => exact fun member => public_ _ member
    | some call =>
      obtain ⟨f,args⟩ := call
      simp only [logged,callHandler_sync py.traced (sync f)]
      rw [awaitFuture_traced,logged_events]
      intro member
      cases events with
      | nil => simp at member
      | cons event rest => exact public_ (.read obj name) (by simpa using member)

-- An instance without a hook is asked for no other name that begins with `_`.
def Hidden (py : Python Obj Exc World) (app : Registry py.isNone) (method : Text) (params : List Obj) (w : World) : Prop :=
  ∀ inst probed, app.instance_ = some inst → py.hasattr inst (text "_dispatch") w = .ok false probed →
    ∀ obj name, Event.read obj name ∈ (after (asyncDispatch py.traced app method params (w,[]))).2.drop 1 →
      name.startsWith (text "_") = false

theorem asyncDispatch_agrees (sync : ∀ f, py.iscoroutinefunction f = false) (app : Registry py.isNone) (method : Text)
    (params : List Obj) (w : World) :
    (Agrees method (asyncDispatch py.traced app method params (w,[])) (dispatch py.traced app method params (w,[])) ∧
      Hidden py app method params w ↔ Carried py app method params w) ∧
    after (asyncDispatch py.traced app method params (w,[])) = after (dispatch py.traced app method params (w,[])) := by
  have hidden : Hidden py app method params w :=
    fun inst probed installed hookless => hookless_public sync app method params w installed hookless
  obtain ⟨together,agree⟩ := dispatchers_agree sync app method params w
  exact ⟨⟨fun both => agree.mp both.1,fun carried => ⟨agree.mpr carried,hidden⟩⟩,together⟩

end

instance : Exceptional ExceptionKind where
  kind := id
  rebuilt _ _ := .baseException
  runtimeError _ := .exception
  rebuilt_stops _ _ _ := rfl

-- 0 is None, 1 the instance, 3 its `add`; a call adds the number of its arguments, and one
-- without arguments raises.
def numbers (raised : ExceptionKind) : Python Nat ExceptionKind Unit :=
  {isNone := fun obj => obj == 0,iscoroutinefunction := fun _ => false,isAttributeError := fun exc => exc == .exception,
   str := fun _ => 4,tuple := List.length,nameOf := fun _ => none,stopValue := fun _ => 0,rebuiltStr := fun _ => [],
   getattr := fun obj name w => (if obj = 1 ∧ name = text "add" then .ok 3 else .error .exception,w),
   call := fun f args w => (if args = [] then .error raised else .ok (f + args.length),w),
   await := fun coroutine w => (.ok coroutine,w)}

def numbered (raised : ExceptionKind) : Registry (numbers raised).isNone :=
  (Registry.init.registerFunction (numbers raised).nameOf 2 (some (text "pow"))).registerInstance 1 false

theorem asyncDispatch_agrees_numbers :
    (Agrees (text "add") (asyncDispatch (numbers .exception).traced (numbered .exception) (text "add") [5,5] ((),[]))
        (dispatch (numbers .exception).traced (numbered .exception) (text "add") [5,5] ((),[])) ∧
      Hidden (numbers .exception) (numbered .exception) (text "add") [5,5] ()) ∧
    asyncDispatch (numbers .exception).traced (numbered .exception) (text "add") [5,5] ((),[]) =
      .ok 5 ((),[.read 1 (text "_dispatch"),.read 1 (text "add"),.called 3 [5,5]]) := by
  have carried : Carried (numbers .exception) (numbered .exception) (text "add") [5,5] () := by
    intro exc later raised
    cases raised
  exact ⟨(asyncDispatch_agrees (fun _ => rfl) (numbered .exception) (text "add") [5,5] ()).1.mpr carried,rfl⟩

-- The function raises StopIteration: the one dispatcher raises it, the other waits for ever.
theorem stopIteration_pending :
    dispatch (numbers .stopIteration).traced (numbered .stopIteration) (text "pow") [] ((),[]) =
      .error (.raised .stopIteration) ((),[.called 2 []]) ∧
    asyncDispatch (numbers .stopIteration).traced (numbered .stopIteration) (text "pow") [] ((),[]) =
      .error .pending ((),[.called 2 []]) ∧
    ¬ Agrees (text "pow") (asyncDispatch (numbers .stopIteration).traced (numbered .stopIteration) (text "pow") [] ((),[]))
      (dispatch (numbers .stopIteration).traced (numbered .stopIteration) (text "pow") [] ((),[])) := by
  have raised : dispatch (numbers .stopIteration).traced (numbered .stopIteration) (text "pow") [] ((),[]) =
      .error (.raised .stopIteration) ((),[.called 2 []]) := rfl
  have waits : asyncDispatch (numbers .stopIteration).traced (numbered .stopIteration) (text "pow") [] ((),[]) =
      .error .pending ((),[.called 2 []]) := rfl
  refine ⟨raised,waits,?_⟩
  rw [raised,waits]
  intro agree
  cases agree

end XmlrpcExtended.Dispatch
