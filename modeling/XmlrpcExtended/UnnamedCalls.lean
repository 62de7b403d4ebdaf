import XmlrpcExtended.AsgiRequests

namespace XmlrpcExtended.Dispatch

variable {World : Type} {isNone : Value → Bool} {py : Python Value Exn World}

def Failure.answerable (allow_none : Bool) (failure : Failure Exn) : Bool := failure.exc.any (Thrown.answerable allow_none)

-- Reading the name `None` of the instance finds nothing to call, or raises what has a fault once it has left the coroutine.
inductive Fruitless (py : Python Value Exn World) (allow_none : Bool) (inst : Value) (w : World) : Prop where
  | missing (read : py.getattr inst (text "None") w = (.error exc,next))
      (shown : py.isAttributeError exc = true ∨ (leaving exc).answerable allow_none = true)
  | empty (read : py.getattr inst (text "None") w = (.ok obj,next)) (none : py.isNone obj = true)

-- The same of both reads: of the hook, and without one of the name.
inductive Barren (py : Python Value Exn World) (allow_none : Bool) (inst : Value) (w : World) : Prop where
  | hookless (read : py.getattr inst (text "_dispatch") w = (.error exc,next)) (missed : py.isAttributeError exc = true)
      (fruitless : Fruitless py allow_none inst next)
  | unread (read : py.getattr inst (text "_dispatch") w = (.error exc,next)) (other : py.isAttributeError exc = false)
      (shown : (leaving exc).answerable allow_none = true)
  | vanished (read : py.getattr inst (text "_dispatch") w = (.ok hook,next))
      (again : py.getattr inst (text "_dispatch") next = (.error exc,later)) (shown : (leaving exc).answerable allow_none = true)

-- Nothing to call is selected, or the exception that ends the selection has a fault.
def Idle (allow_none : Bool) : EStateM.Result (Failure Exn) World (Option (Value × List Value)) → Prop
  | .ok found _ => found = none
  | .error failure _ => failure.leaving.answerable allow_none = true

theorem read_run {result : Except Exn Value} (read : py.getattr obj name w = (result,next)) :
    attempt (py.getattr obj name) w = match result with
      | .ok v => .ok v next
      | .error exc => .error (.raised exc) next := by
  simp only [attempt,read]
  cases result <;> rfl

theorem probe_run {result : Except Exn Value} (read : py.getattr obj name w = (result,next)) :
    py.hasattr obj name w = match result with
      | .ok _ => .ok true next
      | .error exc => if py.isAttributeError exc then .ok false next else .error (.raised exc) next := by
  rw [hasattr_run]
  simp only [Python.exceptAttributeError,read_run read]
  cases result with
  | ok v => rfl
  | error exc =>
    by_cases missed : py.isAttributeError exc = true <;> simp [Python.catches,missed]

theorem resolve_none_run {result : Except Exn Value} (read : py.getattr inst (text "None") w = (result,next)) (allowed : Bool) :
    py.exceptAttributeError (resolveDottedAttribute py inst (text "None") allowed) w = match result with
      | .ok obj => .ok (some obj) next
      | .error exc => if py.isAttributeError exc then .ok none next else .error (.raised exc) next := by
  have single : attrs (text "None") allowed = [text "None"] := by cases allowed <;> decide
  have public_ : (text "None").startsWith (text "_") = false := by decide
  simp only [Python.exceptAttributeError,resolveDottedAttribute,single,resolve,public_,Bool.false_eq_true,if_false]
  rw [bind_run,read_run read]
  cases result <;> rfl

-- The search for the name, where there is no hook.
theorem search_idle (py : Python Value Exn World) (allow_none allowed : Bool) (inst : Value) (params : List Value) (w : World) :
    Idle allow_none ((do
        let func ← py.exceptAttributeError (resolveDottedAttribute py inst (text "None") allowed)
        return (func.bind py.orNone).map fun func => (func,params) : Act Exn World (Option (Value × List Value))) w) ↔
      Fruitless py allow_none inst w := by
  rw [bind_run]
  rcases read : py.getattr inst (text "None") w with ⟨result,next⟩
  rw [resolve_none_run read]
  cases result with
  | ok obj =>
    have found : Idle allow_none ((pure ((py.orNone obj).map fun func => (func,params)) :
        Act Exn World (Option (Value × List Value))) next) ↔ py.isNone obj = true := by
      change ((py.orNone obj).map fun func => (func,params)) = none ↔ _
      simp [Python.orNone]
    refine found.trans ⟨fun none_ => .empty read none_,?_⟩
    rintro (⟨other,_⟩ | ⟨other,none_⟩)
    · cases read.symm.trans other
    · cases read.symm.trans other
      exact none_
  | error exc =>
    cases missed : py.isAttributeError exc with
    | true =>
      simp only [missed,if_true]
      exact iff_of_true rfl (.missing read (.inl missed))
    | false =>
      simp only [missed,Bool.false_eq_true,if_false]
      constructor
      · exact fun shown => .missing read (.inr shown)
      · rintro (⟨other,shown⟩ | ⟨other,_⟩)
        · cases read.symm.trans other
          exact shown.resolve_left (by simp [missed])
        · cases read.symm.trans other

-- The hook that was there is read once more.
theorem hook_idle (allow_none : Bool) (args : List Value) (read : py.getattr inst (text "_dispatch") w = (.ok first,next)) :
    Idle allow_none ((do
        let hook ← attempt (py.getattr inst (text "_dispatch"))
        return some (hook,args) : Act Exn World (Option (Value × List Value))) next) ↔ Barren py allow_none inst w := by
  rw [bind_run]
  rcases again : py.getattr inst (text "_dispatch") next with ⟨second,later⟩
  rw [read_run again]
  cases second with
  | ok hook =>
    refine iff_of_false (fun idle => by cases idle) ?_
    rintro (⟨other,_,_⟩ | ⟨other,_,_⟩ | ⟨other,again',_⟩)
    all_goals cases read.symm.trans other
    cases again.symm.trans again'
  | error exc =>
    constructor
    · exact fun shown => .vanished read again shown
    · rintro (⟨other,_,_⟩ | ⟨other,_,_⟩ | ⟨other,again',shown⟩)
      all_goals cases read.symm.trans other
      cases again.symm.trans again'
      exact shown

theorem unread_idle (allow_none : Bool) (read : py.getattr inst (text "_dispatch") w = (.error exc,next))
    (other : py.isAttributeError exc = false) :
    (leaving exc).answerable allow_none = true ↔ Barren py allow_none inst w := by
  constructor
  · exact fun shown => .unread read other shown
  · rintro (⟨same,missed,_⟩ | ⟨same,_,shown⟩ | ⟨same,_,_⟩)
    all_goals cases read.symm.trans same
    · rw [other] at missed
      cases missed
    · exact shown

theorem hookless_idle (allow_none : Bool) (read : py.getattr inst (text "_dispatch") w = (.error exc,next))
    (missed : py.isAttributeError exc = true) : Fruitless py allow_none inst next ↔ Barren py allow_none inst w := by
  constructor
  · exact fun fruitless => .hookless read missed fruitless
  · rintro (⟨same,_,fruitless⟩ | ⟨same,other,_⟩ | ⟨same,_,_⟩)
    all_goals cases read.symm.trans same
    · exact fruitless
    · rw [missed] at other
      cases other

theorem select_idle (py : Python Value Exn World) (app : Registry py.isNone) (allow_none : Bool) (params : List Value) (w : World) :
    Idle allow_none (select py app (text "None") params w) ↔
      app.funcs.lookup (text "None") = none ∧ ∀ inst, app.instance_ = some inst → Barren py allow_none inst w := by
  unfold select
  cases registered : app.funcs.lookup (text "None") with
  | some func =>
    simp only [Option.bind_some,Registry.lookup_orNone registered]
    exact iff_of_false (fun idle => by cases idle) (by simp)
  | none =>
    simp only [Option.bind_none]
    cases installed : app.instance_ with
    | none => exact iff_of_true rfl (by simp)
    | some inst =>
      simp only [true_and,Option.some.injEq,forall_eq']
      rw [bind_run]
      rcases read : py.getattr inst (text "_dispatch") w with ⟨first,next⟩
      rw [probe_run read]
      cases first with
      | ok hook => exact hook_idle allow_none _ read
      | error exc =>
        cases missed : py.isAttributeError exc with
        | false =>
          simp only [missed,Bool.false_eq_true,if_false]
          exact unread_idle allow_none read missed
        | true =>
          simp only [missed,if_true,Bool.false_eq_true,if_false]
          exact (search_idle py allow_none _ inst params next).trans (hookless_idle allow_none read missed)

-- An exception that has a fault, before any call.
structure Quiet (allow_none : Bool) (result : EStateM.Result (Failure Exn) (World × List (Event Value)) Value) : Prop where
  uncalled : ∀ f args, Event.called f args ∉ (after result).2
  fails : ∃ failure next, result = .error failure next ∧ failure.answerable allow_none = true

theorem callHandler_called (py : Python Value Exn World) (func : Value) (args : List Value)
    (env : World × List (Event Value)) : Event.called func args ∈ (after (callHandler py.traced func args env)).2 := by
  obtain ⟨w,events⟩ := env
  cases async : py.iscoroutinefunction func with
  | false =>
    rw [callHandler_sync py.traced async,awaitFuture_traced,logged_events]
    simp
  | true =>
    have awaits : callHandler py.traced func args = awaitCall py.traced func args := by
      have same : py.traced.iscoroutinefunction func = true := async
      simp only [callHandler,same,if_true]
    have called := attempt_traced (py.call func args) (.called func args) w events
    change attempt (py.traced.call func args) (w,events) = _ at called
    rw [awaits,awaitCall,bind_run,called]
    cases attempt (py.call func args) w with
    | error failure next => simp [logged,after]
    | ok coroutine next =>
      have awaited := attempt_traced (py.await coroutine) (.awaited coroutine) next (events ++ [.called func args])
      change attempt (py.traced.await coroutine) _ = _ at awaited
      rw [logged]
      simp only [awaited,logged_events]
      simp

-- Nothing is called exactly where nothing to call is selected.
theorem none_quiet (py : Python Value Exn World) (app : Registry py.isNone) (allow_none : Bool) (params : List Value) (w : World) :
    Quiet allow_none (asyncDispatch py.traced app (text "None") params (w,[])) ↔
      Idle allow_none (select py app (text "None") params w) := by
  obtain ⟨events,selected,reads⟩ := select_traced py app (text "None") params w []
  rw [List.nil_append] at selected
  have uncalled : ∀ f args, Event.called f args ∉ events := fun f args member => reads _ member
  rw [asyncDispatch_selects,coroutine,bind_run,selected]
  cases select py app (text "None") params w with
  | error failure next =>
    constructor
    · rintro ⟨_,_,_,same,shown⟩
      cases same
      exact shown
    · exact fun shown => ⟨uncalled,_,_,rfl,shown⟩
  | ok found next =>
    cases found with
    | none => exact iff_of_true ⟨uncalled,_,_,rfl,rfl⟩ rfl
    | some call =>
      obtain ⟨f,args⟩ := call
      refine iff_of_false (fun quiet => quiet.uncalled f args ?_) (fun idle => by cases idle)
      have ran := coroutine_after (callHandler py.traced f args) (next,events)
      simp only [logged]
      unfold coroutine at ran
      rw [ran]
      exact callHandler_called py f args _

-- Whoever returns has made a call.
theorem asyncDispatch_calls (py : Python Value Exn World) (app : Registry py.isNone) (method : Text) (params : List Value)
    (w : World) (ran : asyncDispatch py.traced app method params (w,[]) = .ok v env) : ∃ f args, Event.called f args ∈ env.2 := by
  rw [asyncDispatch_selects,coroutine,bind_run] at ran
  cases chosen : select py.traced app method params (w,[]) with
  | error failure next => rw [chosen] at ran; cases ran
  | ok found next =>
    rw [chosen] at ran
    cases found with
    | none => cases ran
    | some call =>
      obtain ⟨f,args⟩ := call
      have called := callHandler_called py f args next
      simp only at ran
      cases handled : callHandler py.traced f args next with
      | error failure later => rw [handled] at ran; cases ran
      | ok u later =>
        rw [handled] at ran called
        cases ran
        exact ⟨f,args,called⟩

-- No registered function, no method of the instance and no hook is called, and the response is a fault.
def Refused (py : Python Value Exn World) (codec : Codec) (app : XMLRPCASGIApp py.isNone) (data : Bytes) (w : World) : Prop :=
  (∀ f args, Event.called f args ∉ (after (asyncMarshaledDispatch py.traced codec app data (w,[]))).2) ∧
  ∃ encode response next faultCode faultString, codec.encode app.encoding = some encode ∧
    asyncMarshaledDispatch py.traced codec app data (w,[]) = .ok (encode response) next ∧
    Carries app response (.fault faultCode faultString)

theorem failure_payload (failure : Failure Exn) (allow_none : Bool) (w : World) :
    (responsePayload byName allow_none (.error failure w)).isSome = failure.answerable allow_none := by
  simp only [responsePayload,Failure.answerable]
  cases failure.exc with
  | none => rfl
  | some exc => exact answerable_payload exc allow_none

theorem exception_fault (due : exceptionPayload clauses allow_none exc = some payload) : ∃ c s, payload = .fault c s := by
  unfold exceptionPayload at due
  split at due
  · cases due
  · split at due
    · split at due <;> cases due
      exact ⟨_,_,rfl⟩
    · cases due
      exact ⟨_,_,rfl⟩
    · cases due

theorem dispatch_after (py : Python Value Exn World) (codec : Codec) (app : XMLRPCASGIApp isNone) (data : Bytes) (w : World) :
    after (asyncMarshaledDispatch py codec app data w) = after (responseText py codec app data w) := by
  rw [dispatch_encoded]
  cases responseText py codec app data w with
  | error failure next => rfl
  | ok response next =>
    simp only [encoded]
    cases codec.encode app.encoding <;> rfl

theorem refused_quiet {py : Python Value Exn World} {codec : Codec} {app : XMLRPCASGIApp py.isNone} {data : Bytes}
    (parsed : codec.loads app.use_builtin_types data = .ok (params,none)) (w : World) :
    Refused py codec app data w ↔ (codec.encode app.encoding).isSome = true ∧
      Quiet app.allow_none (asyncDispatch py.traced app.toRegistry (text "None") params (w,[])) := by
  have body : responseText py.traced codec app data =
      responseBy byName app (asyncDispatch py.traced app.toRegistry (text "None") params) := by
    simp only [responseText,parsed,Option.getD_none]
    exact callResponse_by py.traced app (text "None") params
  unfold Refused
  rw [dispatch_after,body,responseBy_after]
  constructor
  · rintro ⟨uncalled,encode,response,next,faultCode,faultString,known,returned,_⟩
    refine ⟨by rw [known]; rfl,uncalled,?_⟩
    obtain ⟨_,_,_,answered,_⟩ := (dispatch_returns _ _ _ _ _).mp returned
    rw [body] at answered
    cases ran : asyncDispatch py.traced app.toRegistry (text "None") params (w,[]) with
    | ok v later =>
      obtain ⟨f,args,called⟩ := asyncDispatch_calls _ _ _ _ _ ran
      rw [ran] at uncalled
      exact absurd called (uncalled f args)
    | error failure later =>
      refine ⟨failure,later,rfl,?_⟩
      rw [← failure_payload failure app.allow_none later,← ran]
      by_contra undue
      have escapes : ∃ escaped, responseBy byName app _ (w,[]) = .error escaped _ :=
        call_escapes (w,[]) (Option.not_isSome_iff_eq_none.mp undue)
      obtain ⟨escaped,crashed⟩ := escapes
      cases answered.symm.trans crashed
  · rintro ⟨some_,uncalled,failure,next,ran,shown⟩
    obtain ⟨encode,known⟩ := Option.isSome_iff_exists.mp some_
    rw [← failure_payload failure app.allow_none next,← ran] at shown
    obtain ⟨payload,due⟩ := Option.isSome_iff_exists.mp shown
    obtain ⟨response,answered,carries⟩ := payload_answered (w,[]) due
    rw [ran] at due
    obtain ⟨exc,_,due⟩ := Option.bind_eq_some_iff.mp due
    obtain ⟨faultCode,faultString,rfl⟩ := exception_fault due
    rw [← body] at answered
    exact ⟨uncalled,encode,response,_,faultCode,faultString,known,
      (dispatch_returns _ _ _ _ _).mpr ⟨encode,response,known,answered,rfl⟩,carries⟩

theorem unnamed_refused (py : Python Value Exn World) (codec : Codec) (app : XMLRPCASGIApp py.isNone) (data : Bytes)
    (params : List Value) (w : World) (parsed : codec.loads app.use_builtin_types data = .ok (params,none)) :
    Refused py codec app data w ↔ (codec.encode app.encoding).isSome = true ∧ app.funcs.lookup (text "None") = none ∧
      ∀ inst, app.instance_ = some inst → Barren py app.allow_none inst w := by
  rw [refused_quiet parsed w,none_quiet,select_idle]

def bareParams : Bytes := Text.ascii (text "<params></params>")

theorem unnamed_refused_function : Refused (faulting 0) Http.readerCodec (oneFunction (faulting 0)) bareParams () :=
  (unnamed_refused (faulting 0) Http.readerCodec (oneFunction (faulting 0)) bareParams [] () rfl).mpr
    ⟨rfl,by decide,fun inst installed => by cases installed⟩

-- Its objects have any attribute, and are functions that return 1.
def agreeable : Python Value Exn Unit :=
  {isNone := fun _ => false,iscoroutinefunction := fun _ => false,isAttributeError := fun _ => false,str := .str,
   tuple := .array,nameOf := fun _ => none,stopValue := fun _ => .none,rebuiltStr := fun _ => [],
   getattr := fun obj _ w => (.ok obj,w),
   call := fun _ _ w => (.ok (.int 1),w),await := fun obj w => (.ok obj,w)}

def hooked : XMLRPCASGIApp agreeable.isNone :=
  {Registry.init.registerInstance (.plain 0 (text "service")) false with
    allow_none := false,encoding := text "utf-8",use_builtin_types := false}

theorem bare_dispatched : ¬ Refused agreeable Http.readerCodec hooked bareParams () ∧
    Event.called (.plain 0 (text "service")) [.str (text "None"),.array []] ∈
      (after (asyncMarshaledDispatch agreeable.traced Http.readerCodec hooked bareParams ((),[]))).2 := by
  have called : Event.called (.plain 0 (text "service")) [.str (text "None"),.array []] ∈
      (after (asyncMarshaledDispatch agreeable.traced Http.readerCodec hooked bareParams ((),[]))).2 :=
    .tail _ (.tail _ (.head _))
  exact ⟨fun refused => refused.1 _ _ called,called⟩

end XmlrpcExtended.Dispatch
