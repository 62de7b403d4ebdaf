import XmlrpcExtended.Multicall

namespace XmlrpcExtended.Dispatch

variable {Obj World : Type} {py : Python Obj (Thrown Obj) World} {view : View Obj World} {app : XMLRPCASGIApp py.isNone}
  {entry : Entry Obj}

theorem array_marshals (v : Value) : (Value.array [v]).marshals allow_none = v.marshals allow_none := by
  cases ran : dump allow_none v with
  | ok data => simp [Value.marshals,dump,dumpItems,ran,bind,Except.bind,Except.isOk,Except.toBool]
  | error shown => simp [Value.marshals,dump,dumpItems,ran,bind,Except.bind,Except.isOk,Except.toBool]

theorem fault_struct_marshals (faultCode faultString : Value) :
    (faultStruct faultCode faultString).marshals allow_none = (Payload.fault faultCode faultString).marshals allow_none := by
  simp only [Value.marshals,Payload.marshals,marshal]
  cases dump allow_none (faultStruct faultCode faultString) <;> rfl

theorem result_marshals (v : Value) : (Payload.result v).marshals allow_none = v.marshals allow_none := by
  simp only [Value.marshals,Payload.marshals,marshal]
  cases dump allow_none v <;> rfl

theorem marshals_same {u v : Value} (same : dump allow_none u = dump allow_none v) :
    u.marshals allow_none = v.marshals allow_none := by
  simp only [Value.marshals,same]

theorem items_marshal {items : List Value} :
    (Payload.result (.array items)).marshals allow_none = true ↔ ∀ v ∈ items, v.marshals allow_none = true := by
  have dumped : (dumpItems allow_none items).isOk = true ↔ ∀ v ∈ items, v.marshals allow_none = true := by
    induction items with
    | nil => exact iff_of_true rfl (by simp)
    | cons v rest ih =>
      rw [List.forall_mem_cons,← ih]
      cases ran : dump allow_none v <;> cases others : dumpItems allow_none rest <;>
        simp [dumpItems,Value.marshals,ran,others,bind,Except.bind,Except.isOk,Except.toBool]
  rw [← dumped,result_marshals,Value.marshals,dump]
  cases dumpItems allow_none items <;> rfl

section
variable (py)

theorem dispatch_registered (registered : app.funcs.lookup entry.methodName = some f) (w : World) :
    dispatch py app.toRegistry entry.methodName entry.params w = attempt (py.call f entry.params) w := by
  have some_ : py.isNone f = false := Registry.lookup_some registered
  simp only [dispatch,registered,some_,Bool.false_eq_true,if_false]

theorem asyncDispatch_registered (registered : app.funcs.lookup name = some f) (params : List Obj) (w : World) :
    asyncDispatch py app.toRegistry name params w = asLeft (callHandler py f params w) := by
  simp only [asyncDispatch,registered,Option.bind_some,Registry.lookup_orNone registered]
  rfl

end

theorem entryResult_run (py : Python Obj (Thrown Obj) World) (view : View Obj World) {app : XMLRPCASGIApp py.isNone}
    (registered : app.funcs.lookup entry.methodName = some f) (w : World) :
    entryResult py view app.toRegistry entry w = match py.call f entry.params w with
      | (.ok result,next) => .ok (fun later => .array [view later result]) next
      | (.error (.fault faultCode faultString),next) =>
        .ok (fun later => faultStruct (view later faultCode) (view later faultString)) next
      | (.error (.error shown),next) => .ok (fun _ => faultStruct (.int 1) (.str (shown.type.shown ++ text ":" ++ shown.str))) next
      | (.error (.mute _ exc),next) => .error (.raised exc) next := by
  simp only [entryResult,tryCatch,tryCatchThe,MonadExceptOf.tryCatch,EStateM.tryCatch,bind,EStateM.bind]
  rw [dispatch_registered py registered]
  simp only [attempt]
  rcases py.call f entry.params w with ⟨result,next⟩
  cases result with
  | ok result => rfl
  | error exc => cases exc <;> rfl

-- What is sent where the call has raised in its thread.
def threadPayload (py : Python Obj (Thrown Obj) World) (view : View Obj World) (allow_none : Bool) (exc : Thrown Obj) (w : World) :
    Option Payload :=
  responsePayload byName allow_none (viewed view (fun w => asLeft ((py.handed exc).run w)) w)

theorem single_run (sync : py.iscoroutinefunction f = false) (registered : app.funcs.lookup entry.methodName = some f) (w : World) :
    single py view app entry w = match py.call f entry.params w with
      | (.ok result,next) => responsePayload byName app.allow_none (.ok (view next result) next)
      | (.error exc,next) => threadPayload py view app.allow_none exc next := by
  simp only [single,viewed,asyncDispatch_registered py registered,callHandler_sync py sync,Python.awaitFuture]
  rcases py.call f entry.params w with ⟨result,next⟩
  cases result <;> rfl

theorem described_sent (allow_none : Bool) (shown : ShownError) (w : World) :
    responsePayload byName allow_none (.error (.raised (.error shown)) w) = none ∨
      ∃ s, responsePayload byName allow_none (.error (.raised (.error shown)) w) = some (.fault (.int 1) (.str s)) := by
  change exceptionPayload byName allow_none (.error shown) = none ∨ ∃ s, exceptionPayload byName allow_none (.error shown) = _
  unfold exceptionPayload
  split
  · exact .inl rfl
  · exact .inr ⟨_,rfl⟩

-- An exception that is no Fault has a fault of code 1, none at all, or ends the await with a value.
theorem raised_sent (py : Python Obj (Thrown Obj) World) (view : View Obj World) (allow_none : Bool) (shown : ShownError)
    (w : World) :
    if shown.type.kind = .stopIterationSubclass then
      threadPayload py view allow_none (.error shown) w =
        responsePayload byName allow_none (.ok (view w (py.stopValue (.error shown))) w)
    else threadPayload py view allow_none (.error shown) w = none ∨
      ∃ s, threadPayload py view allow_none (.error shown) w = some (.fault (.int 1) (.str s)) := by
  have known : Exceptional.kind (Thrown.error shown : Thrown Obj) = shown.type.kind := rfl
  have kept : ∀ other : ShownError, py.handed (.error shown) = .raised (.error other) →
      threadPayload py view allow_none (.error shown) w =
        responsePayload byName allow_none (.error (.raised (.error other)) w) := by
    intro other handed
    have left := handed_left py handed
    simp only [threadPayload,viewed,handed,Handed.run,asLeft,Failure.leaving,left]
    rfl
  cases kind : shown.type.kind with
  | stopIterationSubclass =>
    have handed : py.handed (.error shown) = .returned (py.stopValue (.error shown)) := by simp only [Python.handed,known,kind]
    simp only [if_true,threadPayload,viewed,handed]
    rfl
  | stopIteration =>
    have handed : py.handed (.error shown) = .pending := by simp only [Python.handed,known,kind]
    rw [if_neg (by decide)]
    simp only [threadPayload,viewed,handed]
    exact .inl rfl
  | exception | baseException =>
    have handed : py.handed (.error shown) = .raised (.error shown) := by simp only [Python.handed,known,kind]
    rw [if_neg (by decide),kept shown handed]
    exact described_sent allow_none shown w
  | cancelledError | timeoutError | invalidStateError =>
    have handed : py.handed (.error shown) = .raised (.error ⟨shown.type.asyncio,py.rebuiltStr (.error shown)⟩) := by
      simp only [Python.handed,known,kind]
      rfl
    rw [if_neg (by decide),kept _ handed]
    exact described_sent allow_none _ w

-- The separate response and the item of the bundle, for each way in which the call may end.
theorem value_steady (view : View Obj World) (allow_none : Bool) (result : Obj) (next final : World) :
    (Value.array [view final result]).marshals allow_none = true ∧
      Bundled allow_none (responsePayload byName allow_none (.ok (view next result) next)) (.array [view final result]) ↔
      (view next result).marshals allow_none = true ∧ dump allow_none (view final result) = dump allow_none (view next result) := by
  obtain ⟨payload,sent,shape⟩ := value_payload byName allow_none (view next result) next
  rw [result_marshals] at shape
  rw [sent,array_marshals]
  constructor
  · rintro ⟨marshals,bundled⟩
    split at shape
    · rename_i fits
      subst shape
      obtain ⟨u,same,dumped⟩ := bundled
      cases same
      exact ⟨fits,dumped⟩
    · obtain ⟨s,rfl⟩ := shape
      obtain ⟨c,s',same,_⟩ := bundled
      cases same
  · rintro ⟨fits,dumped⟩
    rw [if_pos fits] at shape
    subst shape
    exact ⟨(marshals_same dumped).trans fits,_,rfl,dumped⟩

theorem fault_steady (py : Python Obj (Thrown Obj) World) (view : View Obj World) (allow_none : Bool)
    (faultCode faultString : Obj) (next final : World) :
    (faultStruct (view final faultCode) (view final faultString)).marshals allow_none = true ∧
      Bundled allow_none (threadPayload py view allow_none (.fault faultCode faultString) next)
        (faultStruct (view final faultCode) (view final faultString)) ↔
      Steady py view allow_none final (.error (.fault faultCode faultString),next) := by
  have sent : threadPayload py view allow_none (.fault faultCode faultString) next =
      if (Payload.fault (view next faultCode) (view next faultString)).marshals allow_none then
        some (.fault (view next faultCode) (view next faultString)) else none := rfl
  rw [sent]
  refine and_congr_right fun _ => ⟨fun bundled fits => ?_,fun kept => ?_⟩
  · rw [if_pos fits] at bundled
    obtain ⟨c,s,same,dumped⟩ := bundled
    cases same
    exact dumped
  · split
    · rename_i fits
      exact ⟨_,_,rfl,kept fits⟩
    · trivial

theorem shown_steady (py : Python Obj (Thrown Obj) World) (view : View Obj World) (allow_none : Bool) (shown : ShownError)
    (s : Text) (next final : World) :
    Bundled allow_none (threadPayload py view allow_none (.error shown) next) (faultStruct (.int 1) (.str s)) ↔
      Steady py view allow_none final (.error (.error shown),next) := by
  have sent := raised_sent py view allow_none shown next
  by_cases stops : shown.type.kind = .stopIterationSubclass
  · obtain ⟨payload,valued,shape⟩ := value_payload byName allow_none (view next (py.stopValue (.error shown))) next
    rw [if_pos stops] at sent
    rw [result_marshals] at shape
    rw [sent,valued]
    constructor
    · intro bundled _
      split at shape
      · subst shape
        obtain ⟨u,same,_⟩ := bundled
        cases same
      · rename_i unfit
        simpa using unfit
    · intro unfit
      rw [if_neg (by simp [unfit stops])] at shape
      obtain ⟨s,rfl⟩ := shape
      exact ⟨_,_,rfl,rfl⟩
  · rw [if_neg stops] at sent
    refine iff_of_true ?_ fun same => absurd same stops
    rcases sent with none_ | ⟨s,some_⟩
    · rw [none_]
      trivial
    · rw [some_]
      exact ⟨_,_,rfl,rfl⟩

-- A call whose parameters do not fit is a TypeError either way.
theorem unfitting_sent (async : py.iscoroutinefunction f = true) (registered : app.funcs.lookup entry.methodName = some f)
    (refuses : ∀ w, py.call f entry.params w = (.error (.error (typeError message)),w)) (w : World) :
    single py view app entry w = responsePayload byName app.allow_none (.error (.raised (.error (typeError message))) w) := by
  have awaits : callHandler py f entry.params w = .error (.raised (.error (typeError message))) w := by
    simp only [callHandler,async,if_true,awaitCall]
    rw [bind_run]
    simp only [attempt,refuses]
  simp only [single,viewed,asyncDispatch_registered py registered,awaits]
  rfl

-- The separate request for an entry, and the item for it in the bundle.
theorem entry_steady (lazy : AsyncDefs py view) (registered : app.funcs.lookup entry.methodName = some f) (w final : World)
    (unsuspended : ¬ entry.Suspends py view app.toRegistry) :
    (∃ item, entryResult py view app.toRegistry entry w = .ok item (py.call f entry.params w).2 ∧
      (item final).marshals app.allow_none = true ∧ Bundled app.allow_none (single py view app entry w) (item final)) ↔
      Steady py view app.allow_none final (py.call f entry.params w) := by
  have struct_ : ∀ s, (faultStruct (.int 1) (.str s)).marshals app.allow_none = true := fun s =>
    (fault_struct_marshals _ _).trans (fault_marshals app.allow_none 1 s (by decide))
  rw [entryResult_run py view registered]
  cases async : py.iscoroutinefunction f with
  | true =>
    rcases lazy f entry.params async with suspends | ⟨message,refuses⟩
    · exact absurd ⟨f,registered,async,suspends⟩ unsuspended
    · rw [unfitting_sent async registered refuses,refuses]
      refine iff_of_true ⟨_,rfl,struct_ _,?_⟩ (fun stops => by cases stops)
      exact ⟨_,_,rfl,rfl⟩
  | false =>
    rw [single_run async registered]
    rcases py.call f entry.params w with ⟨result,next⟩
    cases result with
    | ok result =>
      simp only [EStateM.Result.ok.injEq,and_true,exists_eq_left']
      exact value_steady view app.allow_none result next final
    | error exc =>
      cases exc with
      | fault faultCode faultString =>
        simp only [EStateM.Result.ok.injEq,and_true,exists_eq_left']
        exact fault_steady py view app.allow_none faultCode faultString next final
      | error shown =>
        simp only [EStateM.Result.ok.injEq,and_true,exists_eq_left',struct_,true_and]
        exact shown_steady py view app.allow_none shown _ next final
      | mute type raised =>
        refine iff_of_false ?_ id
        rintro ⟨item,same,_⟩
        cases same

theorem single_after (lazy : AsyncDefs py view) (registered : app.funcs.lookup entry.methodName = some f)
    (unsuspended : ¬ entry.Suspends py view app.toRegistry) (w : World) :
    after (asyncDispatch py app.toRegistry entry.methodName entry.params w) = (py.call f entry.params w).2 := by
  rw [asyncDispatch_registered py registered]
  cases async : py.iscoroutinefunction f with
  | true =>
    rcases lazy f entry.params async with suspends | ⟨message,refuses⟩
    · exact absurd ⟨f,registered,async,suspends⟩ unsuspended
    · simp only [callHandler,async,if_true,awaitCall]
      rw [bind_run]
      simp only [attempt,refuses]
      rfl
  | false =>
    have body := coroutine_after (py.awaitFuture (py.call f entry.params)) w
    rw [callHandler_sync py async]
    refine body.trans ((awaitFuture_after py _ w).trans ?_)
    simp only [attempt]
    rcases py.call f entry.params w with ⟨result,next⟩
    cases result <;> rfl

theorem registered_cons {rest : List (Entry Obj)}
    (registered : ∀ e ∈ entry :: rest, (app.funcs.lookup e.methodName).isSome = true) :
    ∃ f, app.funcs.lookup entry.methodName = some f ∧ ∀ e ∈ rest, (app.funcs.lookup e.methodName).isSome = true := by
  obtain ⟨f,found⟩ := Option.isSome_iff_exists.mp (registered entry List.mem_cons_self)
  exact ⟨f,found,fun e member => registered e (List.mem_cons_of_mem _ member)⟩

theorem multicallResults_cons {rest : List (Entry Obj)}
    (ran : multicallResults py view app.toRegistry (entry :: rest) w = .ok results next) :
    ∃ item middle items, entryResult py view app.toRegistry entry w = .ok item middle ∧
      multicallResults py view app.toRegistry rest middle = .ok items next ∧ results = item :: items := by
  simp only [multicallResults] at ran
  rw [bind_run] at ran
  cases first : entryResult py view app.toRegistry entry w with
  | error failure middle => simp only [first] at ran; cases ran
  | ok item middle =>
    simp only [first] at ran
    rw [bind_run] at ran
    cases others : multicallResults py view app.toRegistry rest middle with
    | error failure last => simp only [others] at ran; cases ran
    | ok items last =>
      simp only [others] at ran
      cases ran
      exact ⟨item,middle,items,rfl,others,rfl⟩

theorem entry_moved (registered : app.funcs.lookup entry.methodName = some f)
    (ran : entryResult py view app.toRegistry entry w = .ok item middle) : middle = (py.call f entry.params w).2 := by
  rw [entryResult_run py view registered] at ran
  split at ran <;> cases ran <;> simp [*]

-- The loop leaves the world that the last call leaves.
theorem results_world (entries : List (Entry Obj)) (w : World)
    (registered : ∀ e ∈ entries, (app.funcs.lookup e.methodName).isSome = true)
    (ran : multicallResults py view app.toRegistry entries w = .ok results next) :
    next = lastWorld (handlerCalls py app.toRegistry entries w) w := by
  induction entries generalizing w results with
  | nil => cases ran; rfl
  | cons e rest ih =>
    obtain ⟨f,found,others⟩ := registered_cons registered
    obtain ⟨item,middle,items,first,later,rfl⟩ := multicallResults_cons ran
    have moved := entry_moved found first
    subst moved
    simp only [handlerCalls,found,lastWorld]
    exact ih _ others later

-- Over the entries one by one, against any world that the items are read in.
theorem calls_steady (lazy : AsyncDefs py view) (final : World) (entries : List (Entry Obj)) (w : World)
    (registered : ∀ e ∈ entries, (app.funcs.lookup e.methodName).isSome = true)
    (unsuspended : ∀ e ∈ entries, ¬ e.Suspends py view app.toRegistry) :
    (∃ results, multicallResults py view app.toRegistry entries w =
        .ok results (lastWorld (handlerCalls py app.toRegistry entries w) w) ∧
      (∀ item ∈ results, (item final).marshals app.allow_none = true) ∧
      List.Forall₂ (Bundled app.allow_none) (singles py view app entries w) (results.map fun item => item final)) ↔
      ∀ ended ∈ handlerCalls py app.toRegistry entries w, Steady py view app.allow_none final ended := by
  induction entries generalizing w with
  | nil => exact iff_of_true ⟨[],rfl,by simp,.nil⟩ (by simp [handlerCalls])
  | cons entry rest ih =>
    obtain ⟨f,found,others⟩ := registered_cons registered
    have here := unsuspended entry List.mem_cons_self
    have first := entry_steady lazy found w final here
    have next := ih (py.call f entry.params w).2 others fun e member => unsuspended e (List.mem_cons_of_mem _ member)
    have calls : handlerCalls py app.toRegistry (entry :: rest) w =
        py.call f entry.params w :: handlerCalls py app.toRegistry rest (py.call f entry.params w).2 := by
      simp only [handlerCalls,found]
    rw [calls,List.forall_mem_cons,← first,← next]
    simp only [singles,single_after lazy found here,lastWorld]
    constructor
    · rintro ⟨results,ran,marshals,pairs⟩
      obtain ⟨item,middle,items,step,later,rfl⟩ := multicallResults_cons ran
      have moved := entry_moved found step
      subst moved
      rw [List.forall_mem_cons] at marshals
      rw [List.map_cons,List.forall₂_cons] at pairs
      exact ⟨⟨item,step,marshals.1,pairs.1⟩,items,later,marshals.2,pairs.2⟩
    · rintro ⟨⟨item,step,fits,bundled⟩,results,ran,marshals,pairs⟩
      refine ⟨item :: results,?_,?_,?_⟩
      · simp only [multicallResults]
        rw [bind_run,step]
        simp only
        rw [bind_run,ran]
        rfl
      · exact List.forall_mem_cons.mpr ⟨fits,marshals⟩
      · rw [List.map_cons,List.forall₂_cons]
        exact ⟨bundled,pairs⟩

theorem suspended_result (suspends : entry.Suspends py view app.toRegistry) (w : World) :
    ∃ obj, entryResult py view app.toRegistry entry w = .ok (fun later => .array [view later obj]) w ∧ Coroutine view obj := by
  obtain ⟨f,found,_,called⟩ := suspends
  obtain ⟨obj,ran,coroutine⟩ := called w
  refine ⟨obj,?_,coroutine⟩
  rw [entryResult_run py view found,ran]

theorem suspended_member (allow_none : Bool) {entries : List (Entry Obj)} (member : entry ∈ entries)
    (suspends : entry.Suspends py view app.toRegistry) (ran : multicallResults py view app.toRegistry entries w = .ok results next)
    (final : World) : ∃ item ∈ results, (item final).marshals allow_none = false := by
  induction entries generalizing w results with
  | nil => cases member
  | cons e rest ih =>
    obtain ⟨item,middle,items,first,others,rfl⟩ := multicallResults_cons ran
    rcases List.mem_cons.mp member with rfl | inside
    · obtain ⟨obj,called,coroutine⟩ := suspended_result suspends w
      rw [called] at first
      cases first
      obtain ⟨id,plain⟩ := coroutine final
      refine ⟨_,List.mem_cons_self,?_⟩
      simp only [plain,array_marshals]
      rfl
    · obtain ⟨found,kept,refused⟩ := ih inside others
      exact ⟨found,List.mem_cons_of_mem _ kept,refused⟩

theorem carries_marshals {app : XMLRPCASGIApp py.isNone} (carries : Carries app response payload) :
    payload.marshals app.allow_none = true := by
  obtain ⟨data,made,_⟩ := dumps_data carries
  rw [Payload.marshals,made]
  rfl

theorem multicall_dispatched {entries : List (Entry Obj)} (method : MulticallBound py view app.toRegistry entries bound calls w)
    (ran : multicallResults py view app.toRegistry entries w = .ok results next) :
    viewed view (asyncDispatch py app.toRegistry multicallName [calls]) w =
      .ok (.array (results.map fun item => item next)) next := by
  have runs := method.runs
  rw [ran] at runs
  obtain ⟨made,called,holds⟩ := runs
  simp only [viewed,asyncDispatch_registered py method.registered,callHandler_sync py method.plain,Python.awaitFuture,called,asLeft,
    holds]

theorem multicall_agrees {entries : List (Entry Obj)} (lazy : AsyncDefs py view)
    (method : MulticallBound py view app.toRegistry entries bound calls w)
    (registered : ∀ e ∈ entries, (app.funcs.lookup e.methodName).isSome = true) :
    Bundles py view app entries calls w ↔ (∀ e ∈ entries, ¬ e.Suspends py view app.toRegistry) ∧
      ∀ ended ∈ handlerCalls py app.toRegistry entries w,
        Steady py view app.allow_none (lastWorld (handlerCalls py app.toRegistry entries w) w) ended := by
  constructor
  · rintro ⟨results,response,next,ran,_,carries,pairs⟩
    have each := items_marshal.mp (carries_marshals carries)
    have unsuspended : ∀ e ∈ entries, ¬ e.Suspends py view app.toRegistry := by
      intro e member suspends
      -- One coroutine keeps the whole array from being marshalled.
      obtain ⟨item,inside,refused⟩ := suspended_member app.allow_none member suspends ran next
      simp [each (item next) (List.mem_map_of_mem inside)] at refused
    refine ⟨unsuspended,(calls_steady lazy _ entries w registered unsuspended).mp ?_⟩
    obtain rfl := results_world entries w registered ran
    exact ⟨results,ran,fun item inside => each _ (List.mem_map_of_mem inside),pairs⟩
  · rintro ⟨unsuspended,steady⟩
    obtain ⟨results,ran,each,pairs⟩ := (calls_steady lazy _ entries w registered unsuspended).mpr steady
    have marshals : (Payload.result (.array (results.map fun item =>
        item (lastWorld (handlerCalls py app.toRegistry entries w) w)))).marshals app.allow_none = true := by
      rw [items_marshal,List.forall_mem_map]
      exact each
    have dispatched := multicall_dispatched method ran
    obtain ⟨response,dumped⟩ := dumps_ok app.encoding marshals
    refine ⟨results,response,_,ran,?_,dumped,pairs⟩
    rw [responseBy_run,dispatched]
    simp only [dumped]

-- 1 counts its calls, 2 is an `async def`, 3 the bound system.multicall, 4 raises.
def counting (bundle : Nat → Except Exn Value × Nat) : Python Value Exn Nat :=
  {isNone := fun v => match v with | .none => true | _ => false,
   iscoroutinefunction := fun v => match v with | .plain 2 _ => true | _ => false,
   isAttributeError := fun _ => false,str := .str,tuple := .array,nameOf := fun _ => none,
   stopValue := fun _ => .none,rebuiltStr := fun _ => [],
   getattr := fun v _ w => (.ok v,w),
   call := fun f _ w => match f with
     | .plain 1 _ => (.ok (.int w),w + 1)
     | .plain 2 _ => (.ok (.plain 9 coroutineType),w)
     | .plain 3 _ => bundle w
     | _ => (.error (.fault (.int 7) (.str (text "no"))),w),
   await := fun _ w => (.ok (.int 5),w)}

def counted (bundle : Nat → Except Exn Value × Nat) : XMLRPCASGIApp (counting bundle).isNone :=
  {((((Registry.init.update (text "count") (.plain 1 []) rfl).update (text "later") (.plain 2 []) rfl).update
      multicallName (.plain 3 []) rfl).update (text "refuse") (.plain 4 []) rfl) with
    allow_none := false,encoding := text "utf-8",use_builtin_types := false}

-- Values that nothing can change.
def itself : View Value Nat := fun _ v => v

-- One list that every call extends: the second call changes the item of the first.
example (bundle : Nat → Except Exn Value × Nat) :
    ¬ Steady (counting bundle) (fun w _ => .array (List.replicate w (.int 0))) false 2 (.ok (.plain 5 []),1) := by
  rintro ⟨_,same⟩
  cases same

def threeEntries : List (Entry Value) := [⟨text "count",[]⟩,⟨text "refuse",[]⟩,⟨text "count",[]⟩]

def threeResults (w : Nat) : Except Exn Value × Nat :=
  (.ok (.array [.array [.int w],faultStruct (.int 7) (.str (text "no")),.array [.int (w + 1 : Nat)]]),w + 2)

theorem counting_lazy (bundle : Nat → Except Exn Value × Nat) : AsyncDefs (counting bundle) itself := by
  intro f args async
  refine .inl fun w => ⟨.plain 9 coroutineType,?_,fun _ => ⟨9,rfl⟩⟩
  simp only [counting] at async ⊢
  split at async
  · rfl
  · cases async

theorem multicall_agrees_three :
    Bundles (counting threeResults) itself (counted threeResults) threeEntries (.array (threeEntries.map (Entry.value id))) 0 := by
  have method : MulticallBound (counting threeResults) itself (counted threeResults).toRegistry threeEntries (.plain 3 [])
      (.array (threeEntries.map (Entry.value id))) 0 :=
    ⟨rfl,rfl,rfl,_,rfl,fun _ => rfl⟩
  have registered : ∀ e ∈ threeEntries, ((counted threeResults).funcs.lookup e.methodName).isSome = true := by
    simp only [threeEntries,List.forall_mem_cons,List.not_mem_nil,false_implies,implies_true,and_true]
    exact ⟨rfl,rfl,rfl⟩
  refine (multicall_agrees (counting_lazy _) method registered).mpr ⟨?_,?_⟩
  · simp only [threeEntries,List.forall_mem_cons,List.not_mem_nil,false_implies,implies_true,and_true]
    refine ⟨?_,?_,?_⟩ <;> rintro ⟨f,found,async,_⟩ <;> cases found <;> cases async
  · have ended : handlerCalls (counting threeResults) (counted threeResults).toRegistry threeEntries 0 =
        [(.ok (.int 0),1),(.error (.fault (.int 7) (.str (text "no"))),1),(.ok (.int 1),2)] := rfl
    rw [ended]
    simp only [List.forall_mem_cons,List.not_mem_nil,false_implies,implies_true,and_true]
    exact ⟨⟨rfl,rfl⟩,⟨rfl,fun _ => rfl⟩,rfl,rfl⟩

def mixedEntries : List (Entry Value) := [⟨text "count",[]⟩,⟨text "later",[]⟩]

def mixedResults (w : Nat) : Except Exn Value × Nat :=
  (.ok (.array [.array [.int w],.array [.plain 9 coroutineType]]),w + 1)

-- An `async def` in the list: separate requests give 0 and 5, the bundle is one fault.
theorem multicall_spoiled :
    MulticallBound (counting mixedResults) itself (counted mixedResults).toRegistry mixedEntries (.plain 3 [])
      (.array (mixedEntries.map (Entry.value id))) 0 ∧
    singles (counting mixedResults) itself (counted mixedResults) mixedEntries 0 =
      [some (.result (.int 0)),some (.result (.int 5))] ∧
    ¬ Bundles (counting mixedResults) itself (counted mixedResults) mixedEntries
      (.array (mixedEntries.map (Entry.value id))) 0 := by
  refine ⟨⟨rfl,rfl,rfl,_,rfl,fun _ => rfl⟩,rfl,?_⟩
  rintro ⟨results,response,next,ran,_,carries,_⟩
  cases ran
  have refused : (Payload.result (.array [.array [.int 0],.array [.plain 9 coroutineType]])).marshals false = false := rfl
  exact Bool.false_ne_true (refused.symm.trans (carries_marshals carries))

end XmlrpcExtended.Dispatch
