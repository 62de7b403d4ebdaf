import XmlrpcExtended.ResponseCharset
import XmlrpcExtended.XmlReferences

namespace XmlrpcExtended.Dispatch
open Xml Charset

variable {World : Type} {isNone : Value → Bool}

theorem header_ascii {encoding : Text} (declared : encoding = text "utf-8" ∨ isEncodingName encoding = true)
    (member : c ∈ xmlheader encoding) : c < 128 := by
  have fixed : ∀ c ∈ text "<?xml version='1.0'?>\n" ++ text "<?xml version='1.0' encoding='" ++ text "'?>\n", c < 128 := by
    decide
  unfold xmlheader at member
  split at member
  · exact fixed c (by simp [member])
  · rename_i other
    simp only [List.mem_append] at member
    rcases member with (front | inside) | back
    · exact fixed c (by simp [front])
    · have named := declared.resolve_left other
      unfold isEncodingName at named
      have letter := List.all_eq_true.mp (Bool.and_eq_true_iff.mp named).1 c inside
      simp only [isLetter,isDecimal,Bool.or_eq_true,Bool.and_eq_true,decide_eq_true_eq,beq_iff_eq] at letter
      omega
    · exact fixed c (by simp [back])

theorem loads_replaced (cs : Charset) {encoding : Text} {faultCode : Int}
    (declared : encoding = text "utf-8" ∨ isEncodingName encoding = true) (small : faultCode.natAbs < 10 ^ 10)
    (faultString : Text) :
    loads (cs.replaced (faultDocument encoding faultCode faultString)) = loads (faultDocument encoding faultCode faultString) := by
  have plain : ∀ t : Text, (∀ c ∈ t, c < 128) → cs.replaced t = t := fun t ascii =>
    replaced_same fun c member => ascii_had cs (ascii c member)
  have frame : (∀ c ∈ faultHead, c < 128) ∧ (∀ c ∈ faultMiddle, c < 128) ∧ ∀ c ∈ faultTail, c < 128 := by decide +kernel
  have shown : ∀ c ∈ text (toString faultCode), c < 128 := fun c member => by
    have bounds := shown_bounds member
    omega
  have parts : cs.replaced (faultDocument encoding faultCode faultString) = xmlheader encoding ++ (faultHead ++
      (text (toString faultCode) ++ (faultMiddle ++ (cs.replaced (escape faultString) ++ faultTail)))) := by
    simp only [faultDocument,faultBody,replaced_append,plain _ fun c => header_ascii declared,plain _ frame.1,plain _ frame.2.1,
      plain _ frame.2.2,plain _ shown]
  have walked : ∀ string, (Reader.init Unmarshaller.init).run Unmarshaller.handler (xmlheader encoding ++ (faultHead ++
      (text (toString faultCode) ++ (faultMiddle ++ (string ++ faultTail))))) =
      (Reader.run Unmarshaller.handler ⟨.content,text "string" :: inFault,true,true,inString faultCode []⟩ string).bind
        fun r => r.run Unmarshaller.handler faultTail := by
    intro string
    rw [run_append,header_read declared,Option.bind_some,run_append,faultHead_read,Option.bind_some,run_append,code_read,
      Option.bind_some,run_append,faultMiddle_read (pythonInt_toString faultCode small),Option.bind_some,run_append]
  have same : Reader.run Unmarshaller.handler ⟨.content,text "string" :: inFault,true,true,inString faultCode []⟩
        (cs.replaced (escape faultString)) =
      Reader.run Unmarshaller.handler ⟨.content,text "string" :: inFault,true,true,inString faultCode []⟩ (escape faultString) :=
    run_replaced cs Unmarshaller.handler false true (text "string") inFault (inString faultCode []) faultString
  have written : Unclosed (cs.replaced (escape faultString)) := replaced_unclosed cs faultString
  have plainly : Unclosed (escape faultString) := escaped_unclosed faultString
  rw [loads,loads,parts,read_unclosed (fault_unclosed declared faultCode written),walked,same,← walked]
  exact congrArg (·.bind Unmarshaller.close)
    (read_unclosed (fault_unclosed declared faultCode plainly) Unmarshaller.handler Unmarshaller.init).symm

-- `f"{type(exc).__name__}: {exc}"`, of an exception that is no Fault.
def Thrown.described : Thrown Value → Option Text
  | .error shown => some (shown.type.name ++ text ": " ++ shown.str)
  | _ => none

-- The response decodes to a document that is read as the fault for the exception.
def ReadsBack (py : Python Value Exn World) (codec : Codec) (app : XMLRPCASGIApp isNone) (data : Bytes) (exc : Exn)
    (w : World) : Prop :=
  ∃ response next document faultString, asyncMarshaledDispatch py codec app data w = .ok response next ∧
    utf8.decode response = some document ∧ exc.described = some faultString ∧
    loads document = some (.fault (.int 1) (.str faultString))

-- The name that an XML parser knows UTF-8 by, in any case.
def isUtf8 (encoding : Text) : Bool := encoding.map lower == text "utf-8"

theorem utf8_declared {encoding : Text} (declared : isUtf8 encoding = true) :
    encoding = text "utf-8" ∨ isEncodingName encoding = true := by
  have same : encoding.map lower = text "utf-8" := beq_iff_eq.mp declared
  have letters : ∀ c, lower c < 128 → lower c = c ∨ isLetter c = true := by
    intro c small
    unfold lower at small ⊢
    split at small
    · exact .inr (by simp only [isLetter,Bool.or_eq_true,Bool.and_eq_true,decide_eq_true_eq]; omega)
    · exact .inl (if_neg ‹_›)
  have fixed : ∀ c ∈ text "utf-8", c < 128 ∧ (isLetter c || isDecimal c || c == 95 || c == 46 || c == 45) = true := by decide
  refine .inr (Bool.and_eq_true_iff.mpr ⟨List.all_eq_true.mpr fun c member => ?_,?_⟩)
  · obtain ⟨small,known⟩ := fixed (lower c) (by rw [← same]; exact List.mem_map_of_mem member)
    rcases letters c small with kept | letter
    · rwa [kept] at known
    · simp [letter]
  · cases encoding with
    | nil => cases same
    | cons c rest =>
      have first : lower c = 117 := (List.cons.inj same).1
      rcases letters c (by rw [first]; decide) with kept | letter
      · obtain rfl : c = 117 := kept.symm.trans first
        rfl
      · simp [letter]

-- What reaches the except clauses of an exception that the handler raises, or the search for it.
def Python.relayed (py : Python Value Exn World) (app : Registry isNone) (method : Text) (params : List Value) (w : World)
    (exc : Exn) : Option Exn :=
  match select py app method params w with
  | .ok (some (f,_)) _ =>
    if py.iscoroutinefunction f then some (leaving exc)
    else match py.handed exc with
      | .raised kept => some kept
      | _ => none
  | _ => some (leaving exc)

theorem relayed_raised {py : Python Value Exn World} {app : Registry isNone}
    (raised : handlerOutcome py app method params w = .error (.raised exc) next) :
    match py.relayed app method params w exc with
    | some kept => asyncDispatch py app method params w = .error (.raised kept) next
    | none => (py.handed exc = .pending ∨ py.handed exc = .returned (py.stopValue exc)) ∧
      asyncDispatch py app method params w = asLeft ((py.handed exc).run next) := by
  rw [asyncDispatch_selects,coroutine,bind_run]
  rw [handlerOutcome,bind_run] at raised
  unfold Python.relayed
  cases found : select py app method params w with
  | error failure later =>
    simp only [found] at raised
    cases raised
    rfl
  | ok chosen later =>
    simp only [found] at raised
    cases chosen with
    | none => cases raised
    | some call =>
      obtain ⟨f,args⟩ := call
      cases async : py.iscoroutinefunction f with
      | true =>
        simp only [async,if_true] at raised
        simp only [callHandler,async,if_true,raised]
        rfl
      | false =>
        simp only [async,Bool.false_eq_true,if_false,attempt] at raised
        simp only [callHandler_sync py async,Python.awaitFuture,async,Bool.false_eq_true,if_false]
        rcases called : py.call f args later with ⟨result,last⟩
        rw [called] at raised
        cases result with
        | ok v => cases raised
        | error thrown =>
          cases raised
          cases handed : py.handed exc with
          | raised kept =>
            simp only [handed,Handed.run,asLeft,Failure.leaving,handed_left py handed]
          | returned obj =>
            have value : obj = py.stopValue exc := by
              unfold Python.handed at handed
              split at handed <;> cases handed
              rfl
            exact ⟨.inr (by rw [value]),by simp only [handed]⟩
          | pending => exact ⟨.inl rfl,by simp only [handed]⟩

-- The exceptions that have a text are those that are no Fault, before and after.
theorem relayed_error {py : Python Value Exn World} {app : Registry isNone} {shown : ShownError}
    (relayed : py.relayed app method params w (.error shown) = some kept) : ∃ other, kept = .error other := by
  have left : ∃ other, leaving (.error shown : Exn) = .error other := by
    unfold leaving
    split
    · exact ⟨_,rfl⟩
    · exact ⟨_,rfl⟩
  have given : ∀ kept, py.handed (.error shown) = .raised kept → ∃ other, kept = .error other := by
    intro kept handed
    unfold Python.handed at handed
    split at handed <;> cases handed <;> exact ⟨_,rfl⟩
  unfold Python.relayed at relayed
  split at relayed
  · split at relayed
    · cases relayed
      exact left
    · split at relayed <;> cases relayed
      exact given _ ‹_›
  · cases relayed
    exact left

theorem dispatched_text {py : Python Value Exn World} {codec : Codec} {app : XMLRPCASGIApp isNone} {data : Bytes}
    (parsed : codec.loads app.use_builtin_types data = .ok (params,method)) (w : World) :
    responseText py codec app data w =
      responseBy byName app (asyncDispatch py app.toRegistry (method.getD (text "None")) params) w := by
  simp only [responseText,parsed,callResponse_by]

theorem words_answered {py : Python Value Exn World} {codec : Codec} {app : XMLRPCASGIApp isNone} {data : Bytes} {shown : ShownError}
    (encodes : codec.encode app.encoding = some utf8.bytes) (parsed : codec.loads app.use_builtin_types data = .ok (params,method))
    (raised : asyncDispatch py app.toRegistry (method.getD (text "None")) params w = .error (.raised (.error shown)) next)
    (caught : shown.type.kind ≠ .baseException) : asyncMarshaledDispatch py codec app data w =
      .ok (utf8.bytes (faultDocument app.encoding 1 (shown.type.name ++ text ": " ++ shown.str))) next := by
  have dumped := dumps_fault app.allow_none app.encoding 1 (shown.type.name ++ text ": " ++ shown.str)
  rw [if_neg (by decide)] at dumped
  refine (dispatch_returns py codec app data w).mpr ⟨_,faultDocument app.encoding 1 (shown.type.name ++ text ": " ++ shown.str),
    encodes,?_,rfl⟩
  have seen : byName.catches (Thrown.error shown : Exn).kind = true := byName.ordinary _ caught
  rw [dispatched_text parsed,responseBy_run,raised]
  simp only [exceptClauses,Failure.exc,faultResponseBy,seen,Bool.true_eq_false,if_false,ExceptClauses.described]
  change (raising (dumps app.allow_none app.encoding (.fault (.int 1) (.str (shown.type.name ++ text ": " ++ shown.str)))) :
    Act Exn World Text) next = _
  rw [dumped]
  rfl

-- The fault for `kept` is read as the one that is due for `exc`.
def Legible (exc kept : Exn) : Prop :=
  ∃ words, kept.kind ≠ .baseException ∧ kept.described = some words ∧ words.all isChar = true ∧
    exc.described = some (newlines false words)

theorem legible_same {exc : Exn} : Legible exc exc ↔ exc.kind ≠ .baseException ∧
    ∃ words, exc.described = some words ∧ ∀ c ∈ words, isChar c = true ∧ c ≠ 13 := by
  constructor
  · rintro ⟨words,caught,described,valid,same⟩
    have kept : newlines false words = words := Option.some.inj (same.symm.trans described)
    refine ⟨caught,words,described,fun c member => ⟨List.all_eq_true.mp valid c member,?_⟩⟩
    rintro rfl
    exact newlines_same.mp kept member
  · rintro ⟨caught,words,described,valid⟩
    refine ⟨words,caught,described,List.all_eq_true.mpr fun c member => (valid c member).1,?_⟩
    rw [described,newlines_same.mpr fun member => (valid 13 member).2 rfl]

theorem words_read_back {py : Python Value Exn World} {codec : Codec} {app : XMLRPCASGIApp isNone} {data : Bytes} {exc : Exn}
    {shown : ShownError} (declared : isUtf8 app.encoding = true) (encodes : codec.encode app.encoding = some utf8.bytes)
    (parsed : codec.loads app.use_builtin_types data = .ok (params,method))
    (raised : asyncDispatch py app.toRegistry (method.getD (text "None")) params w = .error (.raised (.error shown)) next) :
    ReadsBack py codec app data exc w ↔ Legible exc (.error shown) := by
  by_cases base : shown.type.kind = .baseException
  · refine iff_of_false ?_ fun legible => legible.elim fun _ parts => parts.1 base
    rintro ⟨_,_,_,_,ran,_⟩
    obtain ⟨_,_,_,made,_⟩ := (dispatch_returns _ _ _ _ _).mp ran
    have uncaught : byName.catches (Thrown.error shown : Exn).kind = false := by simp [byName,Thrown.kind,base]
    rw [dispatched_text parsed,responseBy_run,raised] at made
    simp only [exceptClauses,Failure.exc,faultResponseBy,uncaught,if_true] at made
    cases made
  · have answered := words_answered encodes parsed raised base
    have small : (1 : Int).natAbs < 10 ^ 10 := by decide
    have reads := loads_fault (utf8_declared declared) small (shown.type.name ++ text ": " ++ shown.str)
    rw [← loads_replaced utf8 (utf8_declared declared) small] at reads
    constructor
    · rintro ⟨response,later,document,faultString,ran,decoded,described,loaded⟩
      cases answered.symm.trans ran
      cases (bytes_decoded utf8 _).symm.trans decoded
      rw [reads] at loaded
      split at loaded
      · cases loaded
        exact ⟨_,base,rfl,‹_›,described⟩
      · cases loaded
    · rintro ⟨words,_,same,valid,described⟩
      cases same
      exact ⟨_,next,_,_,answered,bytes_decoded utf8 _,described,by rw [reads,if_pos valid]⟩

-- Of a StopIteration of a subclass it is the value that is answered, and the other direction left open.
theorem fault_reads_back (py : Python Value Exn World) (codec : Codec) (app : XMLRPCASGIApp isNone) (data : Bytes)
    (w : World) (params : List Value) (method : Option Text) (exc : Exn) (next : World)
    (declared : isUtf8 app.encoding = true) (encodes : codec.encode app.encoding = some utf8.bytes)
    (parsed : codec.loads app.use_builtin_types data = .ok (params,method))
    (raised : handlerOutcome py app.toRegistry (method.getD (text "None")) params w = .error (.raised exc) next) :
    ((∃ kept, py.relayed app.toRegistry (method.getD (text "None")) params w exc = some kept ∧ Legible exc kept) →
      ReadsBack py codec app data exc w) ∧
    (exc.kind ≠ .stopIterationSubclass → ReadsBack py codec app data exc w →
      ∃ kept, py.relayed app.toRegistry (method.getD (text "None")) params w exc = some kept ∧ Legible exc kept) := by
  have outcome := relayed_raised raised
  constructor
  · rintro ⟨kept,relayed,legible⟩
    rw [relayed] at outcome
    have ⟨_,_,described,_⟩ := legible
    cases kept with
    | fault faultCode faultString => cases described
    | error shown => exact (words_read_back declared encodes parsed outcome).mpr legible
    | mute type raised => cases described
  · intro unvalued readable
    have ⟨_,_,_,_,ran,_,described,_⟩ := readable
    cases exc with
    | fault faultCode faultString => cases described
    | mute type raised => cases described
    | error shown =>
      cases relayed : py.relayed app.toRegistry (method.getD (text "None")) params w (.error shown) with
      | some kept =>
        rw [relayed] at outcome
        obtain ⟨other,rfl⟩ := relayed_error relayed
        exact ⟨_,rfl,(words_read_back declared encodes parsed outcome).mp readable⟩
      | none =>
        rw [relayed] at outcome
        obtain ⟨pending | returned,dispatched⟩ := outcome
        · -- Nothing is answered.
          obtain ⟨_,_,_,made,_⟩ := (dispatch_returns _ _ _ _ _).mp ran
          rw [dispatched_text parsed,responseBy_run,dispatched,pending] at made
          cases made
        · have kind : (Thrown.error shown : Exn).kind = .stopIterationSubclass := by
            unfold Python.handed at returned
            split at returned <;> first | assumption | cases returned
          exact absurd kind unvalued

def valueError (message : Text) : ShownError := ⟨.builtin "ValueError",message⟩

-- Its functions raise a ValueError.
def failing (message : Text) : Python Value Exn Unit :=
  {faulting 0 with call := fun _ _ w => (.error (.error (valueError message)),w)}

theorem fault_reads_back_plain : ReadsBack (failing (text "bad value")) Http.charsetCodec (oneFunction (failing (text "bad value")))
    Http.callDocument (.error (valueError (text "bad value"))) () :=
  (fault_reads_back (failing (text "bad value")) Http.charsetCodec (oneFunction (failing (text "bad value"))) Http.callDocument ()
    [] (some (text "f")) (.error (valueError (text "bad value"))) () rfl rfl (Http.callDocument_loads false) rfl).1
    ⟨_,rfl,legible_same.mpr ⟨by decide,_,rfl,by decide⟩⟩

-- The message is a null character.
theorem null_unread : ¬ ReadsBack (failing [0]) Http.charsetCodec (oneFunction (failing [0])) Http.callDocument
    (.error (valueError [0])) () := by
  intro readable
  have raised : asyncDispatch (failing [0]) (oneFunction (failing [0])).toRegistry (text "f") [] () =
      .error (.raised (.error (valueError [0]))) () := rfl
  have legible := (words_read_back rfl rfl (Http.callDocument_loads false) raised).mp readable
  obtain ⟨_,words,described,valid⟩ := legible_same.mp legible
  cases described
  exact absurd (valid 0 (by decide)).1 (by decide)

end XmlrpcExtended.Dispatch
