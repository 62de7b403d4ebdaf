import XmlrpcExtended.GateHeaders
import XmlrpcExtended.HandlerClasses

namespace XmlrpcExtended.Handler
open Python
variable {F : Type}

-- What functions that are not the gate's or the stdlib's do under these names.
structure Functions (F : Type) where
  gunzip : Gunzip
  do_POST : F → Request → Answer
  is_rpc_path_valid : F → Request → Bool
  decode_request_content : F → Request → List UInt8 → Except Answer (List UInt8)

-- The two attributes as the gate and the path check read them; `none` where they are no number and no tuple.
def handlerOf (classes : Classes F) (c : Nat) : Option HandlerClass :=
  match resolve classes c (text "max_request_size"),resolve classes c (text "rpc_paths") with
  | some (_,.integer max_request_size),some (_,.strings rpc_paths) => some ⟨max_request_size,rpc_paths⟩
  | _,_ => none

def attr (classes : Classes F) (c : Nat) (name : Text) : Option (Attribute F) := (resolve classes c name).map Prod.snd

def superAttr (classes : Classes F) (c owner : Nat) (name : Text) : Option (Attribute F) :=
  (superResolve classes c owner name).map Prod.snd

def Functions.decode (code : Functions F) (classes : Classes F) (c : Nat) (r : Request) (data : List UInt8) :
    Except Answer (List UInt8) :=
  match attr classes c (text "decode_request_content") with
  | some .simpleDecodeRequestContent => r.decodeContent code.gunzip data
  | some (.object f) => code.decode_request_content f r data
  | _ => .error .internal

def Functions.simplePost (code : Functions F) (classes : Classes F) (c : Nat) (h : HandlerClass) (r : Request) : Answer :=
  match attr classes c (text "is_rpc_path_valid") with
  | some .simpleIsRpcPathValid => r.post (h.isRpcPathValid r.path) (code.decode classes c r)
  | some (.object f) => r.post (code.is_rpc_path_valid f r) (code.decode classes c r)
  | _ => .internal

def Functions.call (code : Functions F) (classes : Classes F) (c : Nat) (h : HandlerClass) (r : Request) :
    Option (Attribute F) → Answer
  | some .simpleDoPost => code.simplePost classes c h r
  | some (.object f) => code.do_POST f r
  | _ => .internal

def Verdict.answer : Verdict → Answer → Answer
  | .refused status message,_ => .error status message
  | .forwarded,answer => answer

-- `self.do_POST()` on an instance of the class.
def Functions.doPost (code : Functions F) (classes : Classes F) (limited c : Nat) (r : Request) : Option Answer :=
  (handlerOf classes c).map fun h =>
    match attr classes c (text "do_POST") with
    | some .limitedDoPost =>
      (h.limitedDoPost r).answer (code.call classes c h r (superAttr classes c limited (text "do_POST")))
    | method => code.call classes c h r method

-- The stdlib's class, and a handler of it where no class but the gate and the stdlib's own has the method.
structure Stdlib (classes : Classes F) (simple : Nat) : Prop where
  post : ((classes[simple]?).bind fun k => k.dict.lookup (text "do_POST")) = some .simpleDoPost
  valid : ((classes[simple]?).bind fun k => k.dict.lookup (text "is_rpc_path_valid")) = some .simpleIsRpcPathValid

def Inherits (classes : Classes F) (simple limited handler : Nat) (name : Text) : Prop :=
  ∀ c ∈ mroOf classes handler, c = limited ∨ c ∈ mroOf classes simple ∨ Lacks classes c name

-- The gate forwards the request, its body arrives, and it is decoded.
def Admitted (max_request_size : Int) (decode : List UInt8 → Except Answer (List UInt8)) (r : Request) : Prop :=
  r.chunked = false ∧ ∃ size : Nat, (r.header (text "content-length")).bind pythonInt = some (size : Int) ∧
    (size : Int) ≤ max_request_size ∧ (r.broken = true → size ≤ r.bytes.length) ∧
    ∃ data, content (decode (r.bytes.take size)) = .dispatched data

theorem settle_answer (gunzip : Gunzip) (h : HandlerClass) (r : Request) (verdict : Verdict) :
    h.settle gunzip r verdict = verdict.answer (r.post (h.isRpcPathValid r.path) (r.decodeContent gunzip)) := by
  cases verdict with
  | refused status message => rfl
  | forwarded => exact simpleDoPost_post gunzip h r

theorem answer_dispatched (h : HandlerClass) (r : Request) (valid : Bool) (decode : List UInt8 → Except Answer (List UInt8)) :
    (∃ data, (h.limitedDoPost r).answer (r.post valid decode) = .dispatched data) ↔
      valid = true ∧ Admitted h.max_request_size decode r := by
  constructor
  · rintro ⟨data,handed⟩
    have forwarded : h.limitedDoPost r = .forwarded := by
      cases verdict : h.limitedDoPost r with
      | refused status message =>
        rw [verdict] at handed
        cases handed
      | forwarded => rfl
    rw [forwarded] at handed
    obtain ⟨unchunked,size,declared,fits⟩ := (limitedDoPost_forwarded h r).mp forwarded
    obtain ⟨path,whole,decoded⟩ := (post_dispatched declared valid decode data).mp handed
    exact ⟨path,unchunked,size,declared,fits,whole,data,decoded⟩
  · rintro ⟨path,unchunked,size,declared,fits,whole,data,decoded⟩
    have forwarded := (limitedDoPost_forwarded h r).mpr ⟨unchunked,size,declared,fits⟩
    refine ⟨data,?_⟩
    rw [forwarded]
    exact (post_dispatched declared valid decode data).mpr ⟨path,whole,decoded⟩

section Inherited
variable {classes : Classes F} {simple limited handler : Nat}

theorem stdlib_found {order : List Nat} {name : Text} {value : Attribute F} (ordered : Ordered classes)
    (here : ((classes[simple]?).bind fun k => k.dict.lookup name) = some value) (distinct : order.Nodup)
    (inherited : (mroOf classes simple).Sublist order)
    (others : ∀ c ∈ order, c ∈ mroOf classes simple ∨ Lacks classes c name) :
    found classes order name = some (simple,value) := by
  obtain ⟨k,known,value⟩ := Option.bind_eq_some_iff.mp here
  obtain ⟨rest,own⟩ := List.head?_eq_some_iff.mp (ordered.own (List.getElem?_eq_some_iff.mp known).1)
  rw [own] at inherited others
  exact found_first distinct inherited known value others

theorem gate_lacks (gate : Gate classes simple limited) {name : Text} (unset : limitedDict.lookup name = (none : Option (Attribute F))) :
    Lacks classes limited name := by
  obtain ⟨k,here,_,dict⟩ := gate_here gate
  rw [Lacks,here,Option.bind_some,dict,unset]

theorem inherited_valid (ordered : Ordered classes) (gate : Gate classes simple limited) (stdlib : Stdlib classes simple)
    (derives : simple ∈ mroOf classes handler) (valid : Inherits classes simple limited handler (text "is_rpc_path_valid")) :
    resolve classes handler (text "is_rpc_path_valid") = some (simple,.simpleIsRpcPathValid) := by
  refine stdlib_found ordered stdlib.valid (ordered.nodup handler) (ordered.inherited handler simple derives) fun c member => ?_
  rcases valid c member with rfl | own
  · exact .inr (gate_lacks gate rfl)
  · exact own

theorem inherited_post (ordered : Ordered classes) (gate : Gate classes simple limited) (stdlib : Stdlib classes simple)
    (derives : simple ∈ mroOf classes handler) (post : Inherits classes simple limited handler (text "do_POST")) :
    (limited ∉ mroOf classes handler → resolve classes handler (text "do_POST") = some (simple,.simpleDoPost)) ∧
      (limited ∈ mroOf classes handler → resolve classes handler (text "do_POST") = some (limited,.limitedDoPost) ∧
        superResolve classes handler limited (text "do_POST") = some (simple,.simpleDoPost)) := by
  have distinct := ordered.nodup handler
  refine ⟨fun plain => ?_,fun derived => ?_⟩
  · refine stdlib_found ordered stdlib.post distinct (ordered.inherited handler simple derives) fun c member => ?_
    rcases post c member with rfl | own
    · exact absurd member plain
    · exact own
  · have inherited := ordered.inherited handler limited derived
    rw [gate_order ordered gate] at inherited
    constructor
    · obtain ⟨k,here,_,dict⟩ := gate_here gate
      refine found_first distinct inherited here (by rw [dict]; rfl) fun c member => ?_
      rcases post c member with rfl | own | lacks
      · exact .inl (.head _)
      · exact .inl (.tail _ own)
      · exact .inr lacks
    · obtain ⟨others,past,inherited⟩ := onward_after distinct inherited
      refine stdlib_found ordered stdlib.post others inherited fun c member => ?_
      have inside : c ∈ mroOf classes handler :=
        (List.dropWhile_sublist _).subset ((List.tail_sublist _).subset member)
      rcases post c inside with rfl | own
      · exact absurd member past
      · exact own

section Made
variable {after : Classes F} {max_request_size : Int} {paths : List Text} (built : Built classes)
  (gate : Gate classes simple limited) (derives : simple ∈ mroOf classes handler)
  (made : buildRequestHandler classes limited handler max_request_size (some paths) = some after)

include built gate derives made

theorem made_attrs : handlerOf after classes.length = some ⟨max_request_size,paths⟩ ∧
    ∀ name, name ∉ text "do_POST" :: text "log_error" :: constructed (some paths) →
      resolve after classes.length name = resolve classes handler name := by
  obtain ⟨_,same,gated⟩ := handler_gated built gate derives max_request_size (some paths)
  cases made.symm.trans same
  refine ⟨?_,fun name other => ?_⟩
  · rw [handlerOf,gated.size,gated.paths paths rfl]
  · by_cases derived : limited ∈ mroOf classes handler
    · exact gated.derived derived name fun member => other (.tail _ (.tail _ member))
    · exact (gated.plain derived).kept name other

theorem made_post (stdlib : Stdlib classes simple) (post : Inherits classes simple limited handler (text "do_POST")) :
    attr after classes.length (text "do_POST") = some .limitedDoPost ∧
      superAttr after classes.length limited (text "do_POST") = some .simpleDoPost := by
  have ordered := built.ordered
  have inherited := inherited_post ordered gate stdlib derives post
  obtain ⟨_,same,gated⟩ := handler_gated built gate derives max_request_size (some paths)
  cases made.symm.trans same
  by_cases derived : limited ∈ mroOf classes handler
  · obtain ⟨own,onward⟩ := inherited.2 derived
    constructor
    · rw [attr,gated.derived derived _ (gate_unset (some paths)).1,own]
      rfl
    · rw [superAttr,supers_kept ordered gate derives made derived,onward]
      rfl
  · constructor
    · rw [attr,(gated.plain derived).post]
      rfl
    · rw [superAttr,(gated.plain derived).onward,inherited.1 derived]
      rfl

-- What the built class does with a POST: the gate, then the path, then the body.
theorem made_posts (stdlib : Stdlib classes simple) (post : Inherits classes simple limited handler (text "do_POST"))
    (valid : Inherits classes simple limited handler (text "is_rpc_path_valid")) (code : Functions F) (r : Request) :
    code.doPost after limited classes.length r = some (((⟨max_request_size,paths⟩ : HandlerClass).limitedDoPost r).answer
      (r.post ((⟨max_request_size,paths⟩ : HandlerClass).isRpcPathValid r.path) (code.decode classes handler r))) := by
  obtain ⟨read,kept⟩ := made_attrs built gate derives made
  obtain ⟨first,onward⟩ := made_post built gate derives made stdlib post
  have path : attr after classes.length (text "is_rpc_path_valid") = some .simpleIsRpcPathValid := by
    rw [attr,kept _ (by simp [constructed]; decide),inherited_valid built.ordered gate stdlib derives valid]
    rfl
  have decode : code.decode after classes.length r = code.decode classes handler r := by
    funext data
    rw [Functions.decode,Functions.decode,attr,attr,kept _ (by simp [constructed]; decide)]
  rw [Functions.doPost,read,Option.map_some,first]
  dsimp only
  rw [onward,Functions.call,Functions.simplePost,path]
  dsimp only
  rw [decode]

-- Where decoding is the stdlib's too, the built class is the one of the default handler.
theorem made_default (stdlib : Stdlib classes simple) (post : Inherits classes simple limited handler (text "do_POST"))
    (valid : Inherits classes simple limited handler (text "is_rpc_path_valid"))
    (decode : attr classes handler (text "decode_request_content") = some .simpleDecodeRequestContent)
    (code : Functions F) (r : Request) :
    code.doPost after limited classes.length r =
      some ((buildDefaultHandler max_request_size (some paths)).doPost code.gunzip r) := by
  have decoded : code.decode classes handler r = r.decodeContent code.gunzip := by
    funext data
    rw [Functions.decode,decode]
  rw [made_posts built gate derives made stdlib post valid,decoded,doPost_settles,settle_answer]
  rfl

end Made

end Inherited

theorem paths_whitelisted (code : Functions F) {classes after : Classes F} (built : Built classes) {simple limited handler : Nat}
    (gate : Gate classes simple limited) (stdlib : Stdlib classes simple) (derives : simple ∈ mroOf classes handler)
    (post : Inherits classes simple limited handler (text "do_POST"))
    (valid : Inherits classes simple limited handler (text "is_rpc_path_valid")) {max_request_size : Int} {paths : List Text}
    (made : buildRequestHandler classes limited handler max_request_size (some paths) = some after) (r : Request) :
    (∀ data, code.doPost after limited classes.length r = some (.dispatched data) → r.path ∈ paths) ↔
      (paths ≠ [] ∨ ¬ Admitted max_request_size (code.decode classes handler r) r) := by
  have posts := made_posts built gate derives made stdlib post valid code r
  have dispatched := answer_dispatched ⟨max_request_size,paths⟩ r
    ((⟨max_request_size,paths⟩ : HandlerClass).isRpcPathValid r.path) (code.decode classes handler r)
  rw [posts]
  constructor
  · intro listed
    rcases Decidable.em (paths = []) with rfl | some_
    · refine .inr fun admitted => ?_
      obtain ⟨data,handed⟩ := dispatched.mpr ⟨rfl,admitted⟩
      exact absurd (listed data (congrArg some handed)) List.not_mem_nil
    · exact .inl some_
  · intro condition data handed
    obtain ⟨path,admitted⟩ := dispatched.mp ⟨data,Option.some.inj handed⟩
    rcases condition with some_ | refused
    · simpa [HandlerClass.isRpcPathValid,some_] using path
    · exact absurd admitted refused

def bundled : Functions Nat := ⟨unpack,fun _ _ => .internal,fun _ _ => false,fun _ _ _ => .error .internal⟩

def strayRequest : Request := ⟨text "/elsewhere",[(text "Content-Length",text "5")],[60,63,120,109,108],false⟩

theorem diamond_stdlib : Gate diamond 1 2 ∧ Stdlib diamond 1 ∧ 1 ∈ mroOf diamond 4 := ⟨⟨rfl,rfl⟩,⟨rfl,rfl⟩,by decide⟩

theorem quiet_inherits : Inherits diamond 1 2 4 (text "do_POST") ∧ Inherits diamond 1 2 4 (text "is_rpc_path_valid") := by
  have own : mroOf diamond 4 = [4,1,0] := rfl
  constructor <;> intro c member
  all_goals
    rw [own] at member
    simp only [List.mem_cons,List.not_mem_nil,or_false] at member
    rcases member with rfl | rfl | rfl
    · exact .inr (.inr rfl)
    · exact .inr (.inl (by decide))
    · exact .inr (.inl (by decide))

theorem paths_whitelisted_quiet : ∃ after, buildRequestHandler diamond 2 4 50 (some [text "/api"]) = some after ∧
    ∀ r data, bundled.doPost after 2 6 r = some (.dispatched data) → r.path ∈ [text "/api"] := by
  obtain ⟨gate,stdlib,derives⟩ := diamond_stdlib
  obtain ⟨name,made⟩ := plain_built diamond_built.ordered gate derives (by decide) 50 (some [text "/api"])
  exact ⟨_,made,fun r => (paths_whitelisted bundled diamond_built gate stdlib derives quiet_inherits.1 quiet_inherits.2 made r).mpr
    (.inl (by decide))⟩

theorem empty_unrestricted : ∃ after, buildRequestHandler diamond 2 4 50 (some []) = some after ∧
    ∃ data, bundled.doPost after 2 6 strayRequest = some (.dispatched data) ∧ strayRequest.path ∉ ([] : List Text) := by
  obtain ⟨gate,stdlib,derives⟩ := diamond_stdlib
  obtain ⟨name,made⟩ := plain_built diamond_built.ordered gate derives (by decide) 50 (some [])
  have posts := made_default diamond_built gate derives made stdlib quiet_inherits.1 quiet_inherits.2 rfl bundled strayRequest
  have handed := (doPost_dispatched unpack (buildDefaultHandler 50 (some [])) strayRequest [60,63,120,109,108]).mpr
    ⟨5,⟨by decide,by decide,by decide,rfl,by decide⟩,by decide⟩
  exact ⟨_,made,_,posts.trans (congrArg some handed),List.not_mem_nil⟩

end XmlrpcExtended.Handler
