import XmlrpcExtended.ClientCalls

namespace XmlrpcExtended.Client

variable {τ ρ ν : Type} {lib : Library} {parse : Decoding → ρ → Parsed ν} {t : Transport τ}
  {host handler : Text} {body : List UInt8} {attempt : Attempt ρ} {timeout : τ}

def HTTPConnection.timed (timeout : τ) (conn : HTTPConnection τ) : HTTPConnection τ :=
  {conn with timeout := some timeout}

-- The transport of the client in the state in which a plain one would be.
def Transport.timed (timeout : τ) (t : Transport τ) : Transport τ :=
  {t with cls := .TimeoutTransport timeout,connection := t.connection.map fun (host,conn) => (host,conn.timed timeout)}

def Wire.timed (timeout : τ) : Wire τ → Wire τ
  | .connect host port tls _ => .connect host port tls (some timeout)
  | event => event

def Exchange.timed (timeout : τ) (done : Exchange τ ν) : Exchange τ ν :=
  ⟨done.transport.timed timeout,done.wire.map (Wire.timed timeout),done.answer⟩

theorem opens_timed (conn : HTTPConnection τ) :
    (conn.timed timeout).opens = conn.opens.map (Wire.timed timeout) := by
  unfold HTTPConnection.opens HTTPConnection.timed
  split <;> rfl

theorem sent_timed (conn : HTTPConnection τ) (credentials : Option Text) (handled : Bool) :
    (conn.timed timeout).opens ++ [Wire.post credentials handler body handled] =
      (conn.opens ++ [Wire.post credentials handler body handled]).map (Wire.timed timeout) := by
  rw [opens_timed,List.map_append]
  rfl

theorem make_plain (plain : t.cls = .Transport) : t.makeConnection lib host = t.baseConnection lib host := by
  simp [Transport.makeConnection,plain]

theorem base_timed (plain : t.cls = .Transport) :
    (t.timed timeout).makeConnection lib host =
      ((t.baseConnection lib host).1.timed timeout,(t.baseConnection lib host).2.map (·.timed timeout)) := by
  obtain ⟨cls,dates,builtins,connection,headers⟩ := t
  cases plain
  have init : ∀ tls, (HTTPConnection.init lib tls (getHostInfo host).1 : Option (HTTPConnection τ)) =
      (lib.hostport (if tls then 443 else 80) (getHostInfo host).1).map fun place => ⟨place.1,place.2,tls,none,false⟩ :=
    fun _ => rfl
  cases connection with
  | none =>
    simp only [Transport.makeConnection,Transport.baseConnection,Transport.timed,Option.map_none,TransportClass.tls,init]
    cases lib.hostport _ _ <;> rfl
  | some kept =>
    obtain ⟨cached,conn⟩ := kept
    simp only [Transport.makeConnection,Transport.baseConnection,Transport.timed,Option.map_some,TransportClass.tls,init]
    by_cases same : host = cached
    · simp only [same,if_true]
      rfl
    · simp only [same,if_false]
      cases lib.hostport _ _ <;> rfl

theorem base_cls (lib : Library) (host : Text) (t : Transport τ) : (t.baseConnection lib host).1.cls = t.cls := by
  unfold Transport.baseConnection
  repeat' split
  all_goals first | rfl | (dsimp only; split <;> rfl)

theorem single_timed (lib : Library) (parse : Decoding → ρ → Parsed ν) (host handler : Text) (body : List UInt8)
    (attempt : Attempt ρ) (timeout : τ) (plain : t.cls = .Transport) :
    (t.timed timeout).singleRequest lib parse host handler body attempt =
      (t.singleRequest lib parse host handler body attempt).timed timeout ∧
    (t.singleRequest lib parse host handler body attempt).transport.cls = .Transport := by
  unfold Transport.singleRequest
  rw [base_timed plain,make_plain plain]
  have cls := base_cls lib host t
  rw [plain] at cls
  generalize t.baseConnection lib host = made at cls ⊢
  obtain ⟨after,conn⟩ := made
  cases conn with
  | none => exact ⟨rfl,cls⟩
  | some conn =>
    dsimp only [Option.map_some]
    split
    · cases attempt with
      | unreached e => exact ⟨by dsimp only; rw [opens_timed]; rfl,cls⟩
      | cut handled e => exact ⟨by dsimp only; rw [sent_timed]; rfl,cls⟩
      | unread handled e => exact ⟨by dsimp only; rw [sent_timed]; rfl,cls⟩
      | answered handled keep status response =>
        dsimp only
        rw [sent_timed]
        dsimp only [Transport.timed]
        split
        · split
          · exact ⟨rfl,cls⟩
          · exact ⟨rfl,cls⟩
          · exact ⟨rfl,cls⟩
        · exact ⟨rfl,cls⟩
    · exact ⟨rfl,cls⟩

theorem request_timed (lib : Library) (parse : Decoding → ρ → Parsed ν) (host handler : Text) (body : List UInt8)
    (timeout : τ) (plain : t.cls = .Transport) (attempts : Nat → Attempt ρ) :
    (t.timed timeout).request lib parse host handler body attempts =
      (t.request lib parse host handler body attempts).timed timeout ∧
    (t.request lib parse host handler body attempts).transport.cls = .Transport := by
  obtain ⟨first,cls⟩ := single_timed lib parse host handler body (attempts 0) timeout plain
  obtain ⟨second,after⟩ := single_timed lib parse host handler body (attempts 1) timeout cls
  unfold Transport.request
  rw [first]
  generalize t.singleRequest lib parse host handler body (attempts 0) = done at cls second after ⊢
  obtain ⟨transport,wire,answer⟩ := done
  cases answer with
  | raised e =>
    dsimp only [Exchange.timed] at second ⊢
    split
    · rw [second]
      exact ⟨by simp,after⟩
    · exact ⟨rfl,cls⟩
  | value v => exact ⟨rfl,cls⟩
  | fault v => exact ⟨rfl,cls⟩
  | protocolError status => exact ⟨rfl,cls⟩
  | unmarshalled => exact ⟨rfl,cls⟩

def ServerProxy.timed (timeout : τ) (p : ServerProxy τ) : ServerProxy τ :=
  {p with transport := p.transport.timed timeout}

theorem session_timed {p : ServerProxy τ} (plain : p.transport.cls = .Transport) (calls : List (Call ρ)) :
    (p.timed timeout).session lib parse calls =
      ((p.session lib parse calls).1.map (Wire.timed timeout),(p.session lib parse calls).2) := by
  induction calls generalizing p with
  | nil => rfl
  | cons call rest ih =>
    obtain ⟨body,attempts⟩ := call
    cases body with
    | none =>
      simp only [ServerProxy.session,ServerProxy.request,ih plain]
      rfl
    | some body =>
      obtain ⟨same,cls⟩ := request_timed lib parse p.host p.handler body timeout plain attempts
      have rest := ih (p := {p with transport := (p.transport.request lib parse p.host p.handler body attempts).transport}) cls
      simp only [ServerProxy.session,ServerProxy.request,ServerProxy.timed] at rest ⊢
      simp only [same,Exchange.timed,rest,List.map_append]

-- The sessions of two proxies, and what the connections of the first must be.
structure Alike (lib : Library) (parse : Decoding → ρ → Parsed ν) (scheme : Text) (timeout : τ)
    (client std : ServerProxy τ) : Prop where
  host : client.host = std.host
  handler : client.handler = std.handler
  encoding : client.encoding = std.encoding
  allow_none : client.allow_none = std.allow_none
  use_datetime : client.transport.use_datetime = std.transport.use_datetime
  use_builtin_types : client.transport.use_builtin_types = std.transport.use_builtin_types
  wire : ∀ calls, (client.session lib parse calls).1 = (std.session lib parse calls).1.map (Wire.timed timeout)
  answers : ∀ calls, (client.session lib parse calls).2 = (std.session lib parse calls).2
  connections : ∀ calls host port tls t, .connect host port tls t ∈ (client.session lib parse calls).1 →
    (tls = true ↔ scheme = text "https") ∧ t = some timeout

theorem session_secured {p : ServerProxy τ} (built : p.transport.Built lib) (calls : List (Call ρ)) :
    Secured p.transport.cls.tls (p.session lib parse calls).1 := by
  induction calls generalizing p with
  | nil => intro host port secure timeout member; cases member
  | cons call rest ih =>
    have done := proxy_spec parse built call
    have others := ih done.built
    rw [done.cls] at others
    intro host port secure timeout member
    rcases List.mem_append.mp member with here | later
    · exact done.secured host port secure timeout here
    · exact others host port secure timeout later

theorem request_unsent (parse : Decoding → ρ → Parsed ν) (handler : Text) (body : List UInt8)
    (built : t.Built lib) (unsent : lib.sends t.cls.tls host handler = false)
    (attempts : Nat → Attempt ρ) :
    (t.request lib parse host handler body attempts).wire = [] ∧
    (t.request lib parse host handler body attempts).answer = .raised .other := by
  have prepared := make_prepared built host
  have single : (t.singleRequest lib parse host handler body (attempts 0)) =
      ⟨(t.makeConnection lib host).1.close,[],.raised .other⟩ := by
    unfold Transport.singleRequest
    split
    · rename_i after made
      rw [made]
    · rename_i after conn made
      have connects := prepared.connects
      rw [made] at connects
      rw [if_neg (by simpa [Library.sends,← connects] using unsent),made]
  unfold Transport.request
  rw [single]
  exact ⟨rfl,rfl⟩

theorem session_unsent (parse : Decoding → ρ → Parsed ν) {p : ServerProxy τ} (built : p.transport.Built lib)
    (unsent : lib.sends p.transport.cls.tls p.host p.handler = false) (calls : List (Call ρ)) :
    p.session lib parse calls =
      ([],calls.map fun call => if call.body.isSome then .raised .other else .unmarshalled) := by
  induction calls generalizing p with
  | nil => rfl
  | cons call rest ih =>
    have done := proxy_spec parse built call
    have rest := ih done.built (by rw [done.cls,done.host,done.handler]; exact unsent)
    have here : (p.request lib parse call).2 = ([],if call.body.isSome then .raised .other else .unmarshalled) := by
      unfold ServerProxy.request
      split
      · rename_i unmarshalled
        simp [unmarshalled]
      · rename_i body marshalled
        obtain ⟨wire,answer⟩ := request_unsent parse p.handler body built unsent call.attempts
        simp [marshalled,wire,answer]
    simp only [ServerProxy.session,rest,here,List.append_nil,List.map_cons]

-- The session that tells two proxies apart: its connect fails at once.
def probe : List (Call ρ) := [⟨some [],fun _ => .unreached .other⟩]

theorem make_fresh (fresh : t.connection = none) (conn : HTTPConnection τ)
    (made : (t.makeConnection lib host).2 = some conn) : conn.connected = false := by
  have base : ∀ conn, (t.baseConnection lib host).2 = some conn → conn.connected = false := by
    intro conn made
    simp only [Transport.baseConnection,fresh,HTTPConnection.init] at made
    cases parts : lib.hostport (if t.cls.tls then 443 else 80) (getHostInfo host).1 <;> rw [parts] at made <;> cases made
    rfl
  unfold Transport.makeConnection at made
  split at made
  · split at made
    · cases made
    · rename_i after kept first
      cases made
      exact base kept (by rw [first])
  · exact base conn made

theorem probe_connects (parse : Decoding → ρ → Parsed ν) {p : ServerProxy τ} (fresh : p.transport.connection = none)
    (sends : lib.sends p.transport.cls.tls p.host p.handler = true) :
    ∃ host port tls t, Wire.connect host port tls t ∈ (p.session lib parse probe).1 := by
  have built : p.transport.Built lib := by
    intro host conn same
    rw [fresh] at same
    cases same
  obtain ⟨connects,accepted⟩ : lib.connects p.transport.cls.tls p.host = true ∧ sendable p.handler = true := by
    simpa [Library.sends] using sends
  have prepared := (make_prepared built p.host).connects
  rw [connects] at prepared
  obtain ⟨conn,made⟩ := Option.isSome_iff_exists.mp prepared
  have unconnected := make_fresh fresh conn made
  have single : p.transport.singleRequest lib parse p.host p.handler [] (.unreached .other) =
      ⟨(p.transport.makeConnection lib p.host).1.close,conn.opens,.raised .other⟩ := by
    unfold Transport.singleRequest
    split
    · rename_i after failed
      rw [failed] at made
      cases made
    · rename_i after kept first
      rw [first] at made ⊢
      cases made
      rw [if_pos accepted]
  refine ⟨conn.host,conn.port,conn.tls,conn.timeout,?_⟩
  simp [probe,ServerProxy.session,ServerProxy.request,Transport.request,single,Error.retried,HTTPConnection.opens,
    unconnected]

def fresh (cls : TransportClass τ) (use_builtin_types : Bool) : Transport τ := ⟨cls,false,use_builtin_types,none,none⟩

theorem fresh_built (lib : Library) (cls : TransportClass τ) (use_builtin_types : Bool) :
    (fresh cls use_builtin_types).Built lib := by
  intro host conn same
  cases same

theorem plain_alike (lib : Library) (parse : Decoding → ρ → Parsed ν) (timeout : τ) {std : ServerProxy τ} {use_builtin_types : Bool}
    (plain : std.transport = fresh .Transport use_builtin_types) :
    Alike lib parse (text "http") timeout (std.timed timeout) std := by
  have cls : std.transport.cls = .Transport := by rw [plain]; rfl
  have built : std.transport.Built lib := by rw [plain]; exact fresh_built lib _ _
  refine ⟨rfl,rfl,rfl,rfl,rfl,rfl,?_,?_,?_⟩
  · intro calls
    rw [session_timed cls]
  · intro calls
    rw [session_timed cls]
  · intro calls host port tls t member
    rw [session_timed cls] at member
    obtain ⟨event,opened,same⟩ := List.mem_map.mp member
    cases event with
    | connect host port secure before =>
      cases same
      have secured := session_secured built calls _ _ _ _ opened
      rw [cls] at secured
      exact ⟨iff_of_false (by simp [secured,TransportClass.tls]) (by decide),rfl⟩
    | post => cases same

-- The client's transport is a plain one here, the other is not.
theorem secure_alike (parse : Decoding → ρ → Parsed ν) {client std : ServerProxy τ} {use_builtin_types : Bool}
    (secure : std.transport = fresh .SafeTransport use_builtin_types)
    (same : client = {std with transport := fresh (.TimeoutTransport timeout) use_builtin_types}) :
    Alike lib parse (text "https") timeout client std ↔
      lib.sends false std.host std.handler = false ∧ lib.sends true std.host std.handler = false := by
  subst same
  have stdBuilt : std.transport.Built lib := by rw [secure]; exact fresh_built lib _ _
  have stdTls : std.transport.cls.tls = true := by rw [secure]; rfl
  have built := fresh_built lib (.TimeoutTransport timeout) use_builtin_types
  constructor
  · intro alike
    cases sends : lib.sends false std.host std.handler with
    | true =>
      obtain ⟨host,port,tls,t,member⟩ := probe_connects parse
        (p := {std with transport := fresh (.TimeoutTransport timeout) use_builtin_types}) rfl sends
      have secured : tls = false := session_secured built probe host port tls t member
      have wanted := (alike.connections probe host port tls t member).1.mpr rfl
      rw [secured] at wanted
      cases wanted
    | false =>
      refine ⟨rfl,?_⟩
      cases encrypted : lib.sends true std.host std.handler with
      | false => rfl
      | true =>
        have fresh : std.transport.connection = none := by rw [secure]; rfl
        obtain ⟨host,port,tls,t,member⟩ := probe_connects parse fresh (by rw [stdTls]; exact encrypted)
        have silent := alike.wire probe
        rw [session_unsent parse built sends] at silent
        rw [List.map_eq_nil_iff.mp silent.symm] at member
        cases member
  · rintro ⟨plain,encrypted⟩
    have here : ∀ calls : List (Call ρ), _ := session_unsent parse
      (p := {std with transport := fresh (.TimeoutTransport timeout) use_builtin_types}) built plain
    have there : ∀ calls : List (Call ρ), _ := session_unsent parse stdBuilt (by rw [stdTls]; exact encrypted)
    refine ⟨rfl,rfl,rfl,rfl,by rw [secure]; rfl,by rw [secure]; rfl,?_,?_,?_⟩
    · intro calls
      rw [here,there]
      rfl
    · intro calls
      rw [here,there]
    · intro calls host port tls t member
      rw [here] at member
      cases member

theorem client_agrees {client : XMLRPCClient τ} {std : ServerProxy τ} (parse : Decoding → ρ → Parsed ν)
    (accepted : ServerProxy.init lib client.uri none client.allow_none false client.use_builtin_types = some std) :
    ∃ parts proxy, urlsplit lib client.uri = some parts ∧ client.enter lib = some proxy ∧
      (Alike lib parse parts.scheme client.timeout proxy std ↔ parts.scheme = text "http" ∨
        lib.sends false std.host std.handler = false ∧ lib.sends true std.host std.handler = false) := by
  obtain ⟨parts,split_,made⟩ := Option.bind_eq_some_iff.mp accepted
  split at made
  · rename_i scheme
    have entered : client.enter lib = some {std with
        transport := fresh (.TimeoutTransport client.timeout) client.use_builtin_types} := by
      unfold XMLRPCClient.enter ServerProxy.init
      cases made
      simp [split_,scheme,fresh]
    refine ⟨parts,_,split_,entered,?_⟩
    rcases scheme with http | https
    · have plain : std.transport = fresh .Transport client.use_builtin_types := by
        cases made
        simp [http,fresh,show text "http" ≠ text "https" by decide]
      have alike := plain_alike lib parse client.timeout plain
      rw [http]
      refine iff_of_true ?_ (.inl rfl)
      convert alike using 1
      rw [ServerProxy.timed,plain]
      rfl
    · have secure : std.transport = fresh .SafeTransport client.use_builtin_types := by
        cases made
        simp [https,fresh]
      rw [https,secure_alike parse secure rfl]
      simp [show text "https" ≠ text "http" by decide]
  · cases made

theorem client_agrees_http : ∃ proxy std : ServerProxy Nat, (localClient "http").enter plainLibrary = some proxy ∧
    ServerProxy.init plainLibrary (localClient "http").uri none false false false = some std ∧
    Alike plainLibrary read (text "http") 30 proxy std := by
  have accepted : (ServerProxy.init plainLibrary (localClient "http").uri none false false false :
      Option (ServerProxy Nat)).isSome = true := by decide
  obtain ⟨std,accepted⟩ := Option.isSome_iff_exists.mp accepted
  obtain ⟨parts,proxy,split_,entered,agrees⟩ := client_agrees read accepted
  have scheme : parts.scheme = text "http" := by
    cases split_
    decide
  exact ⟨proxy,std,entered,accepted,scheme ▸ agrees.mpr (.inl scheme)⟩

theorem client_plain_https : ∃ proxy std : ServerProxy Nat, (localClient "https").enter plainLibrary = some proxy ∧
    ServerProxy.init plainLibrary (localClient "https").uri none false false false = some std ∧
    (proxy.session plainLibrary read probe).1 = [.connect (text "localhost") 80 false (some 30)] ∧
    (std.session plainLibrary read probe).1 = [.connect (text "localhost") 443 true none] ∧
    ¬ Alike plainLibrary read (text "https") 30 proxy std := by
  refine ⟨_,_,rfl,rfl,by decide,by decide,fun alike => ?_⟩
  have secured := alike.connections probe (text "localhost") 80 false (some 30) (by decide)
  simp at secured

end XmlrpcExtended.Client
