import XmlrpcExtended.ClientTransport

namespace XmlrpcExtended.Client

variable {τ ρ ν : Type} {lib : Library} {parse : Decoding → ρ → Parsed ν} {t : Transport τ}
  {host handler : Text} {body : List UInt8} {attempt : Attempt ρ}

def Library.connects (lib : Library) (tls : Bool) (host : Text) : Bool :=
  (lib.hostport (if tls then 443 else 80) (getHostInfo host).1).isSome

def Library.sends (lib : Library) (tls : Bool) (host handler : Text) : Bool := lib.connects tls host && sendable handler

-- A connection in the cache was built once for its host.
def Transport.Built (lib : Library) (t : Transport τ) : Prop :=
  ∀ host conn, t.connection = some (host,conn) → lib.connects t.cls.tls host = true ∧ conn.tls = t.cls.tls

structure Prepared (lib : Library) (t : Transport τ) (host : Text) (made : Transport τ × Option (HTTPConnection τ)) :
    Prop where
  cls : made.1.cls = t.cls
  built : made.1.Built lib
  connects : made.2.isSome = lib.connects t.cls.tls host
  tls : ∀ conn, made.2 = some conn → conn.tls = t.cls.tls

theorem kept_prepared (built : t.Built lib) (kept : t.connection = some (host,conn)) : Prepared lib t host (t,some conn) :=
  ⟨rfl,built,(built _ _ kept).1.symm,fun conn same => by cases same; exact (built _ _ kept).2⟩

theorem base_prepared (built : t.Built lib) (host : Text) : Prepared lib t host (t.baseConnection lib host) := by
  unfold Transport.baseConnection
  cases parts : lib.hostport (if t.cls.tls then 443 else 80) (getHostInfo host).1 with
  | none =>
    have fresh : Prepared lib t host ({t with extra_headers := (getHostInfo host).2},none) :=
      ⟨rfl,built,by simp [Library.connects,parts],fun conn same => by cases same⟩
    simp only [HTTPConnection.init,parts,Option.map_none]
    split
    · rename_i cached conn kept
      split
      · rename_i same
        subst same
        exact kept_prepared built kept
      · exact fresh
    · exact fresh
  | some place =>
    have fresh : ∀ conn : HTTPConnection τ, conn.tls = t.cls.tls →
        Prepared lib t host ({t with extra_headers := (getHostInfo host).2,connection := some (host,conn)},some conn) := by
      intro conn tls
      refine ⟨rfl,?_,by simp [Library.connects,parts],fun other same => by cases same; exact tls⟩
      intro other kept same
      cases same
      exact ⟨by simp [Library.connects,parts],tls⟩
    simp only [HTTPConnection.init,parts,Option.map_some]
    split
    · rename_i cached conn kept
      split
      · rename_i same
        subst same
        exact kept_prepared built kept
      · exact fresh _ rfl
    · exact fresh _ rfl

theorem make_prepared (built : t.Built lib) (host : Text) : Prepared lib t host (t.makeConnection lib host) := by
  have base := base_prepared built host
  unfold Transport.makeConnection
  split
  · rename_i timeout cls
    split
    · rename_i after made
      rwa [made] at base
    · rename_i after conn made
      rw [made] at base
      have tls : conn.tls = t.cls.tls := base.tls conn rfl
      refine ⟨base.cls,?_,base.connects,fun conn same => by cases same; exact tls⟩
      intro other conn same
      cases same
      rw [show after.cls = t.cls from base.cls]
      exact ⟨base.connects.symm,tls⟩
  · exact base

theorem leave_built {conn : HTTPConnection τ} (connects : lib.connects t.cls.tls host = true)
    (tls : conn.tls = t.cls.tls) (connected : Bool) : (t.leave host conn connected).Built lib := by
  intro other kept same
  cases same
  exact ⟨connects,tls⟩

theorem close_built (lib : Library) (t : Transport τ) : t.close.Built lib := by
  intro host conn same
  cases same

def posts (wire : List (Wire τ)) : Nat := wire.countP fun
  | .post .. => true
  | _ => false

def runs (wire : List (Wire τ)) : Nat := wire.countP fun
  | .post _ _ _ handled => handled
  | _ => false

theorem runs_posts (wire : List (Wire τ)) : runs wire ≤ posts wire := by
  apply List.countP_mono_left
  intro event _
  cases event <;> simp

@[simp] theorem posts_append (first second : List (Wire τ)) : posts (first ++ second) = posts first + posts second :=
  List.countP_append

@[simp] theorem posts_opens (conn : HTTPConnection τ) : posts conn.opens = 0 := by
  unfold HTTPConnection.opens
  split <;> rfl

@[simp] theorem posts_post (credentials : Option Text) (handled : Bool) :
    posts [(.post credentials handler body handled : Wire τ)] = 1 := rfl

def Secured (tls : Bool) (wire : List (Wire τ)) : Prop :=
  ∀ host port secure timeout, Wire.connect host port secure timeout ∈ wire → secure = tls

theorem opens_secured (conn : HTTPConnection τ) : Secured conn.tls conn.opens := by
  intro host port secure timeout member
  unfold HTTPConnection.opens at member
  split at member
  · cases member
  · cases List.mem_singleton.mp member
    rfl

theorem sent_secured (conn : HTTPConnection τ) (credentials : Option Text) (handled : Bool) :
    Secured conn.tls (conn.opens ++ [.post credentials handler body handled]) := by
  intro host port secure timeout member
  rcases List.mem_append.mp member with opened | sent
  · exact opens_secured conn host port secure timeout opened
  · cases List.mem_singleton.mp sent

-- What one `single_request` is, the connection made or not.
structure Single (lib : Library) (t : Transport τ) (host handler : Text) (attempt : Attempt ρ) (done : Exchange τ ν) :
    Prop where
  cls : done.transport.cls = t.cls
  built : done.transport.Built lib
  posts : posts done.wire = if lib.sends t.cls.tls host handler && attempt.sends then 1 else 0
  secured : Secured t.cls.tls done.wire

theorem single_spec (parse : Decoding → ρ → Parsed ν) (handler : Text) (body : List UInt8) (attempt : Attempt ρ)
    (built : t.Built lib) :
    Single lib t host handler attempt (t.singleRequest lib parse host handler body attempt) := by
  have prepared := make_prepared built host
  unfold Transport.singleRequest
  split
  · rename_i after made
    rw [made] at prepared
    refine ⟨prepared.cls,close_built _ _,?_,fun host port secure timeout member => by cases member⟩
    simp [Library.sends,← prepared.connects,posts]
  · rename_i after conn made
    rw [made] at prepared
    have connects : lib.connects t.cls.tls host = true := prepared.connects.symm
    have tls : conn.tls = t.cls.tls := prepared.tls conn rfl
    have left : ∀ connected, (after.leave host conn connected).Built lib := by
      apply leave_built
      · rw [show after.cls = t.cls from prepared.cls]
        exact connects
      · rw [show after.cls = t.cls from prepared.cls]
        exact tls
    have secured : ∀ handled, Secured t.cls.tls (conn.opens ++ [.post after.extra_headers handler body handled]) := by
      rw [← tls]
      exact sent_secured conn after.extra_headers
    split
    · rename_i accepted
      have sends : lib.sends t.cls.tls host handler = true := by simp [Library.sends,connects,accepted]
      cases attempt with
      | unreached e => exact ⟨prepared.cls,close_built _ _,by simp [Attempt.sends],tls ▸ opens_secured conn⟩
      | cut handled e => exact ⟨prepared.cls,close_built _ _,by simp [sends,Attempt.sends],secured handled⟩
      | unread handled e => exact ⟨prepared.cls,left _,by simp [sends,Attempt.sends],secured handled⟩
      | answered handled keep status response =>
        have sent : posts (conn.opens ++ [.post after.extra_headers handler body handled]) =
            if lib.sends t.cls.tls host handler && (Attempt.answered handled keep status response).sends then 1 else 0 := by
          simp [sends,Attempt.sends]
        dsimp only
        split
        · split
          · exact ⟨prepared.cls,left _,sent,secured handled⟩
          · exact ⟨prepared.cls,left _,sent,secured handled⟩
          · exact ⟨prepared.cls,close_built _ _,sent,secured handled⟩
        · exact ⟨prepared.cls,left _,sent,secured handled⟩
    · rename_i refused
      refine ⟨prepared.cls,close_built _ _,?_,fun host port secure timeout member => by cases member⟩
      simp [Library.sends,refused,posts]

-- The attempt that `request` makes a second one after: the request went out, and then the connection broke.
def Attempt.broken : Attempt ρ → Bool
  | .cut _ e | .unread _ e => e.retried
  | _ => false

def Attempt.refused : Attempt ρ → Bool
  | .unreached e => e.retried
  | _ => false

theorem single_retried (parse : Decoding → ρ → Parsed ν) (host handler : Text) (body : List UInt8)
    (attempt : Attempt ρ) (built : t.Built lib) :
    (∃ e, (t.singleRequest lib parse host handler body attempt).answer = .raised e ∧ e.retried = true) ↔
      lib.sends t.cls.tls host handler = true ∧ (attempt.broken = true ∨ attempt.refused = true) := by
  have prepared := make_prepared built host
  unfold Transport.singleRequest
  split
  · rename_i after made
    rw [made] at prepared
    simp [Library.sends,← prepared.connects,Error.retried]
  · rename_i after conn made
    rw [made] at prepared
    have connects : lib.connects t.cls.tls host = true := prepared.connects.symm
    split
    · rename_i accepted
      simp only [Library.sends,connects,accepted,Bool.and_self,true_and]
      cases attempt with
      | unreached e => simp [Attempt.broken,Attempt.refused]
      | cut handled e => simp [Attempt.broken,Attempt.refused]
      | unread handled e => simp [Attempt.broken,Attempt.refused]
      | answered handled keep status response =>
        dsimp only
        split
        · split <;> simp [Attempt.broken,Attempt.refused,Error.retried]
        · simp [Attempt.broken,Attempt.refused]
    · rename_i refused
      simp [Library.sends,refused,Error.retried]

theorem broken_sends (broken : attempt.broken = true) : attempt.sends = true ∧ attempt.refused = false := by
  cases attempt <;> simp_all [Attempt.broken,Attempt.sends,Attempt.refused]

theorem refused_sends (refused : attempt.refused = true) : attempt.sends = false := by
  cases attempt <;> simp_all [Attempt.sends,Attempt.refused]

structure Requested (lib : Library) (t : Transport τ) (host handler : Text) (attempts : Nat → Attempt ρ)
    (done : Exchange τ ν) : Prop where
  cls : done.transport.cls = t.cls
  built : done.transport.Built lib
  posts : posts done.wire ≤ 1 ↔
    ¬ (lib.sends t.cls.tls host handler = true ∧ (attempts 0).broken = true ∧ (attempts 1).sends = true)
  secured : Secured t.cls.tls done.wire

theorem request_spec (parse : Decoding → ρ → Parsed ν) (host handler : Text) (body : List UInt8)
    (built : t.Built lib) (attempts : Nat → Attempt ρ) :
    Requested lib t host handler attempts (t.request lib parse host handler body attempts) := by
  have first : Single lib t host handler _ _ := single_spec parse handler body (attempts 0) built
  have again := single_retried parse host handler body (attempts 0) built
  have second : Single lib _ host handler _ _ := single_spec parse handler body (attempts 1) first.built
  have once : ∀ p : Bool, (if p then 1 else 0) ≤ 1 := by decide
  unfold Transport.request
  dsimp only
  split
  · rename_i e raised
    split
    · rename_i retried
      obtain ⟨sends,broke⟩ := again.mp ⟨e,raised,retried⟩
      refine ⟨second.cls.trans first.cls,second.built,?_,?_⟩
      · rw [posts_append,first.posts,second.posts,first.cls]
        rcases broke with broken | refused
        · have sent := (broken_sends broken).1
          cases (attempts 1).sends <;> simp [sends,broken,sent]
        · have unsent := refused_sends refused
          have whole : (attempts 0).broken ≠ true := by
            intro broken
            rw [(broken_sends broken).1] at unsent
            cases unsent
          cases (attempts 1).sends <;> simp [sends,whole,unsent]
      · intro host port secure timeout member
        rcases List.mem_append.mp member with before | after
        · exact first.secured host port secure timeout before
        · rw [← first.cls]
          exact second.secured host port secure timeout after
    · rename_i final
      refine ⟨first.cls,first.built,?_,first.secured⟩
      rw [first.posts]
      refine iff_of_true (once _) ?_
      rintro ⟨sends,broken,_⟩
      obtain ⟨_,same,retried⟩ := again.mpr ⟨sends,.inl broken⟩
      rw [raised] at same
      cases same
      exact final retried
  · rename_i settled
    refine ⟨first.cls,first.built,?_,first.secured⟩
    rw [first.posts]
    refine iff_of_true (once _) ?_
    rintro ⟨sends,broken,_⟩
    obtain ⟨e,same,_⟩ := again.mpr ⟨sends,.inl broken⟩
    exact settled e same

def ServerProxy.after (lib : Library) (parse : Decoding → ρ → Parsed ν) (p : ServerProxy τ) (calls : List (Call ρ)) :
    ServerProxy τ :=
  calls.foldl (fun p call => (p.request lib parse call).1) p

structure Proxied (lib : Library) (p : ServerProxy τ) (call : Call ρ) (done : ServerProxy τ × List (Wire τ) × Answer ν) :
    Prop where
  host : done.1.host = p.host
  handler : done.1.handler = p.handler
  cls : done.1.transport.cls = p.transport.cls
  built : done.1.transport.Built lib
  posts : posts done.2.1 ≤ 1 ↔ ¬ (call.body.isSome = true ∧ lib.sends p.transport.cls.tls p.host p.handler = true ∧
    (call.attempts 0).broken = true ∧ (call.attempts 1).sends = true)
  secured : Secured p.transport.cls.tls done.2.1

theorem proxy_spec (parse : Decoding → ρ → Parsed ν) {p : ServerProxy τ} (built : p.transport.Built lib)
    (call : Call ρ) :
    Proxied lib p call (p.request lib parse call) := by
  unfold ServerProxy.request
  split
  · rename_i unmarshalled
    exact ⟨rfl,rfl,rfl,built,by simp [unmarshalled,Client.posts],fun host port secure timeout member => by cases member⟩
  · rename_i body marshalled
    have done := request_spec parse p.host p.handler body built call.attempts
    exact ⟨rfl,rfl,done.cls,done.built,by simpa [marshalled] using done.posts,done.secured⟩

theorem after_spec (parse : Decoding → ρ → Parsed ν) {p : ServerProxy τ} (built : p.transport.Built lib)
    (calls : List (Call ρ)) :
    (p.after lib parse calls).host = p.host ∧ (p.after lib parse calls).handler = p.handler ∧
    (p.after lib parse calls).transport.cls = p.transport.cls ∧ (p.after lib parse calls).transport.Built lib := by
  induction calls generalizing p with
  | nil => exact ⟨rfl,rfl,rfl,built⟩
  | cons call rest ih =>
    have done := proxy_spec parse built call
    obtain ⟨host,handler,cls,kept⟩ := ih done.built
    exact ⟨host.trans done.host,handler.trans done.handler,cls.trans done.cls,kept⟩

theorem enter_fresh {client : XMLRPCClient τ} (entered : client.enter lib = some p) :
    p.transport = ⟨.TimeoutTransport client.timeout,false,client.use_builtin_types,none,none⟩ := by
  obtain ⟨parts,_,made⟩ := Option.bind_eq_some_iff.mp entered
  split at made
  · cases made
    rfl
  · cases made

-- The request of the call goes out once more, whether the server has run the method or not.
def Resent (lib : Library) (p : ServerProxy τ) (call : Call ρ) : Prop :=
  call.body.isSome = true ∧ lib.sends false p.host p.handler = true ∧
    (call.attempts 0).broken = true ∧ (call.attempts 1).sends = true

theorem calls_once {client : XMLRPCClient τ} (entered : client.enter lib = some p) (earlier : List (Call ρ))
    (call : Call ρ) :
    (posts ((p.after lib parse earlier).request lib parse call).2.1 ≤ 1 ∧
      runs ((p.after lib parse earlier).request lib parse call).2.1 ≤ 1) ↔ ¬ Resent lib p call := by
  have fresh := enter_fresh entered
  have built : p.transport.Built lib := by
    rw [fresh]
    intro host conn same
    cases same
  obtain ⟨host,handler,cls,kept⟩ := after_spec parse built earlier
  have done := (proxy_spec parse kept call).posts
  rw [host,handler,cls,fresh] at done
  change _ ↔ ¬ Resent lib p call at done
  rw [← done]
  have below := runs_posts ((p.after lib parse earlier).request lib parse call).2.1
  exact ⟨fun once => once.1,fun once => ⟨once,by omega⟩⟩

-- A library that is right about the URIs used here, which name no port.
def plainLibrary : Library := ⟨fun _ => true,fun port host => some (host,port)⟩

def localClient (scheme : String) : XMLRPCClient Nat := ⟨text scheme ++ text "://localhost/",30,false,false⟩

def read (_ : Decoding) (response : Nat) : Parsed Nat := .value response

-- The first connection breaks once the server has run the method.
def droppedCall : Call Nat :=
  ⟨some [],fun i => if i = 0 then .cut true .RemoteDisconnected else .answered true true 200 5⟩

theorem calls_once_refused : ∃ p, (localClient "http").enter plainLibrary = some p ∧
    runs (p.request plainLibrary read ⟨some [],fun i => if i = 0 then .unreached (.OSError .ECONNRESET)
      else .answered true true 200 5⟩).2.1 ≤ 1 := by
  have entered : ((localClient "http").enter plainLibrary).isSome = true := by decide
  obtain ⟨p,entered⟩ := Option.isSome_iff_exists.mp entered
  refine ⟨p,entered,((calls_once entered [] _).mpr ?_).2⟩
  rintro ⟨_,_,broken,_⟩
  cases broken

theorem call_run_twice : ∃ p, (localClient "http").enter plainLibrary = some p ∧
    posts (p.request plainLibrary read droppedCall).2.1 = 2 ∧ runs (p.request plainLibrary read droppedCall).2.1 = 2 :=
  ⟨_,rfl,by decide,by decide⟩

end XmlrpcExtended.Client
