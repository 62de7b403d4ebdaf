import XmlrpcExtended.PythonInt

namespace XmlrpcExtended.Handler

-- `bytes` is what follows the header fields. After them the connection ends, or fails if `broken`.
structure Request where
  path : Text
  headers : List (Text × Text)
  bytes : List UInt8
  broken : Bool

-- `self.headers.get`: the first field of that name.
def Request.header (r : Request) (name : Text) : Option Text :=
  (r.headers.find? fun field => field.1.map lower == name).map (·.2)

inductive Answer where
  | error (code : Nat) (message : Text)
  | notFound
  | unsupported (encoding : Text)
  | undecodable
  | internal
  | dispatched (data : List UInt8)
  deriving DecidableEq, Repr

-- What `GzipFile.read` gives: bytes, an OSError or another exception.
inductive GzipRead where
  | data (decoded : List UInt8)
  | badFile
  | other
  deriving DecidableEq, Repr

abbrev Gunzip := List UInt8 → Nat → GzipRead

structure HandlerClass where
  max_request_size : Int
  rpc_paths : List Text

-- `_build_request_handler` of the default class: a subclass with these two attributes overridden.
def buildDefaultHandler (max_request_size : Int) (rpc_paths : Option (List Text)) : HandlerClass :=
  ⟨max_request_size,rpc_paths.getD [text "/",text "/RPC2",text "/pydoc.css"]⟩

def HandlerClass.isRpcPathValid (h : HandlerClass) (path : Text) : Bool :=
  if h.rpc_paths = [] then true else h.rpc_paths.contains path

def maxChunkSize : Nat := 10 * 1024 * 1024

-- The loop over `size_remaining`; `none` where a read raises.
def readBody (broken : Bool) (size : Nat) (bytes : List UInt8) : Option (List UInt8) :=
  if size = 0 then some []
  else if bytes.length < min size maxChunkSize ∧ broken = true then none
  else if _ended : bytes.take (min size maxChunkSize) = [] then some []
  else
    (readBody broken (size - (bytes.take (min size maxChunkSize)).length) (bytes.drop (min size maxChunkSize))).map
      (bytes.take (min size maxChunkSize) ++ ·)
termination_by size
decreasing_by
  have some_ := List.length_pos_iff.mpr _ended
  omega

-- A negative size reads to the end; the gate lets none through.
def Request.readData (r : Request) : Int → Option (List UInt8)
  | .ofNat size => readBody r.broken size r.bytes
  | .negSucc _ => if r.broken then none else some r.bytes

def gzipDecode (gunzip : Gunzip) (data : List UInt8) : Except Answer (List UInt8) :=
  match gunzip data (20971520 + 1) with
  | .data decoded => if decoded.length > 20971520 then .error .undecodable else .ok decoded
  | .badFile => .error .undecodable
  | .other => .error .internal

def Request.contentEncoding (r : Request) : Text :=
  ((r.header (text "content-encoding")).getD (text "identity")).map lower

def Request.decodeContent (gunzip : Gunzip) (r : Request) (data : List UInt8) : Except Answer (List UInt8) :=
  if r.contentEncoding = text "identity" then .ok data
  else if r.contentEncoding = text "gzip" then gzipDecode gunzip data
  else .error (.unsupported r.contentEncoding)

-- SimpleXMLRPCRequestHandler.do_POST, up to its call of `_marshaled_dispatch`.
def HandlerClass.simpleDoPost (gunzip : Gunzip) (h : HandlerClass) (r : Request) : Answer :=
  if h.isRpcPathValid r.path = false then .notFound
  else
    match (r.header (text "content-length")).bind pythonInt with
    | none => .internal
    | some size =>
      match r.readData size with
      | none => .internal
      | some data =>
        match r.decodeContent gunzip data with
        | .ok data => .dispatched data
        | .error answer => answer

def Request.chunked (r : Request) : Bool :=
  ((r.header (text "transfer-encoding")).getD []).map lower == text "chunked"

def HandlerClass.doPost (gunzip : Gunzip) (h : HandlerClass) (r : Request) : Answer :=
  if r.chunked then .error 501 (text "Chunked transfer encoding is not supported")
  else
    match r.header (text "content-length") with
    | none => .error 411 (text "Content-Length header is required")
    | some declared =>
      match pythonInt declared with
      | none => .error 400 (text "Content-Length must be a valid non-negative integer")
      | some size =>
        if size < 0 then .error 400 (text "Content-Length must be a valid non-negative integer")
        else if size > h.max_request_size then .error 413 (text "XML-RPC request body too large")
        else h.simpleDoPost gunzip r

-- What LimitedXMLRPCRequestHandler.do_POST does with a request: an error of its own, or `super().do_POST()`.
inductive Verdict where
  | refused (code : Nat) (message : Text)
  | forwarded
  deriving DecidableEq, Repr

def HandlerClass.limitedDoPost (h : HandlerClass) (r : Request) : Verdict :=
  if r.chunked then .refused 501 (text "Chunked transfer encoding is not supported")
  else
    match r.header (text "content-length") with
    | none => .refused 411 (text "Content-Length header is required")
    | some declared =>
      match pythonInt declared with
      | none => .refused 400 (text "Content-Length must be a valid non-negative integer")
      | some size =>
        if size < 0 then .refused 400 (text "Content-Length must be a valid non-negative integer")
        else if size > h.max_request_size then .refused 413 (text "XML-RPC request body too large")
        else .forwarded

def HandlerClass.settle (gunzip : Gunzip) (h : HandlerClass) (r : Request) : Verdict → Answer
  | .refused code message => .error code message
  | .forwarded => h.simpleDoPost gunzip r

def content : Except Answer (List UInt8) → Answer
  | .ok data => .dispatched data
  | .error answer => answer

-- The stdlib's do_POST on what its two methods give.
def Request.post (r : Request) (valid : Bool) (decode : List UInt8 → Except Answer (List UInt8)) : Answer :=
  if valid = false then .notFound
  else
    match (r.header (text "content-length")).bind pythonInt with
    | none => .internal
    | some size =>
      match r.readData size with
      | none => .internal
      | some data => content (decode data)

theorem take_chunk {chunk size : Nat} (fits : chunk ≤ size) (bytes : List UInt8) :
    bytes.take chunk ++ (bytes.drop chunk).take (size - chunk) = bytes.take size := by
  rw [← List.take_add]
  congr 1
  omega

theorem readBody_take (broken : Bool) (size : Nat) (bytes : List UInt8) :
    readBody broken size bytes = if bytes.length < size ∧ broken = true then none else some (bytes.take size) := by
  induction size using Nat.strongRecOn generalizing bytes with
  | ind size ih =>
    rw [readBody]
    split
    · rename_i none_
      simp [none_]
    · rename_i more
      split
      · rename_i short
        rw [if_pos ⟨by omega,short.2⟩]
      · rename_i enough
        have positive : 0 < min size maxChunkSize := by
          have chunk : 0 < maxChunkSize := by decide
          omega
        split
        · rename_i ended
          have empty : bytes = [] := by
            rcases List.take_eq_nil_iff.mp ended with none_ | empty
            · omega
            · exact empty
          subst empty
          have whole : ¬ broken = true := fun broken => enough ⟨by simpa using positive,broken⟩
          simp [whole]
        · rename_i chunk
          have some_ := List.length_pos_iff.mpr chunk
          have taken : (bytes.take (min size maxChunkSize)).length = min (min size maxChunkSize) bytes.length :=
            List.length_take
          rw [ih _ (by omega)]
          by_cases whole : min size maxChunkSize ≤ bytes.length
          · have length : (bytes.take (min size maxChunkSize)).length = min size maxChunkSize := by omega
            rw [length,List.length_drop]
            have joined := take_chunk (Nat.min_le_left size maxChunkSize) bytes
            by_cases ends : bytes.length < size ∧ broken = true
            · rw [if_pos ends,if_pos ⟨by omega,ends.2⟩]
              rfl
            · rw [if_neg ends,if_neg fun short => ends ⟨by omega,short.2⟩,Option.map_some,joined]
          · have unbroken : ¬ broken = true := fun broken => enough ⟨by omega,broken⟩
            rw [if_neg fun short => unbroken short.2,if_neg fun short => unbroken short.2]
            rw [List.drop_eq_nil_of_le (by omega),List.take_of_length_le (by omega : bytes.length ≤ _),
              List.take_of_length_le (by omega : bytes.length ≤ size)]
            simp

-- What the gate and the path check let through, read to the end of the declared length.
structure Forwarded (h : HandlerClass) (r : Request) (size : Nat) : Prop where
  unchunked : r.chunked = false
  declared : (r.header (text "content-length")).bind pythonInt = some (size : Int)
  fits : (size : Int) ≤ h.max_request_size
  path : h.isRpcPathValid r.path = true
  read : r.broken = true → size ≤ r.bytes.length

theorem decodeContent_answers {gunzip : Gunzip} {r : Request} {data : List UInt8} {answer : Answer}
    (failed : r.decodeContent gunzip data = .error answer) (handed : List UInt8) : answer ≠ .dispatched handed := by
  rintro rfl
  unfold Request.decodeContent gzipDecode at failed
  repeat' split at failed
  all_goals cases failed

theorem post_dispatched {r : Request} {size : Nat} (declared : (r.header (text "content-length")).bind pythonInt = some (size : Int))
    (valid : Bool) (decode : List UInt8 → Except Answer (List UInt8)) (data : List UInt8) :
    r.post valid decode = .dispatched data ↔ valid = true ∧ (r.broken = true → size ≤ r.bytes.length) ∧
      content (decode (r.bytes.take size)) = .dispatched data := by
  have read : r.readData (size : Int) = if r.bytes.length < size ∧ r.broken = true then none else some (r.bytes.take size) :=
    readBody_take r.broken size r.bytes
  unfold Request.post
  rw [declared]
  cases valid with
  | false => simp
  | true =>
    dsimp only
    rw [read]
    by_cases short : r.bytes.length < size ∧ r.broken = true
    · rw [if_pos short]
      refine iff_of_false (by simp) ?_
      rintro ⟨_,whole,_⟩
      have enough := whole short.2
      omega
    · have whole : r.broken = true → size ≤ r.bytes.length := by
        intro broken
        by_contra less
        exact short ⟨by omega,broken⟩
      rw [if_neg short]
      simpa using fun _ => whole

theorem simpleDoPost_post (gunzip : Gunzip) (h : HandlerClass) (r : Request) :
    h.simpleDoPost gunzip r = r.post (h.isRpcPathValid r.path) (r.decodeContent gunzip) := by
  unfold HandlerClass.simpleDoPost Request.post
  split
  · rfl
  · cases (r.header (text "content-length")).bind pythonInt with
    | none => rfl
    | some size =>
      dsimp only
      cases r.readData size with
      | none => rfl
      | some data =>
        dsimp only
        cases r.decodeContent gunzip data <;> rfl

theorem content_dispatched {gunzip : Gunzip} {r : Request} {data handed : List UInt8} :
    content (r.decodeContent gunzip data) = .dispatched handed ↔ r.decodeContent gunzip data = .ok handed := by
  cases decoded : r.decodeContent gunzip data with
  | ok decoded => simp [content]
  | error answer => simp [content,decodeContent_answers decoded handed]

theorem doPost_settles (gunzip : Gunzip) (h : HandlerClass) (r : Request) :
    h.doPost gunzip r = h.settle gunzip r (h.limitedDoPost r) := by
  unfold HandlerClass.doPost HandlerClass.limitedDoPost
  split
  · rfl
  · cases r.header (text "content-length") with
    | none => rfl
    | some declared =>
      dsimp only
      cases pythonInt declared with
      | none => rfl
      | some size =>
        dsimp only
        split
        · rfl
        · split <;> rfl

theorem limitedDoPost_forwarded (h : HandlerClass) (r : Request) : h.limitedDoPost r = .forwarded ↔
    r.chunked = false ∧ ∃ size : Nat, (r.header (text "content-length")).bind pythonInt = some (size : Int) ∧
      (size : Int) ≤ h.max_request_size := by
  unfold HandlerClass.limitedDoPost
  cases r.chunked with
  | true => simp
  | false =>
    cases r.header (text "content-length") with
    | none => simp
    | some value =>
      simp only [Bool.false_eq_true,if_false,Option.bind_some,true_and]
      cases pythonInt value with
      | none => simp
      | some size =>
        dsimp only
        constructor
        · intro forwarded
          split at forwarded
          · cases forwarded
          · split at forwarded
            · cases forwarded
            · exact ⟨size.toNat,by simp; omega,by omega⟩
        · rintro ⟨n,same,fits⟩
          cases same
          rw [if_neg (by omega),if_neg (by omega)]

theorem doPost_dispatched (gunzip : Gunzip) (h : HandlerClass) (r : Request) (data : List UInt8) :
    h.doPost gunzip r = .dispatched data ↔
      ∃ size, Forwarded h r size ∧ r.decodeContent gunzip (r.bytes.take size) = .ok data := by
  rw [doPost_settles]
  constructor
  · intro handed
    cases verdict : h.limitedDoPost r with
    | refused code message =>
      rw [verdict] at handed
      cases handed
    | forwarded =>
      rw [verdict,HandlerClass.settle,simpleDoPost_post] at handed
      obtain ⟨unchunked,size,declared,fits⟩ := (limitedDoPost_forwarded h r).mp verdict
      obtain ⟨path,read,decoded⟩ := (post_dispatched declared _ _ data).mp handed
      exact ⟨size,⟨unchunked,declared,fits,path,read⟩,content_dispatched.mp decoded⟩
  · rintro ⟨size,⟨unchunked,declared,fits,path,read⟩,decoded⟩
    rw [(limitedDoPost_forwarded h r).mpr ⟨unchunked,size,declared,fits⟩,HandlerClass.settle,simpleDoPost_post]
    exact (post_dispatched declared _ _ data).mpr ⟨path,read,content_dispatched.mpr decoded⟩

-- The declared length fits, and the gzip decoding makes more of the body than the limit.
def Inflated (gunzip : Gunzip) (h : HandlerClass) (r : Request) : Prop :=
  ∃ size decoded, Forwarded h r size ∧ r.contentEncoding = text "gzip" ∧
    gunzip (r.bytes.take size) (20971520 + 1) = .data decoded ∧
    h.max_request_size < decoded.length ∧ decoded.length ≤ 20971520

theorem parsed_bounded (gunzip : Gunzip) (max_request_size : Int) (rpc_paths : Option (List Text)) (r : Request) :
    (∀ data, (buildDefaultHandler max_request_size rpc_paths).doPost gunzip r = .dispatched data →
      (data.length : Int) ≤ max_request_size) ↔
    ¬ Inflated gunzip (buildDefaultHandler max_request_size rpc_paths) r := by
  constructor
  · rintro bounded ⟨size,decoded,forwarded,encoding,read,above,below⟩
    have handed : r.decodeContent gunzip (r.bytes.take size) = .ok decoded := by
      simp [Request.decodeContent,encoding,gzipDecode,read,below,show text "gzip" ≠ text "identity" by decide]
    have small := bounded decoded ((doPost_dispatched gunzip _ r decoded).mpr ⟨size,forwarded,handed⟩)
    exact absurd small (Int.not_le.mpr above)
  · intro flat data handed
    obtain ⟨size,forwarded,decoded⟩ := (doPost_dispatched gunzip _ r data).mp handed
    have fits : (size : Int) ≤ max_request_size := forwarded.fits
    have taken : (r.bytes.take size).length ≤ size := List.length_take_le _ _
    unfold Request.decodeContent at decoded
    split at decoded
    · cases decoded
      omega
    · split at decoded
      · rename_i encoding
        unfold gzipDecode at decoded
        split at decoded
        · rename_i inflated read
          split at decoded
          · cases decoded
          · rename_i below
            cases decoded
            by_contra above
            exact flat ⟨size,data,forwarded,encoding,read,Int.not_le.mp above,by omega⟩
        · cases decoded
        · cases decoded
      · cases decoded

-- A hundred blanks, compressed.
def packed : List UInt8 := [31,139,8,0,0,0,0,0,2,3,83,80,160,61,0,0,35,0,111,163,100,0,0,0]

def unpack : Gunzip := fun data limit =>
  if data = packed then .data ((List.replicate 100 32).take limit) else .badFile

def packedRequest : Request :=
  ⟨text "/RPC2",[(text "Content-Length",text "24"),(text "Content-Encoding",text "gzip")],packed,false⟩

theorem packed_exceeds : ∃ data, (buildDefaultHandler 64 none).doPost unpack packedRequest = .dispatched data ∧
    data.length = 100 := by
  refine ⟨List.replicate 100 32,(doPost_dispatched unpack _ packedRequest _).mpr ⟨24,?_,by decide⟩,by decide⟩
  exact ⟨by decide,by decide,by decide,by decide,by decide⟩

end XmlrpcExtended.Handler
