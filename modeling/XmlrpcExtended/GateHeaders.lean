import XmlrpcExtended.PythonNumerals
import XmlrpcExtended.RequestGate

namespace XmlrpcExtended.Handler

-- Optional white space of HTTP.
def ows (c : Nat) : Bool := c == 32 || c == 9

-- The header fields as they were sent; the values that `headers.get` gives are without the white space before them,
-- but with that after them.
def received (fields : List (Text × Text)) : List (Text × Text) := fields.map fun field => (field.1,field.2.dropWhile ows)

def named (name : Text) (field : Text × Text) : Bool := field.1.map lower == name

-- Some Transfer-Encoding field has the coding in its comma-separated list.
def ListsChunked (fields : List (Text × Text)) : Prop :=
  ∃ field ∈ fields, named (text "transfer-encoding") field = true ∧
    ∃ coding ∈ field.2.splitOn 44, (trim ows coding).map lower = text "chunked"

-- The first Transfer-Encoding field has it, and nothing else but white space before it.
def FirstChunked (fields : List (Text × Text)) : Prop :=
  ∃ before field after, fields = before ++ field :: after ∧ (∀ other ∈ before, named (text "transfer-encoding") other = false) ∧
    named (text "transfer-encoding") field = true ∧ (field.2.dropWhile ows).map lower = text "chunked"

theorem header_received {fields : List (Text × Text)} {r : Request} (parsed : r.headers = received fields) (name : Text) :
    r.header name = (fields.find? (named name)).map fun field => field.2.dropWhile ows := by
  rw [Request.header,parsed,received,List.find?_map,Option.map_map]
  rfl

theorem chunked_first {fields : List (Text × Text)} {r : Request} (parsed : r.headers = received fields) :
    r.chunked = true ↔ FirstChunked fields := by
  rw [Request.chunked,header_received parsed,beq_iff_eq]
  constructor
  · intro chunked
    cases found : fields.find? (named (text "transfer-encoding")) with
    | none =>
      rw [found] at chunked
      cases chunked
    | some field =>
      rw [found] at chunked
      obtain ⟨here,before,after,parts,others⟩ := List.find?_eq_some_iff_append.mp found
      exact ⟨before,field,after,parts,fun other member => by simpa using others other member,here,chunked⟩
  · rintro ⟨before,field,after,parts,others,here,chunked⟩
    have found : fields.find? (named (text "transfer-encoding")) = some field :=
      List.find?_eq_some_iff_append.mpr ⟨here,before,after,parts,fun other member => by simp [others other member]⟩
    rw [found]
    exact chunked

theorem chunked_refused (fields : List (Text × Text)) (h : HandlerClass) (r : Request) (parsed : r.headers = received fields) :
    (ListsChunked fields → h.limitedDoPost r = .refused 501 (text "Chunked transfer encoding is not supported")) ↔
      (ListsChunked fields → FirstChunked fields) := by
  apply imp_congr_right
  intro _
  rw [← chunked_first parsed]
  unfold HandlerClass.limitedDoPost
  constructor
  · intro refused
    by_contra unchunked
    rw [if_neg unchunked] at refused
    repeat' split at refused
    all_goals cases refused
  · intro chunked
    rw [if_pos chunked]

-- A blank after the coding is part of the value.
example : (buildDefaultHandler 50 none).limitedDoPost
    ⟨text "/RPC2",received [(text "Transfer-Encoding",text " chunked "),(text "Content-Length",text " 5")],[],false⟩ = .forwarded := by
  decide

-- The Content-Length rules of HTTP.
def expected (max_request_size : Int) : Option Text → Option Nat
  | none => some 411
  | some value =>
    if Decimal value then (if (decimalValue value : Int) ≤ max_request_size then none else some 413) else some 400

def Verdict.code : Verdict → Option Nat
  | .refused code _ => some code
  | .forwarded => none

-- `int` reads the value as HTTP does: digits that are not too many, or nothing that it takes for a natural number.
structure Strict (value : Text) : Prop where
  short : Decimal value → value.length ≤ 4300
  plain : ¬ Decimal value → ∀ negative digits, Numeral value negative digits → digits.length ≤ 4300 →
    negative = true ∧ 0 < digitsValue digits

theorem strict_decimal {value : Text} (decimal : Decimal value) : Strict value ↔ value.length ≤ 4300 :=
  ⟨fun strict => strict.short decimal,fun short => ⟨fun _ => short,fun other => absurd decimal other⟩⟩

theorem signedValue_negative {digits : List Nat} :
    signedValue negative digits < 0 ↔ negative = true ∧ 0 < digitsValue digits := by
  unfold signedValue
  cases negative <;> simp

theorem strict_other {value : Text} (other : ¬ Decimal value) : Strict value ↔ ∀ size, pythonInt value = some size → size < 0 := by
  constructor
  · intro strict size parsed
    obtain ⟨negative,digits,numeral,few,rfl⟩ := pythonInt_numeral.mp parsed
    exact signedValue_negative.mpr (strict.plain other negative digits numeral few)
  · intro below
    refine ⟨fun decimal => absurd decimal other,fun _ negative digits numeral few => ?_⟩
    exact signedValue_negative.mp (below _ (pythonInt_numeral.mpr ⟨negative,digits,numeral,few,rfl⟩))

theorem lengths_strict (h : HandlerClass) (r : Request) (unchunked : r.chunked = false) :
    (h.limitedDoPost r).code = expected h.max_request_size (r.header (text "content-length")) ↔
      ∀ value, r.header (text "content-length") = some value → Strict value := by
  unfold HandlerClass.limitedDoPost
  rw [unchunked]
  cases r.header (text "content-length") with
  | none => simp [expected,Verdict.code]
  | some value =>
    simp only [Bool.false_eq_true,if_false,Option.some.injEq,forall_eq',expected]
    by_cases decimal : Decimal value
    · rw [strict_decimal decimal,pythonInt_decimal decimal,if_pos decimal]
      by_cases short : value.length ≤ 4300
      · refine iff_of_true ?_ short
        have natural : ¬ (decimalValue value : Int) < 0 := by omega
        simp only [short,if_true,natural,if_false]
        by_cases large : (decimalValue value : Int) > h.max_request_size
        · rw [if_pos large,if_neg (by omega)]
          rfl
        · rw [if_neg large,if_pos (by omega)]
          rfl
      · refine iff_of_false ?_ short
        simp only [short,if_false,Verdict.code]
        split <;> simp
    · rw [strict_other decimal,if_neg decimal]
      cases parsed : pythonInt value with
      | none => simp [Verdict.code]
      | some size =>
        simp only [Option.some.injEq,forall_eq']
        by_cases below : size < 0
        · simp [below,Verdict.code]
        · refine iff_of_false ?_ below
          rw [if_neg below]
          split <;> simp [Verdict.code]

def lengthRequest (value : String) : Request := ⟨text "/RPC2",[(text "Content-Length",text value)],[60,63,120,109,108],false⟩

theorem lengths_strict_five :
    ((buildDefaultHandler 5 none).limitedDoPost (lengthRequest "5")).code = expected 5 (some (text "5")) := by
  have strict : Strict (text "5") := (strict_decimal (by decide)).mpr (by decide)
  refine (lengths_strict (buildDefaultHandler 5 none) (lengthRequest "5") (by decide)).mpr fun value same => ?_
  cases same
  exact strict

-- A sign and an underscore.
theorem signed_forwarded : (buildDefaultHandler 50 none).limitedDoPost (lengthRequest "+1_0") = .forwarded ∧
    expected 50 (some (text "+1_0")) = some 400 := by decide

def listedFields : List (Text × Text) :=
  [(text "Content-Length",text "5"),(text "Transfer-Encoding",text "gzip, chunked")]

def listedRequest : Request := ⟨text "/RPC2",received listedFields,[60,63,120,109,108],false⟩

theorem listed_forwarded : ListsChunked listedFields ∧ (buildDefaultHandler 50 none).limitedDoPost listedRequest = .forwarded :=
  ⟨⟨_,.tail _ (.head _),by decide,text " chunked",by decide,by decide⟩,by decide⟩

def upperFields : List (Text × Text) :=
  [(text "Content-Length",text "5"),(text "TRANSFER-Encoding",text "  Chunked"),(text "Transfer-Encoding",text "gzip")]

theorem chunked_refused_upper : (buildDefaultHandler 50 none).limitedDoPost ⟨text "/RPC2",received upperFields,[],false⟩ =
    .refused 501 (text "Chunked transfer encoding is not supported") := by
  have listed : ListsChunked upperFields := ⟨_,.tail _ (.head _),by decide,text "  Chunked",by decide,by decide⟩
  exact (chunked_refused upperFields (buildDefaultHandler 50 none) ⟨text "/RPC2",received upperFields,[],false⟩ rfl).mpr
    (fun _ => ⟨[_],_,[_],rfl,by decide,by decide,by decide⟩) listed

end XmlrpcExtended.Handler
