import XmlrpcExtended.Unmarshaller
import XmlrpcExtended.XmlWriting

namespace XmlrpcExtended.Dispatch
open Xml Charset

-- Objects of the types that the reader knows, all of whose strings fit.
mutual
def Value.within (fits : Text → Bool) : Value → Bool
  | .none | .bool _ | .int _ => true
  | .str t => fits t
  | .array items => itemsWithin fits items
  | .struct members | .inst _ members => membersWithin fits members
  | .double _ | .base64 _ | .dateTime _ | .plain _ _ | .enclosing _ => false

def itemsWithin (fits : Text → Bool) : List Value → Bool
  | [] => true
  | v :: rest => v.within fits && itemsWithin fits rest

def membersWithin (fits : Text → Bool) : List (Option Text × Value) → Bool
  | [] => true
  | (key,v) :: rest => key.all fits && v.within fits && membersWithin fits rest
end

def isText (t : Text) : Bool := t.all isChar

abbrev Value.readable (v : Value) : Bool := v.within isText

def merged (entries : List (Option Text × Value)) : List (Option Text × Value) :=
  entries.foldl (fun seen entry => Unmarshaller.setItem seen entry.1 entry.2) []

-- What the peer gets: line ends are line feeds, an object is a dict of its attributes, and of the
-- entries whose keys have become the same the last is kept.
mutual
def Value.received : Value → Value
  | .str t => .str (newlines false t)
  | .array items => .array (receivedItems items)
  | .struct members | .inst _ members => .struct (merged (receivedMembers members))
  | v => v

def receivedItems : List Value → List Value
  | [] => []
  | v :: rest => v.received :: receivedItems rest

def receivedMembers : List (Option Text × Value) → List (Option Text × Value)
  | [] => []
  | (key,v) :: rest => (key.map (newlines false),v.received) :: receivedMembers rest
end

def keyValue : Option Text → Value
  | some key => .str key
  | none => .none

-- The entries of a dict as they come to stand on the stack.
def receivedEntries (members : List (Option Text × Value)) : List Value :=
  (receivedMembers members).flatMap fun entry => [keyValue entry.1,entry.2]

namespace Unmarshaller

variable {cs : Charset} {u : Unmarshaller}

theorem start_other {tag : Text} (u : Unmarshaller)
    (kind : localName tag ≠ text "array" ∧ localName tag ≠ text "struct" ∧ localName tag ≠ text "value")
    (allowed : u.value = false ∨ localName tag ∈ dispatched) : start tag u = some {u with data := [],value := false} := by
  obtain ⟨array,struct,value⟩ := kind
  have open_ : ¬ (u.value = true ∧ localName tag ∉ dispatched) := by
    rintro ⟨set,unknown⟩
    rcases allowed with clear | known
    · rw [clear] at set
      cases set
    · exact unknown known
  have other : (localName tag == text "value") = false := by simpa using value
  simp only [start,open_,if_false,array,struct,or_false,other]

theorem start_value (u : Unmarshaller) : start (text "value") u = some {u with data := [],value := true} := by
  have known : localName (text "value") ∈ dispatched := by decide
  have kind : ¬ (localName (text "value") = text "array" ∨ localName (text "value") = text "struct") := by decide
  have same : (localName (text "value") == text "value") = true := by decide
  simp only [start,known,not_true_eq_false,and_false,if_false,kind,same]

theorem start_collection {tag : Text} (kind : localName tag = text "array" ∨ localName tag = text "struct") (u : Unmarshaller) :
    start tag u = some {u with marks := u.stack.length :: u.marks,data := [],value := false} := by
  have known : localName tag ∈ dispatched := by
    rcases kind with array | struct
    · rw [array]; decide
    · rw [struct]; decide
  have other : (localName tag == text "value") = false := by
    rcases kind with array | struct
    · rw [array]; decide
    · rw [struct]; decide
  simp only [start,known,not_true_eq_false,and_false,if_false,kind,if_true,other]

theorem stop_value (clear : u.value = false) : stop (text "value") u = some u := by
  change some (if u.value then u.append (.str u.data) else u) = some u
  rw [clear]
  rfl

def pushed (u : Unmarshaller) (items : List Value) (data : Text) : Unmarshaller :=
  {u with stack := u.stack ++ items,data := data,value := false}

-- In front of `</value>` everything has been read.
theorem value_element {document : Text} {v : Value}
    (body : ∃ data, Reads handler document {u with data := [],value := true} (u.pushed [v] data)) :
    ∃ data, Reads handler (opening (text "value") ++ (document ++ closing (text "value"))) u (u.pushed [v] data) := by
  obtain ⟨data,reads⟩ := body
  exact ⟨data,reads.element (by decide) (start_value u) (stop_value rfl)⟩

theorem line_end (u : Unmarshaller) : Reads handler [10] u {u with data := u.data ++ [10]} :=
  Reads.plain u (by decide)

theorem ended {document : Text} {items : List Value} (body : ∃ data, Reads handler document u (u.pushed items data)) :
    ∃ data, Reads handler (document ++ [10]) u (u.pushed items data) := by
  obtain ⟨data,reads⟩ := body
  exact ⟨data ++ [10],reads.append (line_end _)⟩

theorem leaf_read {tag s : Text} {v : Value} (named : isName tag = true)
    (kind : localName tag ≠ text "array" ∧ localName tag ≠ text "struct" ∧ localName tag ≠ text "value")
    (known : localName tag ∈ dispatched) (valid : s.all isChar = true)
    (stopped : ∀ u : Unmarshaller, u.data = newlines false s → stop tag u = some (u.append v)) :
    ∃ data, Reads handler (opening tag ++ (cs.replaced (escaped s) ++ closing tag)) u (u.pushed [v] data) := by
  refine ⟨newlines false s,Reads.leaf cs s named (start_other _ kind (.inr known)) valid ?_⟩
  rw [data_all]
  exact stopped _ rfl

theorem collected {items : List Value} {v : Value} (u : Unmarshaller) (data : Text) (build : List Value → Option Value)
    (made : build items = some v) :
    collect (pushed {u with marks := u.stack.length :: u.marks} items data) build = some (u.pushed [v] data) := by
  have dropped : (u.stack ++ items).drop u.stack.length = items := List.drop_left
  have taken : (u.stack ++ items).take u.stack.length = u.stack := List.take_left
  simp only [collect,pushed,dropped,taken,made,Option.map_some]

theorem array_read {document : Text} {items : List Value}
    (body : ∀ u : Unmarshaller, u.value = false → ∃ data, Reads handler document u (u.pushed items data)) :
    ∃ data, Reads handler (opening (text "array") ++ ((opening (text "data") ++ (([10] ++ document) ++ closing (text "data"))) ++
      closing (text "array"))) u (u.pushed [.array items] data) := by
  obtain ⟨data,reads⟩ := body {u with marks := u.stack.length :: u.marks,data := [10],value := false} rfl
  have gathered : handler.stop (text "array") (pushed {u with marks := u.stack.length :: u.marks} items data) =
      some (u.pushed [.array items] data) := collected u data (fun items => some (.array items)) rfl
  refine ⟨data,Reads.element (by decide) (start_collection (.inl (by decide)) u) ?_ gathered⟩
  have kind : localName (text "data") ≠ text "array" ∧ localName (text "data") ≠ text "struct" ∧
      localName (text "data") ≠ text "value" := by decide
  apply Reads.element (by decide) (start_other _ kind (.inl rfl)) ((line_end _).append reads)
  rfl

theorem struct_read {document : Text} {entries : List Value} {members : List (Option Text × Value)}
    (body : ∀ u : Unmarshaller, u.value = false → ∃ data, Reads handler document u (u.pushed entries data))
    (made : dictOf [] entries = some members) :
    ∃ data, Reads handler (opening (text "struct") ++ (([10] ++ document) ++ closing (text "struct"))) u
      (u.pushed [.struct members] data) := by
  obtain ⟨data,reads⟩ := body {u with marks := u.stack.length :: u.marks,data := [10],value := false} rfl
  have built : (dictOf [] entries).map Value.struct = some (.struct members) := by rw [made]; rfl
  have gathered : handler.stop (text "struct") (pushed {u with marks := u.stack.length :: u.marks} entries data) =
      some (u.pushed [.struct members] data) := collected u data (fun items => (dictOf [] items).map .struct) built
  exact ⟨data,Reads.element (by decide) (start_collection (.inr (by decide)) u) ((line_end _).append reads) gathered⟩

theorem pushed_again (u : Unmarshaller) (first later : List Value) (data others : Text) :
    (u.pushed first data).pushed later others = u.pushed (first ++ later) others := by
  simp only [pushed,List.append_assoc]

theorem pushed_nothing (clear : u.value = false) : u.pushed [] u.data = u := by
  obtain ⟨type,stack,marks,data,value,methodname⟩ := u
  cases clear
  simp only [pushed,List.append_nil]

theorem next_read {first later : Text} {items others : List Value} (one : ∃ data, Reads handler first u (u.pushed items data))
    (rest : ∀ u : Unmarshaller, u.value = false → ∃ data, Reads handler later u (u.pushed others data)) :
    ∃ data, Reads handler (first ++ later) u (u.pushed (items ++ others) data) := by
  obtain ⟨data,reads⟩ := one
  obtain ⟨last,following⟩ := rest (u.pushed items data) rfl
  rw [pushed_again] at following
  exact ⟨last,reads.append following⟩

-- The children of an element whose own tags are not dispatched.
theorem wrapped {tag document : Text} {items : List Value} (named : isName tag = true) (unknown : localName tag ∉ dispatched)
    (same : tag ∉ dispatched) (clear : u.value = false)
    (body : ∀ u : Unmarshaller, u.value = false → ∃ data, Reads handler document u (u.pushed items data)) :
    ∃ data, Reads handler (opening tag ++ (([10] ++ document) ++ closing tag)) u (u.pushed items data) := by
  obtain ⟨data,reads⟩ := body {u with data := [10],value := false} rfl
  have kind : localName tag ≠ text "array" ∧ localName tag ≠ text "struct" ∧ localName tag ≠ text "value" := by
    refine ⟨?_,?_,?_⟩
    · intro equal; rw [equal] at unknown; exact unknown (by decide)
    · intro equal; rw [equal] at unknown; exact unknown (by decide)
    · intro equal; rw [equal] at unknown; exact unknown (by decide)
  refine ⟨data,Reads.element named (start_other _ kind (.inl clear)) ((line_end _).append reads) ?_⟩
  simp only [handler,stop,same,if_false,unknown,not_false_eq_true,if_true]
  rfl

-- A dict is read entry by entry.
theorem dictOf_entries {entries : List (Option Text × Value)}
    (strings : ∀ entry ∈ entries, entry.1.isSome) (seen : List (Option Text × Value)) :
    dictOf seen (entries.flatMap fun entry => [keyValue entry.1,entry.2]) =
      some (entries.foldl (fun seen entry => setItem seen entry.1 entry.2) seen) := by
  induction entries generalizing seen with
  | nil => rfl
  | cons entry rest ih =>
    obtain ⟨key,v⟩ := entry
    cases key with
    | none => cases strings _ List.mem_cons_self
    | some key => exact ih (fun entry member => strings entry (List.mem_cons_of_mem _ member)) _

end Unmarshaller

open Unmarshaller

theorem escaped_same {s : Text} (plain : ∀ c ∈ s, entity c = [c]) : escaped s = s := by
  induction s with
  | nil => rfl
  | cons c rest ih =>
    change entity c ++ escaped rest = c :: rest
    rw [plain c List.mem_cons_self,ih fun d member => plain d (List.mem_cons_of_mem _ member)]
    rfl

section
variable {cs : Charset} {u : Unmarshaller}

theorem literal {t parts : Text} (same : t = parts) (ascii : ∀ c ∈ t, c < 128) : cs.replaced t = parts := by
  rw [replaced_ascii ascii,same]

theorem scalar_read {tag s front back : Text} {v : Value} (opens : front = opening (text "value") ++ opening tag)
    (closes : back = closing tag ++ (closing (text "value") ++ [10])) (ascii : ∀ c ∈ front ++ back, c < 128)
    (named : isName tag = true)
    (kind : localName tag ≠ text "array" ∧ localName tag ≠ text "struct" ∧ localName tag ≠ text "value")
    (known : localName tag ∈ dispatched) (valid : s.all isChar = true)
    (stopped : ∀ u : Unmarshaller, u.data = newlines false s → stop tag u = some (u.append v)) :
    ∃ data, Reads handler (cs.replaced (front ++ escaped s ++ back)) u (u.pushed [v] data) := by
  have parts : cs.replaced (front ++ escaped s ++ back) = (opening (text "value") ++
      ((opening tag ++ (cs.replaced (escaped s) ++ closing tag)) ++ closing (text "value"))) ++ [10] := by
    rw [replaced_append,replaced_append,literal opens fun c member => ascii c (List.mem_append_left _ member),
      literal closes fun c member => ascii c (List.mem_append_right _ member)]
    simp only [List.append_assoc]
  rw [parts]
  exact ended (value_element (leaf_read named kind known valid stopped))

theorem nil_read : ∃ data, Reads handler (cs.replaced (text "<value><nil/></value>")) u (u.pushed [.none] data) := by
  have parts : text "<value><nil/></value>" = opening (text "value") ++ (empty (text "nil") ++ closing (text "value")) := by decide
  have kind : localName (text "nil") ≠ text "array" ∧ localName (text "nil") ≠ text "struct" ∧
      localName (text "nil") ≠ text "value" := by decide
  have started : handler.start (text "nil") {u with data := [],value := true} = some {u with data := [],value := false} :=
    start_other {u with data := [],value := true} kind (.inr (by decide))
  rw [replaced_ascii (by decide),parts]
  exact value_element ⟨[],Reads.single (by decide) started rfl⟩

theorem array_value {items : List Value} {data : Text}
    (body : ∀ u : Unmarshaller, u.value = false → ∃ last, Reads handler (cs.replaced data) u (u.pushed items last)) :
    ∃ last, Reads handler (cs.replaced (text "<value><array><data>\n" ++ data ++ text "</data></array></value>\n")) u
      (u.pushed [.array items] last) := by
  have opens : cs.replaced (text "<value><array><data>\n") =
      opening (text "value") ++ (opening (text "array") ++ (opening (text "data") ++ [10])) := literal (by decide) (by decide)
  have closes : cs.replaced (text "</data></array></value>\n") =
      closing (text "data") ++ (closing (text "array") ++ (closing (text "value") ++ [10])) := literal (by decide) (by decide)
  have parts : cs.replaced (text "<value><array><data>\n" ++ data ++ text "</data></array></value>\n") =
      (opening (text "value") ++ ((opening (text "array") ++ ((opening (text "data") ++
        (([10] ++ cs.replaced data) ++ closing (text "data"))) ++ closing (text "array"))) ++ closing (text "value"))) ++ [10] := by
    rw [replaced_append,replaced_append,opens,closes]
    simp only [List.append_assoc]
  rw [parts]
  exact ended (value_element (array_read body))

theorem struct_value {entries : List Value} {members : List (Option Text × Value)} {data : Text}
    (body : ∀ u : Unmarshaller, u.value = false → ∃ last, Reads handler (cs.replaced data) u (u.pushed entries last))
    (made : dictOf [] entries = some members) :
    ∃ last, Reads handler (cs.replaced (text "<value><struct>\n" ++ data ++ text "</struct></value>\n")) u
      (u.pushed [.struct members] last) := by
  have opens : cs.replaced (text "<value><struct>\n") = opening (text "value") ++ (opening (text "struct") ++ [10]) :=
    literal (by decide) (by decide)
  have closes : cs.replaced (text "</struct></value>\n") = closing (text "struct") ++ (closing (text "value") ++ [10]) :=
    literal (by decide) (by decide)
  have parts : cs.replaced (text "<value><struct>\n" ++ data ++ text "</struct></value>\n") =
      (opening (text "value") ++ ((opening (text "struct") ++ (([10] ++ cs.replaced data) ++ closing (text "struct"))) ++
        closing (text "value"))) ++ [10] := by
    rw [replaced_append,replaced_append,opens,closes]
    simp only [List.append_assoc]
  rw [parts]
  exact ended (value_element (struct_read body made))

theorem member_read {key data : Text} {v : Value} (valid : key.all isChar = true) (clear : u.value = false)
    (body : ∀ u : Unmarshaller, u.value = false → ∃ last, Reads handler (cs.replaced data) u (u.pushed [v] last)) :
    ∃ last, Reads handler
      (cs.replaced (text "<member>\n<name>" ++ escape key ++ text "</name>\n" ++ data ++ text "</member>\n")) u
      (u.pushed [.str (newlines false key),v] last) := by
  have opens : cs.replaced (text "<member>\n<name>") = opening (text "member") ++ ([10] ++ opening (text "name")) :=
    literal (by decide) (by decide)
  have between : cs.replaced (text "</name>\n") = closing (text "name") ++ [10] := literal (by decide) (by decide)
  have closes : cs.replaced (text "</member>\n") = closing (text "member") ++ [10] := literal (by decide) (by decide)
  have parts : cs.replaced (text "<member>\n<name>" ++ escape key ++ text "</name>\n" ++ data ++ text "</member>\n") =
      (opening (text "member") ++ (([10] ++ (((opening (text "name") ++ (cs.replaced (escaped key) ++ closing (text "name"))) ++ [10]) ++
        cs.replaced data)) ++ closing (text "member"))) ++ [10] := by
    rw [replaced_append,replaced_append,replaced_append,replaced_append,opens,between,closes]
    simp only [List.append_assoc]
    rfl
  have stopped : ∀ u : Unmarshaller, u.data = newlines false key →
      stop (text "name") u = some (u.append (.str (newlines false key))) := by
    intro u held
    rw [← held]
    rfl
  rw [parts]
  apply ended
  apply wrapped (by decide) (by decide) (by decide) clear
  intro u clear
  exact next_read (ended (leaf_read (by decide) (by decide) (by decide) valid stopped)) body

end

theorem bind_ok {ε α β : Type} {first : Except ε α} {rest : α → Except ε β} {last : β} (ran : first >>= rest = .ok last) :
    ∃ middle, first = .ok middle ∧ rest middle = .ok last := by
  cases first with
  | error e => cases ran
  | ok middle => exact ⟨middle,rfl,ran⟩

theorem items_dumped {allow_none : Bool} {v : Value} {rest : List Value} {data : Text}
    (dumped : dumpItems allow_none (v :: rest) = .ok data) :
    ∃ front back, dump allow_none v = .ok front ∧ dumpItems allow_none rest = .ok back ∧ data = front ++ back := by
  unfold dumpItems at dumped
  obtain ⟨front,first,remaining⟩ := bind_ok dumped
  obtain ⟨back,later,same⟩ := bind_ok remaining
  cases same
  exact ⟨front,back,first,later,rfl⟩

theorem members_dumped {allow_none : Bool} {key : Option Text} {v : Value} {rest : List (Option Text × Value)} {data : Text}
    (dumped : dumpMembers allow_none ((key,v) :: rest) = .ok data) :
    ∃ name front back, key = some name ∧ dump allow_none v = .ok front ∧ dumpMembers allow_none rest = .ok back ∧
      data = text "<member>\n<name>" ++ escape name ++ text "</name>\n" ++ front ++ text "</member>\n" ++ back := by
  cases key with
  | none => cases dumped
  | some name =>
    unfold dumpMembers at dumped
    obtain ⟨front,first,remaining⟩ := bind_ok dumped
    obtain ⟨back,later,same⟩ := bind_ok remaining
    cases same
    exact ⟨name,front,back,rfl,first,later,rfl⟩

theorem array_dumped {allow_none : Bool} {items : List Value} {data : Text} (dumped : dump allow_none (.array items) = .ok data) :
    ∃ inner, dumpItems allow_none items = .ok inner ∧
      data = text "<value><array><data>\n" ++ inner ++ text "</data></array></value>\n" := by
  unfold dump at dumped
  obtain ⟨inner,made,same⟩ := bind_ok dumped
  cases same
  exact ⟨inner,made,rfl⟩

theorem struct_dumped {allow_none : Bool} {members : List (Option Text × Value)} {data : Text}
    (dumped : dump allow_none (.struct members) = .ok data) :
    ∃ inner, dumpMembers allow_none members = .ok inner ∧
      data = text "<value><struct>\n" ++ inner ++ text "</struct></value>\n" := by
  unfold dump at dumped
  obtain ⟨inner,made,same⟩ := bind_ok dumped
  cases same
  exact ⟨inner,made,rfl⟩

theorem inst_dumped {allow_none : Bool} {id : Nat} {members : List (Option Text × Value)} :
    dump allow_none (.inst id members) = dump allow_none (.struct members) := by
  unfold dump
  rfl

theorem members_strings {allow_none : Bool} {members : List (Option Text × Value)} {data : Text}
    (dumped : dumpMembers allow_none members = .ok data) : ∀ entry ∈ receivedMembers members, entry.1.isSome := by
  induction members generalizing data with
  | nil => exact fun _ member => nomatch member
  | cons entry rest ih =>
    obtain ⟨key,v⟩ := entry
    obtain ⟨name,_,_,rfl,_,later,_⟩ := members_dumped dumped
    intro entry member
    rcases List.mem_cons.mp member with rfl | inside
    · rfl
    · exact ih later entry inside

theorem flattened (members : List (Option Text × Value)) : ∀ key v, receivedEntries ((some key,v) :: members) =
    [.str (newlines false key),v.received] ++ receivedEntries members := fun _ _ => rfl

-- Over the value, one case for each kind; what is on the stack already stays below.
mutual
theorem value_read (cs : Charset) (allow_none : Bool) : ∀ (v : Value) {data : Text}, v.readable = true →
    dump allow_none v = .ok data → ∀ u : Unmarshaller, ∃ last, Reads handler (cs.replaced data) u (u.pushed [v.received] last)
  | .none,data,_,dumped,u => by
    unfold dump at dumped
    split at dumped
    · cases dumped
      exact nil_read
    · cases dumped
  | .bool b,data,_,dumped,u => by
    unfold dump at dumped
    cases dumped
    have stopped : ∀ u : Unmarshaller, u.data = newlines false (text (if b then "1" else "0")) →
        stop (text "boolean") u = some (u.append (.bool b)) := by
      intro u held
      obtain ⟨type,stack,marks,data,value,methodname⟩ := u
      cases held
      cases b <;> rfl
    have shown : escaped (text (if b then "1" else "0")) = text (if b then "1" else "0") := by cases b <;> decide
    rw [← shown]
    exact scalar_read (by decide) (by decide) (by decide) (by decide) (by decide) (by decide) (by cases b <;> decide) stopped
  | .int i,data,_,dumped,u => by
    unfold dump at dumped
    split at dumped
    · cases dumped
    · rename_i inside
      cases dumped
      have small : i.natAbs < 10 ^ 10 := by
        simp only [MAXINT,MININT] at inside
        omega
      have plain : ∀ c ∈ text (toString i), isChar c = true ∧ c ≠ 13 ∧ entity c = [c] := fun c => shown_plain i
      have kept : newlines false (text (toString i)) = text (toString i) :=
        newlines_same.mpr fun member => (plain 13 member).2.1 rfl
      have stopped : ∀ u : Unmarshaller, u.data = newlines false (text (toString i)) →
          stop (text "int") u = some (u.append (.int i)) := by
        intro u held
        rw [kept] at held
        change (pythonInt u.data).map _ = _
        rw [held,pythonInt_toString i small]
        rfl
      have shown := escaped_same fun c member => (plain c member).2.2
      rw [← shown]
      exact scalar_read (by decide) (by decide) (by decide) (by decide) (by decide) (by decide)
        (List.all_eq_true.mpr fun c member => (plain c member).1) stopped
  | .str t,data,readable,dumped,u => by
    unfold dump at dumped
    cases dumped
    have stopped : ∀ u : Unmarshaller, u.data = newlines false t →
        stop (text "string") u = some (u.append (.str (newlines false t))) := by
      intro u held
      rw [← held]
      rfl
    exact scalar_read (by decide) (by decide) (by decide) (by decide) (by decide) (by decide) readable stopped
  | .array items,data,readable,dumped,u => by
    obtain ⟨inner,made,rfl⟩ := array_dumped dumped
    exact array_value (items_read cs allow_none items readable made)
  | .struct members,data,readable,dumped,u => by
    obtain ⟨inner,made,rfl⟩ := struct_dumped dumped
    exact struct_value (members_read cs allow_none members readable made) (dictOf_entries (members_strings made) [])
  | .inst id members,data,readable,dumped,u => by
    obtain ⟨inner,made,rfl⟩ := struct_dumped (inst_dumped.symm.trans dumped)
    exact struct_value (members_read cs allow_none members readable made) (dictOf_entries (members_strings made) [])
  | .double _,_,readable,_,_ | .base64 _,_,readable,_,_ | .dateTime _,_,readable,_,_
  | .plain _ _,_,readable,_,_ | .enclosing _,_,readable,_,_ => by cases readable

theorem items_read (cs : Charset) (allow_none : Bool) : ∀ (items : List Value) {data : Text}, itemsWithin isText items = true →
    dumpItems allow_none items = .ok data → ∀ u : Unmarshaller, u.value = false →
    ∃ last, Reads handler (cs.replaced data) u (u.pushed (receivedItems items) last)
  | [],data,_,dumped,u,clear => by
    cases dumped
    refine ⟨u.data,?_⟩
    change Reads handler [] u (u.pushed [] u.data)
    rw [pushed_nothing clear]
    exact Reads.nil
  | v :: rest,data,readable,dumped,u,_ => by
    obtain ⟨one,others⟩ := Bool.and_eq_true_iff.mp readable
    obtain ⟨front,back,first,later,rfl⟩ := items_dumped dumped
    rw [replaced_append]
    exact next_read (value_read cs allow_none v one first u) (items_read cs allow_none rest others later)

theorem members_read (cs : Charset) (allow_none : Bool) : ∀ (members : List (Option Text × Value)) {data : Text},
    membersWithin isText members = true → dumpMembers allow_none members = .ok data → ∀ u : Unmarshaller, u.value = false →
    ∃ last, Reads handler (cs.replaced data) u (u.pushed (receivedEntries members) last)
  | [],data,_,dumped,u,clear => by
    cases dumped
    refine ⟨u.data,?_⟩
    change Reads handler [] u (u.pushed [] u.data)
    rw [pushed_nothing clear]
    exact Reads.nil
  | (key,v) :: rest,data,readable,dumped,u,clear => by
    obtain ⟨front,others⟩ := Bool.and_eq_true_iff.mp readable
    obtain ⟨valid,one⟩ := Bool.and_eq_true_iff.mp front
    obtain ⟨name,front,back,rfl,first,later,rfl⟩ := members_dumped dumped
    rw [replaced_append,flattened]
    exact next_read (member_read valid clear fun u _ => value_read cs allow_none v one first u)
      (members_read cs allow_none rest others later)
end

theorem framed {front back s : Text} (around : front.all isChar = true ∧ back.all isChar = true) :
    (front ++ s ++ back).all isChar = s.all isChar := by
  simp only [List.all_append,around,Bool.true_and,Bool.and_true]

-- A document has the characters of every string in it, and of its own only what XML has.
mutual
theorem value_chars (allow_none : Bool) : ∀ (v : Value) {data : Text}, v.within (fun _ => true) = true →
    dump allow_none v = .ok data → data.all isChar = v.readable
  | .none,data,_,dumped => by
    unfold dump at dumped
    split at dumped
    · cases dumped
      decide
    · cases dumped
  | .bool b,data,_,dumped => by
    unfold dump at dumped
    cases dumped
    rw [framed (by decide)]
    cases b <;> decide
  | .int i,data,_,dumped => by
    unfold dump at dumped
    split at dumped
    · cases dumped
    · cases dumped
      rw [framed (by decide)]
      exact List.all_eq_true.mpr fun c member => (shown_plain i member).1
  | .str t,data,_,dumped => by
    unfold dump at dumped
    cases dumped
    rw [framed (by decide)]
    exact escaped_chars t
  | .array items,data,typed,dumped => by
    obtain ⟨inner,made,rfl⟩ := array_dumped dumped
    rw [framed (by decide)]
    exact items_chars allow_none items typed made
  | .struct members,data,typed,dumped => by
    obtain ⟨inner,made,rfl⟩ := struct_dumped dumped
    rw [framed (by decide)]
    exact members_chars allow_none members typed made
  | .inst id members,data,typed,dumped => by
    obtain ⟨inner,made,rfl⟩ := struct_dumped (inst_dumped.symm.trans dumped)
    rw [framed (by decide)]
    exact members_chars allow_none members typed made
  | .double _,_,typed,_ | .base64 _,_,typed,_ | .dateTime _,_,typed,_
  | .plain _ _,_,typed,_ | .enclosing _,_,typed,_ => by cases typed

theorem items_chars (allow_none : Bool) : ∀ (items : List Value) {data : Text}, itemsWithin (fun _ => true) items = true →
    dumpItems allow_none items = .ok data → data.all isChar = itemsWithin isText items
  | [],_,_,dumped => by
    cases dumped
    rfl
  | v :: rest,data,typed,dumped => by
    obtain ⟨one,others⟩ := Bool.and_eq_true_iff.mp typed
    obtain ⟨front,back,first,later,rfl⟩ := items_dumped dumped
    rw [List.all_append,value_chars allow_none v one first,items_chars allow_none rest others later,itemsWithin]

theorem members_chars (allow_none : Bool) : ∀ (members : List (Option Text × Value)) {data : Text},
    membersWithin (fun _ => true) members = true → dumpMembers allow_none members = .ok data →
    data.all isChar = membersWithin isText members
  | [],_,_,dumped => by
    cases dumped
    rfl
  | (key,v) :: rest,data,typed,dumped => by
    obtain ⟨front,others⟩ := Bool.and_eq_true_iff.mp typed
    obtain ⟨_,one⟩ := Bool.and_eq_true_iff.mp front
    obtain ⟨name,front,back,rfl,first,later,rfl⟩ := members_dumped dumped
    have fixed : (text "<member>\n<name>").all isChar = true ∧ (text "</name>\n").all isChar = true ∧
        (text "</member>\n").all isChar = true := by decide
    have written : (escape name).all isChar = isText name := escaped_chars name
    simp only [List.all_append,fixed,written,value_chars allow_none v one first,members_chars allow_none rest others later,
      membersWithin,Option.all_some,Bool.true_and,Bool.and_true]
end

-- No object among them, and each dict with its keys apart.
mutual
def Value.native : Value → Bool
  | .array items => itemsNative items
  | .struct members => decide (members.map (·.1)).Nodup && membersNative members
  | .inst _ _ => false
  | _ => true

def itemsNative : List Value → Bool
  | [] => true
  | v :: rest => v.native && itemsNative rest

def membersNative : List (Option Text × Value) → Bool
  | [] => true
  | (_,v) :: rest => v.native && membersNative rest
end

theorem merged_distinct {members : List (Option Text × Value)} (distinct : (members.map (·.1)).Nodup) : merged members = members := by
  have built : ∀ (rest seen : List (Option Text × Value)), ((seen ++ rest).map (·.1)).Nodup →
      rest.foldl (fun seen entry => Unmarshaller.setItem seen entry.1 entry.2) seen = seen ++ rest := by
    intro rest
    induction rest with
    | nil => simp
    | cons entry rest ih =>
      intro seen apart
      have fresh : seen.any (·.1 == entry.1) = false := by
        rw [List.map_append,List.nodup_append] at apart
        rw [List.any_eq_false]
        intro other member
        have separate := apart.2.2 other.1 (List.mem_map_of_mem member) entry.1 (by simp)
        simpa using separate
      have added : Unmarshaller.setItem seen entry.1 entry.2 = seen ++ [entry] := by
        simp [Unmarshaller.setItem,fresh]
      rw [List.foldl_cons,added,ih _ (by simpa using apart)]
      simp
  exact built members [] (by simpa using distinct)

def isPlain (t : Text) : Bool := t.all (· != 13)

theorem newlines_plain {t : Text} (plain : isPlain t = true) : newlines false t = t := by
  apply newlines_same.mpr
  intro member
  have other := List.all_eq_true.mp plain 13 member
  cases other

mutual
theorem received_same : ∀ (v : Value), v.within isPlain = true → v.native = true → v.received = v
  | .none,_,_ | .bool _,_,_ | .int _,_,_ => rfl
  | .str t,plain,_ => congrArg Value.str (newlines_plain plain)
  | .array items,plain,native => congrArg Value.array (items_same items plain native)
  | .struct members,plain,native => by
    obtain ⟨distinct,inside⟩ := Bool.and_eq_true_iff.mp native
    have same := members_same members plain inside
    change Value.struct (merged (receivedMembers members)) = _
    rw [same,merged_distinct (of_decide_eq_true distinct)]
  | .inst _ _,_,native => by cases native
  | .double _,plain,_ | .base64 _,plain,_ | .dateTime _,plain,_ | .plain _ _,plain,_ | .enclosing _,plain,_ => by cases plain

theorem items_same : ∀ (items : List Value), itemsWithin isPlain items = true → itemsNative items = true →
    receivedItems items = items
  | [],_,_ => rfl
  | v :: rest,plain,native => by
    obtain ⟨one,others⟩ := Bool.and_eq_true_iff.mp plain
    obtain ⟨first,later⟩ := Bool.and_eq_true_iff.mp native
    rw [receivedItems,received_same v one first,items_same rest others later]

theorem members_same : ∀ (members : List (Option Text × Value)), membersWithin isPlain members = true →
    membersNative members = true → receivedMembers members = members
  | [],_,_ => rfl
  | (key,v) :: rest,plain,native => by
    obtain ⟨front,others⟩ := Bool.and_eq_true_iff.mp plain
    obtain ⟨name,one⟩ := Bool.and_eq_true_iff.mp front
    obtain ⟨first,later⟩ := Bool.and_eq_true_iff.mp native
    have kept : key.map (newlines false) = key := by
      cases key with
      | none => rfl
      | some t => exact congrArg some (newlines_plain name)
    rw [receivedMembers,kept,received_same v one first,members_same rest others later]
end

end XmlrpcExtended.Dispatch
