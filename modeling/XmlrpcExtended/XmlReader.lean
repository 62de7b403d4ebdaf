import Mathlib.Data.List.Chain
import XmlrpcExtended.PythonText

namespace XmlrpcExtended.Xml

variable {σ : Type}

-- XML 1.0, production 2.
def isChar (c : Nat) : Bool :=
  c == 9 || c == 10 || c == 13 || (32 ≤ c && c ≤ 55295) || (57344 ≤ c && c ≤ 65533) || (65536 ≤ c && c ≤ 1114111)

def isSpace (c : Nat) : Bool := c == 9 || c == 10 || c == 13 || c == 32

def isLetter (c : Nat) : Bool := (65 ≤ c && c ≤ 90) || (97 ≤ c && c ≤ 122)

def isDecimal (c : Nat) : Bool := 48 ≤ c && c ≤ 57

def nameChar (c : Nat) : Bool := isLetter c || isDecimal c || c == 95 || c == 58 || c == 46 || c == 45

def isName (name : Text) : Bool :=
  name.all nameChar && name.head?.any fun c => isLetter c || c == 95 || c == 58

-- Production 81, the names an XML declaration may give an encoding.
def isEncodingName (name : Text) : Bool :=
  name.all (fun c => isLetter c || isDecimal c || c == 95 || c == 46 || c == 45) && name.head?.any isLetter

-- What the reader calls for a start tag, a character of the data and an end tag.
structure Handler (σ : Type) where
  start : Text → σ → Option σ
  data : Nat → σ → σ
  stop : Text → σ → Option σ

-- `returned` comes after a carriage return, which a following line feed belongs to.
inductive Mode where
  | content
  | returned
  | markup (inside : Text)
  | reference (name : Text)
  deriving DecidableEq, Repr

structure Reader (σ : Type) where
  mode : Mode
  opened : List Text
  begun : Bool
  rooted : Bool
  target : σ

def numberOf (base : Nat) (digit : Nat → Option Nat) (name : Text) : Option Nat :=
  if name = [] then none
  else name.foldlM (fun n c => (digit c).map fun d => base * n + d) 0

def decimalDigit (c : Nat) : Option Nat := if isDecimal c then some (c - 48) else none

def hexDigit (c : Nat) : Option Nat :=
  if isDecimal c then some (c - 48)
  else if 97 ≤ c && c ≤ 102 then some (c - 87)
  else if 65 ≤ c && c ≤ 70 then some (c - 55)
  else none

def resolve (name : Text) : Option Nat :=
  if name = text "amp" then some 38
  else if name = text "lt" then some 60
  else if name = text "gt" then some 62
  else if name = text "quot" then some 34
  else if name = text "apos" then some 39
  else
    match name with
    | 35 :: 120 :: digits => (numberOf 16 hexDigit digits).filter isChar
    | 35 :: digits => (numberOf 10 decimalDigit digits).filter isChar
    | _ => none

def declarationOf (encoding : Text) : Text := text "?xml version='1.0' encoding='" ++ encoding ++ text "'?"

def declaredName (inside : Text) : Text :=
  ((inside.drop (text "?xml version='1.0' encoding='").length).dropLast).dropLast

def isDeclaration (inside : Text) : Bool :=
  inside == text "?xml version='1.0'?" ||
    (inside == declarationOf (declaredName inside) && isEncodingName (declaredName inside))

def Reader.startElement (h : Handler σ) (r : Reader σ) (name : Text) : Option (Reader σ) :=
  if isName name = false ∨ (r.opened = [] ∧ r.rooted = true) then none
  else (h.start name r.target).map fun target => {r with opened := name :: r.opened,rooted := true,target := target}

def Reader.endElement (h : Handler σ) (r : Reader σ) (name : Text) : Option (Reader σ) :=
  match r.opened with
  | [] => none
  | top :: rest =>
    if name = top then (h.stop name r.target).map fun target => {r with opened := rest,target := target} else none

-- What stands between `<` and `>`: a name alone, or the declaration before anything else. Documents with
-- attributes, comments, CDATA sections, processing instructions or a DOCTYPE are not read.
def Reader.tag (h : Handler σ) (r : Reader σ) (inside : Text) : Option (Reader σ) :=
  match inside with
  | 63 :: _ => if r.begun = false ∧ isDeclaration inside = true then some {r with begun := true} else none
  | 47 :: name => Reader.endElement h {r with begun := true} name
  | _ =>
    if inside.getLast? = some 47 then
      (Reader.startElement h {r with begun := true} inside.dropLast).bind fun r => r.endElement h inside.dropLast
    else Reader.startElement h {r with begun := true} inside

-- Outside the root element there are blanks only.
def Reader.character (h : Handler σ) (r : Reader σ) (c : Nat) : Option (Reader σ) :=
  if r.opened = [] then (if isSpace c then some {r with begun := true} else none)
  else some {r with begun := true,target := h.data c r.target}

def Reader.content (h : Handler σ) (r : Reader σ) (c : Nat) : Option (Reader σ) :=
  if c = 60 then some {r with mode := .markup []}
  else if c = 38 then some {r with mode := .reference []}
  else if c = 13 then Reader.character h {r with mode := .returned} 10
  else if isChar c then Reader.character h {r with mode := .content} c
  else none

def Reader.feed (h : Handler σ) (r : Reader σ) (c : Nat) : Option (Reader σ) :=
  match r.mode with
  | .content => r.content h c
  | .returned => if c = 10 then some {r with mode := .content} else r.content h c
  | .markup inside =>
    if c = 62 then Reader.tag h {r with mode := .content} inside
    else if isChar c then some {r with mode := .markup (inside ++ [c])}
    else none
  | .reference name =>
    if c = 59 then
      if r.opened = [] then none
      else (resolve name).map fun c => {r with mode := .content,target := h.data c r.target}
    else if isChar c then some {r with mode := .reference (name ++ [c])}
    else none

def Reader.run (h : Handler σ) (r : Reader σ) (document : Text) : Option (Reader σ) := document.foldlM (Reader.feed h) r

def Reader.init (target : σ) : Reader σ := ⟨.content,[],false,false,target⟩

def Reader.finished (r : Reader σ) : Bool :=
  (r.mode == .content || r.mode == .returned) && r.opened.isEmpty && r.rooted

-- `]]>`, which no character data has. Comments and CDATA sections, where it may stand, are not read here.
def closesSection : Text → Bool
  | [] => false
  | c :: rest => Text.startsWith (c :: rest) (text "]]>") || closesSection rest

def read (h : Handler σ) (target : σ) (document : Text) : Option σ :=
  if closesSection document then none
  else ((Reader.init target).run h document).bind fun r => if r.finished then some r.target else none

theorem read_ran {h : Handler σ} (made : read h target document = some last) :
    ∃ r, (Reader.init target).run h document = some r ∧ r.finished = true ∧ r.target = last := by
  unfold read at made
  split at made
  · cases made
  · obtain ⟨r,ran,same⟩ := Option.bind_eq_some_iff.mp made
    split at same <;> cases same
    exact ⟨r,ran,‹_›,rfl⟩

-- Put after anything, it brings no `]` before a `>`.
structure Unclosed (t : Text) : Prop where
  front : t.head? ≠ some 62
  apart : t.IsChain fun c d => ¬ (c = 93 ∧ d = 62)

theorem Unclosed.append (first : Unclosed s) (second : Unclosed t) : Unclosed (s ++ t) := by
  refine ⟨?_,first.apart.append second.apart ?_⟩
  · cases s with
    | nil => exact second.front
    | cons c rest => exact first.front
  · rintro c _ d leads ⟨_,rfl⟩
    exact second.front leads

theorem unclosed_plain {t : Text} (front : t.head? ≠ some 62) (plain : 93 ∉ t) : Unclosed t := by
  refine ⟨front,?_⟩
  clear front
  induction t with
  | nil => exact .nil
  | cons c rest ih =>
    obtain ⟨other,inside⟩ := not_or.mp fun member => plain (List.mem_cons.mpr member)
    cases rest with
    | nil => exact .singleton c
    | cons d rest => exact List.isChain_cons_cons.mpr ⟨fun both => other both.1.symm,ih inside⟩

theorem unclosed_text {t : Text} (plain : 62 ∉ t) : Unclosed t := by
  refine ⟨fun leads => plain (List.mem_of_head? leads),?_⟩
  induction t with
  | nil => exact .nil
  | cons c rest ih =>
    obtain ⟨_,inside⟩ := not_or.mp fun member => plain (List.mem_cons.mpr member)
    cases rest with
    | nil => exact .singleton c
    | cons d rest => exact List.isChain_cons_cons.mpr ⟨fun both => inside (by simp [both.2]),ih inside⟩

theorem Unclosed.closes {t : Text} (unclosed : Unclosed t) : closesSection t = false := by
  have apart := unclosed.apart
  clear unclosed
  induction t with
  | nil => rfl
  | cons c rest ih =>
    rw [closesSection,ih apart.tail,Bool.or_false]
    by_contra closes
    have leads : text "]]>" <+: c :: rest := List.isPrefixOf_iff_prefix.mp (by simpa [Text.startsWith] using closes)
    have chained := List.IsChain.prefix apart leads
    exact absurd chained (by decide)

theorem read_unclosed (unclosed : Unclosed document) (h : Handler σ) (target : σ) :
    read h target document = ((Reader.init target).run h document).bind fun r => if r.finished then some r.target else none := by
  rw [read,unclosed.closes]
  rfl

theorem run_append (h : Handler σ) (r : Reader σ) (first second : Text) :
    r.run h (first ++ second) = (r.run h first).bind fun r => r.run h second := by
  simp only [Reader.run,List.foldlM_append]
  rfl

theorem run_cons (h : Handler σ) (r : Reader σ) (c : Nat) (rest : Text) :
    r.run h (c :: rest) = (r.feed h c).bind fun r => r.run h rest := rfl

-- Line ends as the reader hands them on; `after` is set after a carriage return.
def newlines (after : Bool) : Text → Text
  | [] => []
  | c :: rest =>
    if c = 13 then 10 :: newlines true rest
    else if c = 10 ∧ after = true then newlines false rest
    else c :: newlines false rest

theorem newlines_cons (after : Bool) (c : Nat) (rest : Text) :
    newlines after (c :: rest) = newlines after [c] ++ newlines (c == 13) rest := by
  by_cases carriage : c = 13
  · simp [newlines,carriage]
  · by_cases feed : c = 10 ∧ after = true
    · simp [newlines,feed]
    · have other : (c == 13) = false := by simpa using carriage
      simp [newlines,carriage,feed,other]

theorem newlines_mem (after : Bool) (s : Text) : 13 ∉ newlines after s := by
  induction s generalizing after with
  | nil => simp [newlines]
  | cons c rest ih =>
    simp only [newlines]
    split
    · simpa using ih true
    · rename_i other
      split
      · exact ih false
      · simp only [List.mem_cons,not_or]
        exact ⟨fun same => other same.symm,ih false⟩

theorem newlines_same {s : Text} : newlines false s = s ↔ 13 ∉ s := by
  constructor
  · intro same
    rw [← same]
    exact newlines_mem false s
  · intro none
    induction s with
    | nil => rfl
    | cons c rest ih =>
      simp only [List.mem_cons,not_or] at none
      have plain : ¬ c = 13 := fun same => none.1 same.symm
      simp [newlines,plain,ih none.2]

def entity (c : Nat) : Text :=
  if c = 38 then text "&amp;" else if c = 60 then text "&lt;" else if c = 62 then text "&gt;" else [c]

def escaped (s : Text) : Text := s.flatMap entity

theorem entity_unclosed (c : Nat) : 62 ∉ entity c := by
  unfold entity
  split_ifs with amp lt gt
  · decide
  · decide
  · decide
  · exact fun member => gt (List.mem_singleton.mp member).symm

theorem escaped_unclosed (s : Text) : Unclosed (escaped s) := by
  refine unclosed_text fun member => ?_
  obtain ⟨c,_,inside⟩ := List.mem_flatMap.mp member
  exact entity_unclosed c inside

def Mode.after (returned : Bool) : Mode := if returned then .returned else .content

def endsReturned (after : Bool) : Text → Bool
  | [] => after
  | c :: rest => endsReturned (c == 13) rest

theorem run_entity (h : Handler σ) (after rooted : Bool) (name : Text) (opened : List Text) (target : σ) (c : Nat) :
    Reader.run h ⟨.after after,name :: opened,true,rooted,target⟩ (entity c) =
      if isChar c = true then
        some ⟨.after (c == 13),name :: opened,true,rooted,(newlines after [c]).foldl (fun s c => h.data c s) target⟩
      else none := by
  by_cases amp : c = 38
  · subst amp
    cases after <;> rfl
  by_cases lt : c = 60
  · subst lt
    cases after <;> rfl
  by_cases gt : c = 62
  · subst gt
    cases after <;> rfl
  have plain : entity c = [c] := by simp [entity,amp,lt,gt]
  have once : ∀ r : Reader σ, r.run h [c] = r.feed h c := fun r => by
    rw [run_cons]
    cases r.feed h c <;> rfl
  rw [plain,once]
  by_cases carriage : c = 13
  · subst carriage
    cases after <;> rfl
  by_cases feed : c = 10
  · subst feed
    cases after <;> rfl
  have content : ∀ mode, Reader.content h ⟨mode,name :: opened,true,rooted,target⟩ c =
      if isChar c = true then some ⟨.content,name :: opened,true,rooted,h.data c target⟩ else none := by
    intro mode
    simp [Reader.content,Reader.character,amp,lt,carriage]
  have kept : newlines after [c] = [c] := by simp [newlines,carriage,feed]
  have mode : Mode.after (c == 13) = .content := by simp [Mode.after,carriage]
  rw [kept,mode]
  cases after with
  | false => exact content _
  | true =>
    simp only [Reader.feed,Mode.after,if_true,feed,if_false]
    exact content _

-- The text between two tags, escaped as a writer does it.
theorem run_escaped (h : Handler σ) (after rooted : Bool) (name : Text) (opened : List Text) (target : σ) (s : Text) :
    Reader.run h ⟨.after after,name :: opened,true,rooted,target⟩ (escaped s) =
      if s.all isChar = true then
        some ⟨.after (endsReturned after s),name :: opened,true,rooted,
          (newlines after s).foldl (fun s c => h.data c s) target⟩
      else none := by
  induction s generalizing after target with
  | nil => rfl
  | cons c rest ih =>
    have parts : escaped (c :: rest) = entity c ++ escaped rest := rfl
    rw [parts,run_append,run_entity]
    by_cases valid : isChar c = true
    · rw [if_pos valid,Option.bind_some,ih]
      simp only [List.all_cons,valid,Bool.true_and,newlines_cons after c rest,List.foldl_append,endsReturned]
    · simp [valid]

theorem run_plain {s : Text} (h : Handler σ) (rooted : Bool) (name : Text) (opened : List Text) (target : σ)
    (plain : ∀ c ∈ s, isChar c = true ∧ c ≠ 13 ∧ entity c = [c]) :
    Reader.run h ⟨.content,name :: opened,true,rooted,target⟩ s =
      some ⟨.content,name :: opened,true,rooted,s.foldl (fun s c => h.data c s) target⟩ := by
  have same : escaped s = s ∧ endsReturned false s = false := by
    clear target
    induction s with
    | nil => exact ⟨rfl,rfl⟩
    | cons c rest ih =>
      obtain ⟨_,other,alone⟩ := plain c List.mem_cons_self
      obtain ⟨escaped_,ends⟩ := ih fun d member => plain d (List.mem_cons_of_mem _ member)
      refine ⟨?_,?_⟩
      · change entity c ++ escaped rest = c :: rest
        rw [alone,escaped_]
        rfl
      · have unreturned : (c == 13) = false := by simpa using other
        rw [endsReturned,unreturned]
        exact ends
  have valid : s.all isChar = true := List.all_eq_true.mpr fun c member => (plain c member).1
  have kept : newlines false s = s := newlines_same.mpr fun member => (plain 13 member).2.1 rfl
  have ran := run_escaped h false rooted name opened target s
  rw [same.1,if_pos valid,same.2,kept] at ran
  exact ran

theorem run_inside {inside : Text} (h : Handler σ) (r : Reader σ) (before : Text)
    (plain : ∀ c ∈ inside, isChar c = true ∧ c ≠ 62) :
    Reader.run h {r with mode := .markup before} inside = some {r with mode := .markup (before ++ inside)} := by
  induction inside generalizing before with
  | nil => simp [Reader.run]
  | cons c rest ih =>
    obtain ⟨valid,other⟩ := plain c List.mem_cons_self
    have fed : Reader.feed h {r with mode := .markup before} c = some {r with mode := .markup (before ++ [c])} := by
      simp [Reader.feed,other,valid]
    rw [run_cons,fed,Option.bind_some,ih _ fun d member => plain d (List.mem_cons_of_mem _ member)]
    simp

theorem nameChar_plain (named : isName name = true) (member : c ∈ name) : isChar c = true ∧ c ≠ 62 ∧ c ≠ 47 ∧ c ≠ 63 := by
  unfold isName at named
  have letter := List.all_eq_true.mp (Bool.and_eq_true_iff.mp named).1 c member
  simp only [nameChar,isLetter,isDecimal,Bool.or_eq_true,Bool.and_eq_true,decide_eq_true_eq,beq_iff_eq] at letter
  refine ⟨?_,by omega,by omega,by omega⟩
  simp only [isChar,Bool.or_eq_true,Bool.and_eq_true,decide_eq_true_eq,beq_iff_eq]
  omega

theorem run_open (h : Handler σ) (returned begun rooted : Bool) (opened : List Text) (target : σ) (rest : Text) :
    Reader.run h ⟨.after returned,opened,begun,rooted,target⟩ (60 :: rest) =
      Reader.run h ⟨.markup [],opened,begun,rooted,target⟩ rest := by
  cases returned <;> rfl

-- A tag, read to its end.
theorem run_markup {inside : Text} (h : Handler σ) (returned begun rooted : Bool) (opened : List Text) (target : σ)
    (plain : ∀ c ∈ inside, isChar c = true ∧ c ≠ 62) :
    Reader.run h ⟨.after returned,opened,begun,rooted,target⟩ (60 :: (inside ++ [62])) =
      Reader.tag h ⟨.content,opened,begun,rooted,target⟩ inside := by
  have walked := run_inside h ⟨.content,opened,begun,rooted,target⟩ [] plain
  dsimp only at walked
  rw [run_open,run_append,walked,Option.bind_some,run_cons]
  change (Reader.tag h ⟨.content,opened,begun,rooted,target⟩ inside).bind some = _
  cases Reader.tag h ⟨.content,opened,begun,rooted,target⟩ inside <;> rfl

theorem tag_start {name : Text} (h : Handler σ) (r : Reader σ) (named : isName name = true) :
    r.tag h name = Reader.startElement h {r with begun := true} name := by
  unfold Reader.tag
  split
  · rename_i rest
    exact absurd rfl (nameChar_plain named (List.mem_cons_self : 63 ∈ 63 :: rest)).2.2.2
  · rename_i rest
    exact absurd rfl (nameChar_plain named (List.mem_cons_self : 47 ∈ 47 :: rest)).2.2.1
  · rw [if_neg]
    intro slash
    exact absurd rfl (nameChar_plain named (List.mem_of_getLast? slash)).2.2.1

inductive Token where
  | start (name : Text)
  | stop (name : Text)
  | data (s : Text)
  deriving DecidableEq, Repr

def Token.write : Token → Text
  | .start name => 60 :: (name ++ [62])
  | .stop name => 60 :: 47 :: (name ++ [62])
  | .data s => escaped s

def Token.named : Token → Bool
  | .start name | .stop name => isName name
  | .data _ => true

def Reader.token (h : Handler σ) (r : Reader σ) : Token → Option (Reader σ)
  | .start name => Reader.startElement h {r with mode := .content,begun := true} name
  | .stop name => Reader.endElement h {r with mode := .content,begun := true} name
  | .data s =>
    if r.opened ≠ [] ∧ r.begun = true ∧ s.all isChar = true then
      some {r with
        mode := .after (endsReturned (r.mode == .returned) s)
        target := (newlines (r.mode == .returned) s).foldl (fun s c => h.data c s) r.target}
    else none

theorem startElement_made {name : Text} {r next : Reader σ} {h : Handler σ} (made : r.startElement h name = some next) :
    isName name = true ∧ ∃ target, next = {r with opened := name :: r.opened,rooted := true,target := target} := by
  unfold Reader.startElement at made
  split at made
  · cases made
  · rename_i allowed
    obtain ⟨target,_,rfl⟩ := Option.map_eq_some_iff.mp made
    have named : isName name = true := by simpa using fun refused => allowed (.inl refused)
    exact ⟨named,target,rfl⟩

theorem endElement_made {name : Text} {r next : Reader σ} {h : Handler σ} (made : r.endElement h name = some next) :
    ∃ rest target, r.opened = name :: rest ∧ next = {r with opened := rest,target := target} := by
  unfold Reader.endElement at made
  split at made
  · cases made
  · rename_i top rest opened
    split at made
    · rename_i same
      obtain ⟨target,_,rfl⟩ := Option.map_eq_some_iff.mp made
      exact ⟨rest,target,by rw [opened,same],rfl⟩
    · cases made

theorem run_token {t : Token} {r next : Reader σ} {h : Handler σ} {returned : Bool} (named : t.named = true)
    (mode : r.mode = .after returned) (made : r.token h t = some next) :
    r.run h t.write = some next ∧ ∃ returned, next.mode = .after returned := by
  obtain ⟨before,opened,begun,rooted,target⟩ := r
  change before = _ at mode
  subst mode
  cases t with
  | start name =>
    have plain : ∀ c ∈ name, isChar c = true ∧ c ≠ 62 := fun c member =>
      ⟨(nameChar_plain named member).1,(nameChar_plain named member).2.1⟩
    obtain ⟨_,target',rfl⟩ := startElement_made made
    refine ⟨?_,false,rfl⟩
    rw [Token.write,run_markup h returned begun rooted opened target plain,tag_start h _ named]
    exact made
  | stop name =>
    have plain : ∀ c ∈ 47 :: name, isChar c = true ∧ c ≠ 62 := by
      intro c member
      rcases List.mem_cons.mp member with rfl | inside
      · decide
      · exact ⟨(nameChar_plain named inside).1,(nameChar_plain named inside).2.1⟩
    obtain ⟨rest,target',_,rfl⟩ := endElement_made made
    refine ⟨?_,false,rfl⟩
    rw [Token.write,← List.cons_append,run_markup h returned begun rooted opened target plain]
    exact made
  | data s =>
    have same : (Mode.after returned == Mode.returned) = returned := by cases returned <;> rfl
    simp only [Reader.token,same] at made
    split at made
    · rename_i inside
      obtain ⟨some_,rfl,valid⟩ := inside
      cases made
      cases opened with
      | nil => exact absurd rfl some_
      | cons name opened => exact ⟨by rw [Token.write,run_escaped,if_pos valid],_,rfl⟩
    · cases made

-- What a writer has put together of tokens, the reader takes apart.
theorem run_tokens {tokens : List Token} {r next : Reader σ} {h : Handler σ} (returned : Bool)
    (named : tokens.all Token.named = true) (mode : r.mode = .after returned)
    (made : tokens.foldlM (Reader.token h) r = some next) : r.run h (tokens.flatMap Token.write) = some next := by
  induction tokens generalizing r returned with
  | nil => exact made
  | cons t rest ih =>
    simp only [List.all_cons,Bool.and_eq_true] at named
    obtain ⟨middle,first,others⟩ := Option.bind_eq_some_iff.mp made
    obtain ⟨ran,returned,after⟩ := run_token named.1 mode first
    rw [List.flatMap_cons,run_append,ran,Option.bind_some]
    exact ih returned named.2 after others

theorem declaredName_of (encoding : Text) : declaredName (declarationOf encoding) = encoding := by
  unfold declaredName declarationOf
  rw [List.append_assoc,List.drop_left]
  have two : text "'?" = [39] ++ [63] := rfl
  rw [two,← List.append_assoc,List.dropLast_concat,List.dropLast_concat]

theorem encodingName_char (named : isEncodingName encoding = true) (member : c ∈ encoding) :
    isChar c = true ∧ c ≠ 62 := by
  unfold isEncodingName at named
  have letter := List.all_eq_true.mp (Bool.and_eq_true_iff.mp named).1 c member
  simp only [isLetter,isDecimal,Bool.or_eq_true,Bool.and_eq_true,decide_eq_true_eq,beq_iff_eq] at letter
  refine ⟨?_,by omega⟩
  simp only [isChar,Bool.or_eq_true,Bool.and_eq_true,decide_eq_true_eq,beq_iff_eq]
  omega

theorem declaration_read {encoding : Text} (h : Handler σ) (target : σ) (named : isEncodingName encoding = true) :
    (Reader.init target).run h (text "<" ++ declarationOf encoding ++ text ">") = some ⟨.content,[],true,false,target⟩ := by
  have fixed : ∀ c ∈ text "?xml version='1.0' encoding='", isChar c = true ∧ c ≠ 62 := by decide
  have ending : ∀ c ∈ text "'?", isChar c = true ∧ c ≠ 62 := by decide
  have plain : ∀ c ∈ declarationOf encoding, isChar c = true ∧ c ≠ 62 := by
    intro c member
    unfold declarationOf at member
    rcases List.mem_append.mp member with front | close
    · rcases List.mem_append.mp front with before | inside
      · exact fixed c before
      · exact encodingName_char named inside
    · exact ending c close
  have declared : isDeclaration (declarationOf encoding) = true := by
    simp [isDeclaration,declaredName_of,named]
  have started : (Reader.init target).run h (text "<") = some ⟨.markup [],[],false,false,target⟩ := rfl
  rw [run_append,run_append,started,Option.bind_some]
  rw [show (⟨.markup [],[],false,false,target⟩ : Reader σ) = {Reader.init target with mode := .markup []} from rfl,
    run_inside h _ [] plain,Option.bind_some]
  have closed : Reader.tag h (Reader.init target) (declarationOf encoding) = some ⟨.content,[],true,false,target⟩ := by
    change (if false = false ∧ isDeclaration (declarationOf encoding) = true then _ else _) = _
    rw [if_pos ⟨rfl,declared⟩]
    rfl
  change (Reader.tag h (Reader.init target) (declarationOf encoding)).bind (fun r => r.run h []) = _
  rw [closed]
  rfl

end XmlrpcExtended.Xml
