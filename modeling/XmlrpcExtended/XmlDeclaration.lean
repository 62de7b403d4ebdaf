import XmlrpcExtended.XmlReader

namespace XmlrpcExtended.Xml

variable {σ τ : Type}

theorem character_made {r next : Reader σ} {h : Handler σ} (made : r.character h c = some next) :
    ∃ target, next = {r with begun := true,target := target} := by
  unfold Reader.character at made
  split at made
  · split at made
    · cases made
      exact ⟨r.target,rfl⟩
    · cases made
  · cases made
    exact ⟨_,rfl⟩

-- The mode after a character the reader takes.
def Mode.plain (c : Nat) : Mode :=
  if c = 60 then .markup [] else if c = 38 then .reference [] else if c = 13 then .returned else .content

def Mode.feed (mode : Mode) (c : Nat) : Mode :=
  match mode with
  | .content => Mode.plain c
  | .returned => if c = 10 then .content else Mode.plain c
  | .markup inside => if c = 62 then .content else .markup (inside ++ [c])
  | .reference name => if c = 59 then .content else .reference (name ++ [c])

def Mode.closes (mode : Mode) (c : Nat) : Option Text :=
  match mode with
  | .markup inside => if c = 62 then some inside else none
  | _ => none

theorem content_made {r next : Reader σ} {h : Handler σ} (made : r.content h c = some next) :
    next.mode = Mode.plain c ∧ next.opened = r.opened ∧ (r.begun = true → next.begun = true) := by
  unfold Reader.content at made
  unfold Mode.plain
  by_cases lt : c = 60
  · rw [if_pos lt] at made ⊢
    cases made
    exact ⟨rfl,rfl,id⟩
  rw [if_neg lt] at made ⊢
  by_cases amp : c = 38
  · rw [if_pos amp] at made ⊢
    cases made
    exact ⟨rfl,rfl,id⟩
  rw [if_neg amp] at made ⊢
  by_cases carriage : c = 13
  · rw [if_pos carriage] at made ⊢
    obtain ⟨target,rfl⟩ := character_made made
    exact ⟨rfl,rfl,fun _ => rfl⟩
  rw [if_neg carriage] at made ⊢
  split at made
  · obtain ⟨target,rfl⟩ := character_made made
    exact ⟨rfl,rfl,fun _ => rfl⟩
  · cases made

theorem feed_made {r next : Reader σ} {h : Handler σ} (made : r.feed h c = some next) :
    (∀ inside, r.mode.closes c = some inside → Reader.tag h {r with mode := .content} inside = some next) ∧
    (r.mode.closes c = none →
      next.mode = r.mode.feed c ∧ next.opened = r.opened ∧ (r.begun = true → next.begun = true)) := by
  obtain ⟨mode,opened,begun,rooted,target⟩ := r
  cases mode with
  | content => exact ⟨by simp [Mode.closes],fun _ => content_made made⟩
  | returned =>
    refine ⟨by simp [Mode.closes],fun _ => ?_⟩
    simp only [Reader.feed] at made
    simp only [Mode.feed]
    by_cases feed : c = 10
    · rw [if_pos feed] at made ⊢
      cases made
      exact ⟨rfl,rfl,id⟩
    · rw [if_neg feed] at made ⊢
      exact content_made made
  | markup inside =>
    simp only [Reader.feed] at made
    simp only [Mode.closes,Mode.feed]
    by_cases gt : c = 62
    · rw [if_pos gt] at made
      refine ⟨?_,by simp [gt]⟩
      intro other same
      rw [if_pos gt] at same
      cases same
      exact made
    · rw [if_neg gt] at made
      refine ⟨by simp [gt],fun _ => ?_⟩
      rw [if_neg gt]
      split at made
      · cases made
        exact ⟨rfl,rfl,id⟩
      · cases made
  | reference name =>
    refine ⟨by simp [Mode.closes],fun _ => ?_⟩
    simp only [Reader.feed] at made
    simp only [Mode.feed]
    by_cases semicolon : c = 59
    · rw [if_pos semicolon] at made ⊢
      split at made
      · cases made
      · obtain ⟨_,_,rfl⟩ := Option.map_eq_some_iff.mp made
        exact ⟨rfl,rfl,id⟩
    · rw [if_neg semicolon] at made ⊢
      split at made
      · cases made
        exact ⟨rfl,rfl,id⟩
      · cases made

-- What follows the declaration, if anything: an end tag, an empty element or a start tag.
theorem tag_made {inside : Text} {r next : Reader σ} {h : Handler σ} (begun : r.begun = true)
    (made : r.tag h inside = some next) :
    (∃ name, inside = 47 :: name ∧ r.endElement h name = some next) ∨
    (∃ name middle, inside = name ++ [47] ∧ r.startElement h name = some middle ∧ middle.endElement h name = some next) ∨
    r.startElement h inside = some next := by
  have same : {r with begun := true} = r := by rw [← begun]
  unfold Reader.tag at made
  rw [same] at made
  split at made
  · rw [if_neg (by simp [begun])] at made
    cases made
  · rename_i name
    exact .inl ⟨name,rfl,made⟩
  · split at made
    · rename_i slash
      obtain ⟨middle,first,last⟩ := Option.bind_eq_some_iff.mp made
      exact .inr (.inl ⟨inside.dropLast,middle,(List.dropLast_append_getLast? 47 slash).symm,first,last⟩)
    · exact .inr (.inr made)

theorem feed_refused (h : Handler σ) (r : Reader σ) (invalid : isChar c = false) : r.feed h c = none := by
  have other : ∀ d, isChar d = true → ¬ c = d := by
    rintro d valid rfl
    rw [valid] at invalid
    cases invalid
  have content : ∀ r : Reader σ, r.content h c = none := fun r => by
    simp [Reader.content,other 60 rfl,other 38 rfl,other 13 rfl,invalid]
  unfold Reader.feed
  split
  · exact content r
  · rw [if_neg (other 10 rfl)]
    exact content r
  · simp [other 62 rfl,invalid]
  · simp [other 59 rfl,invalid]

theorem run_chars {document : Text} {r next : Reader σ} {h : Handler σ} (made : r.run h document = some next) :
    document.all isChar = true := by
  induction document generalizing r with
  | nil => rfl
  | cons c rest ih =>
    obtain ⟨middle,fed,others⟩ := Option.bind_eq_some_iff.mp made
    cases valid : isChar c with
    | true => simp [valid,ih others]
    | false =>
      rw [feed_refused h r valid] at fed
      cases fed

theorem escaped_chars (s : Text) : (escaped s).all isChar = s.all isChar := by
  have one : ∀ c, (entity c).all isChar = isChar c := by
    intro c
    by_cases amp : c = 38
    · subst amp
      rfl
    by_cases lt : c = 60
    · subst lt
      rfl
    by_cases gt : c = 62
    · subst gt
      rfl
    simp [entity,amp,lt,gt]
  induction s with
  | nil => rfl
  | cons c rest ih =>
    have parts : escaped (c :: rest) = entity c ++ escaped rest := rfl
    rw [parts,List.all_append,one,ih,List.all_cons]

structure Named (r : Reader σ) : Prop where
  begun : r.begun = true
  names : ∀ name ∈ r.opened, isName name = true

theorem startElement_named {name : Text} {r next : Reader σ} {h : Handler σ} (named : Named r)
    (made : r.startElement h name = some next) : Named next := by
  obtain ⟨valid,target,rfl⟩ := startElement_made made
  refine ⟨named.begun,?_⟩
  intro other member
  rcases List.mem_cons.mp member with rfl | below
  · exact valid
  · exact named.names other below

theorem endElement_named {name : Text} {r next : Reader σ} {h : Handler σ} (named : Named r)
    (made : r.endElement h name = some next) : Named next := by
  obtain ⟨rest,target,opened,rfl⟩ := endElement_made made
  exact ⟨named.begun,fun other member => named.names other (by rw [opened]; exact List.mem_cons_of_mem _ member)⟩

theorem feed_named {r next : Reader σ} {h : Handler σ} (named : Named r) (made : r.feed h c = some next) :
    Named next := by
  obtain ⟨tagged,kept⟩ := feed_made made
  cases closes : r.mode.closes c with
  | none =>
    obtain ⟨_,opened,begun⟩ := kept closes
    exact ⟨begun named.begun,by rw [opened]; exact named.names⟩
  | some inside =>
    have inner : Named {r with mode := .content} := ⟨named.begun,named.names⟩
    rcases tag_made inner.begun (tagged inside closes) with ⟨_,_,stopped⟩ | ⟨_,_,_,first,last⟩ | started
    · exact endElement_named inner stopped
    · exact endElement_named (startElement_named inner first) last
    · exact startElement_named inner started

theorem run_named {document : Text} {r next : Reader σ} {h : Handler σ} (named : Named r)
    (made : r.run h document = some next) : Named next := by
  induction document generalizing r with
  | nil =>
    cases made
    exact named
  | cons c rest ih =>
    obtain ⟨middle,fed,others⟩ := Option.bind_eq_some_iff.mp made
    exact ih (feed_named named fed) others

-- The same place in a document with more elements open below, whatever the targets.
structure Above (below : List Text) (r : Reader σ) (r' : Reader τ) : Prop where
  mode : r'.mode = r.mode
  opened : r'.opened = r.opened ++ below
  begun : r.begun = true
  begun' : r'.begun = true

theorem startElement_above {name : Text} {below : List Text} {r next : Reader σ} {r' next' : Reader τ} {h : Handler σ}
    {k : Handler τ} (above : Above below r r') (made : r.startElement h name = some next)
    (made' : r'.startElement k name = some next') : Above below next next' := by
  obtain ⟨_,_,rfl⟩ := startElement_made made
  obtain ⟨_,_,rfl⟩ := startElement_made made'
  exact ⟨above.mode,congrArg (name :: ·) above.opened,above.begun,above.begun'⟩

theorem endElement_above {name : Text} {below : List Text} {r next : Reader σ} {r' next' : Reader τ} {h : Handler σ}
    {k : Handler τ} (above : Above below r r') (made : r.endElement h name = some next)
    (made' : r'.endElement k name = some next') : Above below next next' := by
  obtain ⟨rest,_,opened,rfl⟩ := endElement_made made
  obtain ⟨rest',_,opened',rfl⟩ := endElement_made made'
  have same : name :: rest' = name :: (rest ++ below) := by rw [← opened',above.opened,opened]; rfl
  exact ⟨above.mode,(List.cons.inj same).2,above.begun,above.begun'⟩

theorem tag_above {inside : Text} {below : List Text} {r next : Reader σ} {r' next' : Reader τ} {h : Handler σ}
    {k : Handler τ} (above : Above below r r') (made : r.tag h inside = some next)
    (made' : r'.tag k inside = some next') : Above below next next' := by
  have same : {r with begun := true} = r := by rw [← above.begun]
  have same' : {r' with begun := true} = r' := by rw [← above.begun']
  unfold Reader.tag at made made'
  rw [same] at made
  rw [same'] at made'
  split at made
  · rw [if_neg (by simp [above.begun])] at made
    cases made
  · exact endElement_above above made made'
  · rename_i other notStop
    split at made'
    · exact absurd rfl (other _)
    · exact absurd rfl (notStop _)
    · split at made
      · rename_i slash
        rw [if_pos slash] at made'
        obtain ⟨middle,first,last⟩ := Option.bind_eq_some_iff.mp made
        obtain ⟨middle',first',last'⟩ := Option.bind_eq_some_iff.mp made'
        exact endElement_above (startElement_above above first first') last last'
      · rename_i slash
        rw [if_neg slash] at made'
        exact startElement_above above made made'

theorem feed_above {below : List Text} {r next : Reader σ} {r' next' : Reader τ} {h : Handler σ} {k : Handler τ}
    (above : Above below r r') (made : r.feed h c = some next) (made' : r'.feed k c = some next') :
    Above below next next' := by
  obtain ⟨tagged,kept⟩ := feed_made made
  obtain ⟨tagged',kept'⟩ := feed_made made'
  rw [above.mode] at tagged' kept'
  cases closes : r.mode.closes c with
  | none =>
    obtain ⟨mode,opened,begun⟩ := kept closes
    obtain ⟨mode',opened',begun'⟩ := kept' closes
    exact ⟨by rw [mode,mode'],by rw [opened,opened',above.opened],begun above.begun,begun' above.begun'⟩
  | some inside =>
    have inner : Above below {r with mode := .content} {r' with mode := .content} :=
      ⟨rfl,above.opened,above.begun,above.begun'⟩
    exact tag_above inner (tagged inside closes) (tagged' inside closes)

theorem run_above {document : Text} {below : List Text} {r next : Reader σ} {r' next' : Reader τ} {h : Handler σ}
    {k : Handler τ} (above : Above below r r') (made : r.run h document = some next)
    (made' : r'.run k document = some next') : Above below next next' := by
  induction document generalizing r r' with
  | nil =>
    cases made
    cases made'
    exact above
  | cons c rest ih =>
    obtain ⟨middle,fed,others⟩ := Option.bind_eq_some_iff.mp made
    obtain ⟨middle',fed',others'⟩ := Option.bind_eq_some_iff.mp made'
    exact ih (feed_above above fed fed') others others'

theorem numberOf_none {digit : Nat → Option Nat} {name : Text} (base : Nat) (member : c ∈ name) (bad : digit c = none) :
    numberOf base digit name = none := by
  have failed : ∀ n, name.foldlM (fun n c => (digit c).map fun d => base * n + d) n = none := by
    induction name with
    | nil => cases member
    | cons d rest ih =>
      intro n
      rw [List.foldlM_cons]
      rcases List.mem_cons.mp member with rfl | inside
      · rw [bad]
        rfl
      · cases digit d with
        | none => rfl
        | some value => exact ih inside _
  rw [numberOf,failed 0]
  split <;> rfl

theorem resolve_quoted {name : Text} (quoted : 39 ∈ name) : resolve name = none := by
  have other : ∀ known : Text, 39 ∉ known → ¬ name = known := by
    rintro known without rfl
    exact without quoted
  unfold resolve
  rw [if_neg (other _ (by decide)),if_neg (other _ (by decide)),if_neg (other _ (by decide)),
    if_neg (other _ (by decide)),if_neg (other _ (by decide))]
  split
  · rename_i digits
    have inside : 39 ∈ digits := by simpa using quoted
    rw [numberOf_none 16 inside rfl]
    rfl
  · rename_i digits _
    have inside : 39 ∈ digits := by simpa using quoted
    rw [numberOf_none 10 inside rfl]
    rfl
  · rfl

-- No reference has an apostrophe in its name, so this one is never left.
theorem reference_stuck {document name : Text} {r next : Reader σ} {h : Handler σ} (mode : r.mode = .reference name)
    (quoted : 39 ∈ name) (made : r.run h document = some next) : ∃ name, next.mode = .reference name := by
  induction document generalizing r name with
  | nil =>
    cases made
    exact ⟨name,mode⟩
  | cons c rest ih =>
    obtain ⟨middle,fed,others⟩ := Option.bind_eq_some_iff.mp made
    have after : middle.mode = .reference (name ++ [c]) := by
      have semicolon : c ≠ 59 := by
        rintro rfl
        simp [Reader.feed,mode,resolve_quoted quoted] at fed
      obtain ⟨fedMode,_⟩ := (feed_made fed).2 (by rw [mode]; rfl)
      rw [fedMode,mode,Mode.feed,if_neg semicolon]
    exact ih after (List.mem_append_left _ quoted) others

theorem feed_kept {mode : Mode} {r next : Reader σ} {h : Handler σ} (before : r.mode = mode) (closes : mode.closes c = none)
    (made : r.feed h c = some next) : next.mode = mode.feed c ∧ next.opened = r.opened := by
  subst before
  obtain ⟨fed,opened,_⟩ := (feed_made made).2 closes
  exact ⟨fed,opened⟩

theorem quote_outside {r : Reader σ} (h : Handler σ) (mode : r.mode = .content ∨ r.mode = .returned) (outside : r.opened = []) :
    r.feed h 39 = none := by
  rcases mode with mode | mode <;> simp [Reader.feed,mode,Reader.content,Reader.character,outside,isSpace]

theorem quote_tag {inside : Text} {r next : Reader σ} {h : Handler σ} (named : Named r)
    (made : Reader.tag h {r with mode := .content} (inside ++ [39] ++ [63]) = some next) : False := by
  have marked : ∀ name, isName name = true → 63 ∉ name := fun name valid member =>
    (nameChar_plain valid member).2.2.2 rfl
  have begun : ({r with mode := .content} : Reader σ).begun = true := named.begun
  rcases tag_made begun made with ⟨name,shape,stopped⟩ | ⟨name,middle,shape,_,_⟩ | started
  · obtain ⟨rest,_,opened,_⟩ := endElement_made stopped
    change r.opened = _ at opened
    have member : 63 ∈ 47 :: name := by
      rw [← shape]
      simp
    exact marked name (named.names name (by rw [opened]; exact List.mem_cons_self)) (by simpa using member)
  · have last := congrArg List.getLast? shape
    simp at last
  · exact marked _ (startElement_made started).1 (by simp)

-- After the end of a declaration within the text: inside an element, or in a reference.
theorem quote_made {r next : Reader σ} {h : Handler σ} (named : Named r) (made : r.run h (text "'?>") = some next) :
    (next.mode = .content ∧ next.opened = r.opened ∧ r.opened ≠ []) ∨ ∃ name, 39 ∈ name ∧ next.mode = .reference name := by
  have marks : text "'?>" = [39,63,62] := rfl
  rw [marks] at made
  obtain ⟨first,fed,others⟩ := Option.bind_eq_some_iff.mp made
  obtain ⟨second,fed₂,others⟩ := Option.bind_eq_some_iff.mp others
  obtain ⟨third,fed₃,same⟩ := Option.bind_eq_some_iff.mp others
  cases same
  have inText : first.mode = .content → first.opened = r.opened → next.mode = .content ∧ next.opened = r.opened := by
    intro mode opened
    obtain ⟨mode₂,opened₂⟩ := feed_kept mode rfl fed₂
    obtain ⟨mode₃,opened₃⟩ := feed_kept mode₂ rfl fed₃
    exact ⟨mode₃,by rw [opened₃,opened₂,opened]⟩
  have entered : r.mode = .content ∨ r.mode = .returned → r.opened ≠ [] := by
    intro mode outside
    rw [quote_outside h mode outside] at fed
    cases fed
  cases mode : r.mode with
  | content =>
    obtain ⟨mode₁,opened₁⟩ := feed_kept mode rfl fed
    obtain ⟨last,kept⟩ := inText mode₁ opened₁
    exact .inl ⟨last,kept,entered (.inl mode)⟩
  | returned =>
    obtain ⟨mode₁,opened₁⟩ := feed_kept mode rfl fed
    obtain ⟨last,kept⟩ := inText mode₁ opened₁
    exact .inl ⟨last,kept,entered (.inr mode)⟩
  | markup inside =>
    obtain ⟨mode₁,_⟩ := feed_kept mode rfl fed
    obtain ⟨mode₂,_⟩ := feed_kept mode₁ rfl fed₂
    have named₂ := feed_named (feed_named named fed) fed₂
    have closed := (feed_made fed₃).1 _ (by rw [mode₂]; rfl)
    exact (quote_tag named₂ closed).elim
  | reference name =>
    obtain ⟨mode₁,_⟩ := feed_kept mode rfl fed
    obtain ⟨mode₂,_⟩ := feed_kept mode₁ rfl fed₂
    obtain ⟨mode₃,_⟩ := feed_kept mode₂ rfl fed₃
    exact .inr ⟨_,by simp,mode₃⟩

theorem undeclared {encoding : Text} (unnamed : isEncodingName encoding = false) :
    isDeclaration (declarationOf encoding) = false := by
  have long : (declarationOf encoding == text "?xml version='1.0'?") = false := by
    rw [beq_eq_false_iff_ne]
    intro same
    have sizes := congrArg List.length same
    simp [declarationOf,text] at sizes
  rw [isDeclaration,long,declaredName_of,unnamed]
  simp

theorem declaration_tag {inside : Text} {next : Reader σ} (h : Handler σ) (target : σ)
    (made : Reader.tag h ⟨.content,[],false,false,target⟩ (63 :: inside) = some next) :
    isDeclaration (63 :: inside) = true ∧ next = ⟨.content,[],true,false,target⟩ := by
  change (if false = false ∧ isDeclaration (63 :: inside) = true then _ else _) = _ at made
  split at made
  · rename_i declared
    cases made
    exact ⟨declared.2,rfl⟩
  · cases made

-- Whatever follows the declaration, it cannot have its end in the middle of the text.
theorem quote_refused {post rest : Text} {last : Reader τ} {r next : Reader σ} {k : Handler τ} {start : τ} {h : Handler σ}
    (named : Named r) (balanced : Reader.run k ⟨.content,[],true,false,start⟩ rest = some last)
    (made : r.run h (post ++ (text "'?>" ++ rest)) = some next) : next.finished = false := by
  rw [run_append] at made
  obtain ⟨before,ran,made⟩ := Option.bind_eq_some_iff.mp made
  rw [run_append] at made
  obtain ⟨quoted,marked,made⟩ := Option.bind_eq_some_iff.mp made
  have named₁ := run_named named ran
  rcases quote_made named₁ marked with ⟨mode,opened,inside⟩ | ⟨name,apostrophe,mode⟩
  · have below : Above before.opened (⟨.content,[],true,false,start⟩ : Reader τ) quoted :=
      ⟨mode,opened,rfl,(run_named named₁ marked).begun⟩
    have same := (run_above below balanced made).opened
    have some_ : next.opened ≠ [] := by
      rw [same]
      exact List.append_ne_nil_of_right_ne_nil _ inside
    simp [Reader.finished,some_]
  · obtain ⟨name,stuck⟩ := reference_stuck mode apostrophe made
    simp [Reader.finished,stuck]

theorem declaration_plain {inside : Text} (valid : ∀ c ∈ inside, isChar c = true) (single : 62 ∉ inside) :
    ∀ c ∈ text "?xml version='1.0' encoding='" ++ inside, isChar c = true ∧ c ≠ 62 := by
  have fixed : ∀ c ∈ text "?xml version='1.0' encoding='", isChar c = true ∧ c ≠ 62 := by decide
  intro c member
  rcases List.mem_append.mp member with front | back
  · exact fixed c front
  · exact ⟨valid c back,fun same => single (same ▸ back)⟩

-- An encoding that a declaration cannot name: the document is refused, however the name is made.
theorem undeclared_refused {encoding rest : Text} {last : Reader τ} {k : Handler τ} {start : τ} (h : Handler σ) (target : σ)
    (unnamed : isEncodingName encoding = false) (balanced : Reader.run k ⟨.content,[],true,false,start⟩ rest = some last) :
    read h target (text "<" ++ declarationOf encoding ++ text ">" ++ rest) = none := by
  unfold read
  split
  · rfl
  rw [Option.bind_eq_none_iff]
  intro next made
  suffices unfinished : next.finished = false by rw [unfinished]; rfl
  have chars := List.all_eq_true.mp (run_chars made)
  have valid : ∀ c ∈ encoding, isChar c = true := fun c member => chars c (by simp [declarationOf,member])
  by_cases within : 62 ∈ encoding
  · obtain ⟨front,post,parts,first⟩ := List.eq_append_cons_of_mem within
    have plain := declaration_plain (fun c member => valid c (by rw [parts]; exact List.mem_append_left _ member)) first
    have shape : text "<" ++ declarationOf encoding ++ text ">" ++ rest =
        (60 :: ((text "?xml version='1.0' encoding='" ++ front) ++ [62])) ++ (post ++ (text "'?>" ++ rest)) := by
      rw [parts,declarationOf]
      simp [text]
    rw [shape,run_append] at made
    obtain ⟨declared,tagged,made⟩ := Option.bind_eq_some_iff.mp made
    have walked := (run_markup h false false false [] target plain).symm.trans tagged
    obtain ⟨_,rfl⟩ := declaration_tag h target walked
    exact quote_refused ⟨rfl,by simp⟩ balanced made
  · have plain : ∀ c ∈ declarationOf encoding, isChar c = true ∧ c ≠ 62 := by
      have ending : ∀ c ∈ text "'?", isChar c = true ∧ c ≠ 62 := by decide
      intro c member
      rcases List.mem_append.mp member with front | close
      · exact declaration_plain valid within c front
      · exact ending c close
    have shape : text "<" ++ declarationOf encoding ++ text ">" ++ rest = (60 :: (declarationOf encoding ++ [62])) ++ rest := by
      simp [text]
    rw [shape,run_append] at made
    obtain ⟨declared,tagged,_⟩ := Option.bind_eq_some_iff.mp made
    have walked := (run_markup h false false false [] target plain).symm.trans tagged
    obtain ⟨named,_⟩ := declaration_tag h target walked
    have refused := undeclared unnamed
    change isDeclaration (declarationOf encoding) = true at named
    rw [refused] at named
    cases named

end XmlrpcExtended.Xml
