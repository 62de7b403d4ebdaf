import XmlrpcExtended.PythonText
import Mathlib.Data.List.Basic
import Mathlib.Data.List.Nodup
import Mathlib.Algebra.Order.BigOperators.Group.List
import Mathlib.Algebra.Order.Ring.Nat

namespace XmlrpcExtended.Python
variable {α V : Type} [DecidableEq α]

-- The C3 merge: the first head that is in no tail comes next.
def eligible (lists : List (List α)) (c : α) : Bool := lists.all fun order => !order.tail.contains c

def candidate (lists : List (List α)) : Option α := (lists.filterMap List.head?).find? (eligible lists)

def advance (c : α) (order : List α) : List α := if order.head? = some c then order.tail else order

def mergeWithin : Nat → List (List α) → Option (List α)
  | 0,lists => if lists.all List.isEmpty then some [] else none
  | fuel + 1,lists =>
    if lists.all List.isEmpty then some []
    else (candidate lists).bind fun c => (mergeWithin fuel (lists.map (advance c))).map (c :: ·)

def merge (lists : List (List α)) : Option (List α) := mergeWithin lists.flatten.length lists

theorem candidate_member {lists : List (List α)} {c : α} (chosen : candidate lists = some c) :
    ∃ order ∈ lists, order.head? = some c :=
  List.mem_filterMap.mp (List.mem_of_find?_eq_some chosen)

theorem candidate_eligible {lists : List (List α)} {c : α} (chosen : candidate lists = some c)
    {order : List α} (member : order ∈ lists) : c ∉ order.tail := by
  have allowed : eligible lists c = true := List.find?_some chosen
  simpa using List.all_eq_true.mp allowed order member

theorem advance_length (c : α) (order : List α) : (advance c order).length ≤ order.length := by
  unfold advance
  split
  · exact List.length_tail.trans_le (Nat.sub_le _ _)
  · exact Nat.le_refl _

theorem advance_drops {lists : List (List α)} {c : α} (chosen : candidate lists = some c)
    {order : List α} (member : order ∈ lists) : c ∉ advance c order := by
  have later := candidate_eligible chosen member
  unfold advance
  split
  · exact later
  · rename_i other
    cases order with
    | nil => exact List.not_mem_nil
    | cons first rest =>
      rintro inside
      rcases List.mem_cons.mp inside with same | rest
      · exact other (by rw [same]; rfl)
      · exact later rest

theorem advance_subset (c : α) (order : List α) : advance c order ⊆ order := by
  unfold advance
  split
  · exact (List.tail_sublist order).subset
  · exact fun _ member => member

theorem sublist_advanced {c : α} {order result : List α} (rest : (advance c order).Sublist result) :
    order.Sublist (c :: result) := by
  unfold advance at rest
  split at rest
  · rename_i head
    obtain ⟨tail,rfl⟩ : ∃ tail, order = c :: tail := List.head?_eq_some_iff.mp head
    exact rest.cons_cons c
  · exact rest.cons c

theorem flatten_advance {lists : List (List α)} {c : α} (chosen : candidate lists = some c) :
    (lists.map (advance c)).flatten.length < lists.flatten.length := by
  obtain ⟨order,member,head⟩ := candidate_member chosen
  have shorter : (advance c order).length < order.length := by
    obtain ⟨tail,rfl⟩ : ∃ tail, order = c :: tail := List.head?_eq_some_iff.mp head
    simp [advance]
  rw [List.length_flatten,List.length_flatten,List.map_map]
  exact List.sum_lt_sum _ _ (fun other _ => advance_length c other) ⟨order,member,shorter⟩

theorem mergeWithin_enough {fuel more : Nat} {lists : List (List α)} (enough : lists.flatten.length ≤ fuel)
    (le : fuel ≤ more) : mergeWithin more lists = mergeWithin fuel lists := by
  induction fuel generalizing more lists with
  | zero =>
    have empty : lists.all List.isEmpty = true := by
      have none_ : lists.flatten = [] := List.eq_nil_of_length_eq_zero (Nat.le_zero.mp enough)
      simpa [List.flatten_eq_nil_iff] using none_
    cases more <;> simp [mergeWithin,empty]
  | succ fuel ih =>
    cases more with
    | zero => omega
    | succ more =>
      rw [mergeWithin,mergeWithin]
      congr 1
      apply Option.bind_congr
      intro c chosen
      have shorter := flatten_advance chosen
      rw [ih (by omega) (by omega)]

theorem merge_step (lists : List (List α)) :
    merge lists = if lists.all List.isEmpty then some []
      else (candidate lists).bind fun c => (merge (lists.map (advance c))).map (c :: ·) := by
  unfold merge
  cases length : lists.flatten.length with
  | zero =>
    have empty : lists.all List.isEmpty = true := by
      simpa [List.flatten_eq_nil_iff] using List.eq_nil_of_length_eq_zero length
    simp [mergeWithin,empty]
  | succ fuel =>
    rw [mergeWithin]
    congr 1
    apply Option.bind_congr
    intro c chosen
    have shorter := flatten_advance chosen
    rw [mergeWithin_enough (Nat.le_refl _) (by omega : (lists.map (advance c)).flatten.length ≤ fuel)]

inductive Merged : List (List α) → List α → Prop where
  | done (empty : ∀ order ∈ lists, order = []) : Merged lists []
  | next (chosen : candidate lists = some c) (rest : Merged (lists.map (advance c)) result) : Merged lists (c :: result)

theorem all_empty {β : Type} {lists : List (List β)} : lists.all List.isEmpty = true ↔ ∀ order ∈ lists, order = [] := by
  simp [List.all_eq_true]

theorem Merged.merge {lists : List (List α)} {result : List α} (merged : Merged lists result) : merge lists = some result := by
  induction merged with
  | done empty => rw [merge_step,if_pos (all_empty.mpr empty)]
  | @next lists c result chosen rest ih =>
    have some_ : ¬ lists.all List.isEmpty = true := by
      intro empty
      obtain ⟨order,member,head⟩ := candidate_member chosen
      rw [all_empty.mp empty order member] at head
      cases head
    rw [merge_step,if_neg some_,chosen,Option.bind_some,ih]
    rfl

theorem merged_of_merge {lists : List (List α)} {result : List α} (merged : merge lists = some result) :
    Merged lists result := by
  induction result generalizing lists with
  | nil =>
    rw [merge_step] at merged
    split at merged
    · rename_i empty
      exact .done (all_empty.mp empty)
    · obtain ⟨first,_,rest⟩ := Option.bind_eq_some_iff.mp merged
      obtain ⟨tail,_,same⟩ := Option.map_eq_some_iff.mp rest
      cases same
  | cons c result ih =>
    rw [merge_step] at merged
    split at merged
    · cases merged
    · obtain ⟨first,chosen,rest⟩ := Option.bind_eq_some_iff.mp merged
      obtain ⟨tail,rest,same⟩ := Option.map_eq_some_iff.mp rest
      cases same
      exact .next chosen (ih rest)

-- Every list keeps its order in the result.
theorem Merged.sublist {lists : List (List α)} {result : List α} (merged : Merged lists result) {order : List α}
    (member : order ∈ lists) : order.Sublist result := by
  induction merged generalizing order with
  | done empty => rw [empty order member]
  | @next lists c result chosen rest ih => exact sublist_advanced (ih (List.mem_map_of_mem member))

theorem Merged.members {lists : List (List α)} {result : List α} (merged : Merged lists result) {c : α}
    (inside : c ∈ result) : ∃ order ∈ lists, c ∈ order := by
  induction merged with
  | done empty => cases inside
  | @next lists first result chosen rest ih =>
    rcases List.mem_cons.mp inside with rfl | later
    · obtain ⟨order,member,head⟩ := candidate_member chosen
      exact ⟨order,member,List.mem_of_mem_head? head⟩
    · obtain ⟨_,advanced,inside⟩ := ih later
      obtain ⟨order,member,rfl⟩ := List.mem_map.mp advanced
      exact ⟨order,member,advance_subset first order inside⟩

theorem Merged.nodup {lists : List (List α)} {result : List α} (merged : Merged lists result) : result.Nodup := by
  induction merged with
  | done empty => exact List.nodup_nil
  | @next lists c result chosen rest ih =>
    refine List.nodup_cons.mpr ⟨fun later => ?_,ih⟩
    obtain ⟨_,advanced,inside⟩ := rest.members later
    obtain ⟨order,member,rfl⟩ := List.mem_map.mp advanced
    exact advance_drops chosen member inside

-- A list that all others agree with is the result.
theorem merged_longest {lists : List (List α)} {longest : List α} (distinct : longest.Nodup) (member : longest ∈ lists)
    (agree : ∀ order ∈ lists, order.Sublist longest) : Merged lists longest := by
  induction longest generalizing lists with
  | nil => exact .done fun order member => List.sublist_nil.mp (agree order member)
  | cons c longest ih =>
    obtain ⟨fresh,distinct⟩ := List.nodup_cons.mp distinct
    have tails : ∀ order ∈ lists, order.tail.Sublist longest := fun order member => (agree order member).tail
    have free : eligible lists c = true := by
      refine List.all_eq_true.mpr fun order member => ?_
      have absent : c ∉ order.tail := fun later => fresh ((tails order member).subset later)
      simpa using absent
    have chosen : candidate lists = some c := by
      cases found : candidate lists with
      | none =>
        have head : c ∈ lists.filterMap List.head? := List.mem_filterMap.mpr ⟨_,member,rfl⟩
        exact absurd free (List.find?_eq_none.mp found c head)
      | some first =>
        obtain ⟨order,listed,head⟩ := candidate_member found
        have inside := (agree order listed).subset (List.mem_of_mem_head? head)
        rcases List.mem_cons.mp inside with rfl | later
        · rfl
        · exact absurd later (candidate_eligible found member)
    refine .next chosen (ih distinct (List.mem_map.mpr ⟨_,member,by simp [advance]⟩) ?_)
    intro advanced inside
    obtain ⟨order,listed,rfl⟩ := List.mem_map.mp inside
    unfold advance
    split
    · exact tails order listed
    · rename_i other
      cases agree order listed with
      | cons _ rest => exact rest
      | cons_cons _ rest => exact absurd rfl other

-- Classes are numbered in the order of their creation, and each has the linearisation that it was created with.
structure Class (V : Type) where
  name : Text
  bases : List Nat
  dict : List (Text × V)
  mro : List Nat
  deriving DecidableEq

def mroOf (classes : List (Class V)) (c : Nat) : List Nat := (classes[c]?).elim [] (·.mro)

-- `type(name, bases, dict)`; the new class comes last.
def create (classes : List (Class V)) (name : Text) (bases : List Nat) (dict : List (Text × V)) : Option (List (Class V)) :=
  if bases.Nodup ∧ ∀ base ∈ bases, base < classes.length then
    (merge (bases.map (mroOf classes) ++ [bases])).map fun rest => classes ++ [⟨name,bases,dict,classes.length :: rest⟩]
  else none

inductive Built : List (Class V) → Prop where
  | empty : Built []
  | create (built : Built classes) (created : create classes name bases dict = some after) : Built after

-- The first class of the order that has the attribute, and its value there.
def found (classes : List (Class V)) (order : List Nat) (name : Text) : Option (Nat × V) :=
  order.findSome? fun c => ((classes[c]?).bind fun owner => owner.dict.lookup name).map (c,·)

def resolve (classes : List (Class V)) (c : Nat) (name : Text) : Option (Nat × V) := found classes (mroOf classes c) name

-- `super().name` in a method of the class `owner`, on an instance of `c`.
def superResolve (classes : List (Class V)) (c owner : Nat) (name : Text) : Option (Nat × V) :=
  found classes ((mroOf classes c).dropWhile (· != owner)).tail name

theorem mroOf_some {classes : List (Class V)} {c : Nat} {k : Class V} (here : classes[c]? = some k) :
    mroOf classes c = k.mro := by
  rw [mroOf,here]
  rfl

theorem mroOf_known {classes : List (Class V)} {c ancestor : Nat} (member : ancestor ∈ mroOf classes c) :
    c < classes.length := by
  by_contra beyond
  rw [mroOf,List.getElem?_eq_none (Nat.le_of_not_lt beyond)] at member
  cases member

theorem mroOf_old {classes : List (Class V)} {c : Nat} (known : c < classes.length) (k : Class V) :
    mroOf (classes ++ [k]) c = mroOf classes c := by
  rw [mroOf,mroOf,List.getElem?_append_left known]

theorem mroOf_new (classes : List (Class V)) (k : Class V) : mroOf (classes ++ [k]) classes.length = k.mro :=
  mroOf_some List.getElem?_concat_length

theorem create_spec {classes after : List (Class V)} {name : Text} {bases : List Nat} {dict : List (Text × V)} :
    create classes name bases dict = some after ↔ bases.Nodup ∧ (∀ base ∈ bases, base < classes.length) ∧
      ∃ rest, Merged (bases.map (mroOf classes) ++ [bases]) rest ∧
        after = classes ++ [⟨name,bases,dict,classes.length :: rest⟩] := by
  unfold create
  constructor
  · intro created
    split at created
    · rename_i valid
      obtain ⟨rest,merged,rfl⟩ := Option.map_eq_some_iff.mp created
      exact ⟨valid.1,valid.2,rest,merged_of_merge merged,rfl⟩
    · cases created
  · rintro ⟨distinct,known,rest,merged,rfl⟩
    rw [if_pos ⟨distinct,known⟩,merged.merge]
    rfl

theorem added {classes : List (Class V)} {new k : Class V} {c : Nat} (here : (classes ++ [new])[c]? = some k) :
    c < classes.length ∧ classes[c]? = some k ∨ c = classes.length ∧ k = new := by
  obtain ⟨bound,_⟩ := List.getElem?_eq_some_iff.mp here
  rw [List.length_append,List.length_singleton] at bound
  rcases Nat.lt_or_eq_of_le (Nat.le_of_lt_succ bound) with old | rfl
  · exact .inl ⟨old,by rwa [List.getElem?_append_left old] at here⟩
  · rw [List.getElem?_concat_length] at here
    exact .inr ⟨rfl,(Option.some.inj here).symm⟩

structure Ordered (classes : List (Class V)) : Prop where
  linearised : ∀ (c : Nat) (k : Class V), classes[c]? = some k →
    ∃ rest, k.mro = c :: rest ∧ Merged (k.bases.map (mroOf classes) ++ [k.bases]) rest ∧ ∀ ancestor ∈ rest, ancestor < c
  inherited : ∀ c, ∀ ancestor ∈ mroOf classes c, (mroOf classes ancestor).Sublist (mroOf classes c)

theorem Ordered.below {classes : List (Class V)} (ordered : Ordered classes) {c ancestor : Nat}
    (member : ancestor ∈ mroOf classes c) : ancestor ≤ c := by
  have here := List.getElem?_eq_getElem (mroOf_known member)
  obtain ⟨rest,mro,_,below⟩ := ordered.linearised c _ here
  rw [mroOf_some here,mro] at member
  rcases List.mem_cons.mp member with rfl | later
  · exact Nat.le_refl _
  · exact Nat.le_of_lt (below ancestor later)

theorem Ordered.nodup {classes : List (Class V)} (ordered : Ordered classes) (c : Nat) : (mroOf classes c).Nodup := by
  cases here : classes[c]? with
  | none => simp [mroOf,here]
  | some k =>
    obtain ⟨rest,mro,merged,below⟩ := ordered.linearised c k here
    rw [mroOf_some here,mro]
    exact List.nodup_cons.mpr ⟨fun member => Nat.lt_irrefl c (below c member),merged.nodup⟩

theorem Ordered.own {classes : List (Class V)} (ordered : Ordered classes) {c : Nat} (known : c < classes.length) :
    (mroOf classes c).head? = some c := by
  have here := List.getElem?_eq_getElem known
  obtain ⟨rest,mro,_⟩ := ordered.linearised c _ here
  rw [mroOf_some here,mro]
  rfl

theorem Ordered.base_below {classes : List (Class V)} (ordered : Ordered classes) {c base : Nat} {k : Class V}
    (here : classes[c]? = some k) (member : base ∈ k.bases) : base < c := by
  obtain ⟨rest,_,merged,below⟩ := ordered.linearised c k here
  exact below base ((merged.sublist (List.mem_append_right _ (.head _))).subset member)

theorem Ordered.fresh {classes : List (Class V)} (ordered : Ordered classes) {bases rest : List Nat}
    (known : ∀ base ∈ bases, base < classes.length) (merged : Merged (bases.map (mroOf classes) ++ [bases]) rest)
    {ancestor : Nat} (member : ancestor ∈ rest) : ancestor < classes.length := by
  obtain ⟨order,listed,inside⟩ := merged.members member
  rcases List.mem_append.mp listed with parent | own
  · obtain ⟨base,member,rfl⟩ := List.mem_map.mp parent
    exact Nat.lt_of_le_of_lt (ordered.below inside) (known base member)
  · rw [List.mem_singleton.mp own] at inside
    exact known ancestor inside

theorem Ordered.create {classes after : List (Class V)} {name : Text} {bases : List Nat} {dict : List (Text × V)}
    (ordered : Ordered classes) (created : create classes name bases dict = some after) : Ordered after := by
  obtain ⟨distinct,known,rest,merged,rfl⟩ := create_spec.mp created
  have fresh : ∀ ancestor ∈ rest, ancestor < classes.length := fun _ member => ordered.fresh known merged member
  have kept : ∀ (bases : List Nat) (k : Class V), (∀ base ∈ bases, base < classes.length) →
      bases.map (mroOf (classes ++ [k])) = bases.map (mroOf classes) :=
    fun bases k known => List.map_congr_left fun base member => mroOf_old (known base member) k
  refine ⟨fun c k here => ?_,fun c ancestor member => ?_⟩
  · rcases added here with ⟨old,here⟩ | ⟨rfl,rfl⟩
    · rw [kept k.bases _ fun base member => Nat.lt_trans (ordered.base_below here member) old]
      exact ordered.linearised c k here
    · rw [kept bases _ known]
      exact ⟨rest,rfl,merged,fresh⟩
  · have bound := mroOf_known member
    rw [List.length_append,List.length_singleton] at bound
    rcases Nat.lt_or_eq_of_le (Nat.le_of_lt_succ bound) with old | rfl
    · rw [mroOf_old old] at member ⊢
      rw [mroOf_old (Nat.lt_of_le_of_lt (ordered.below member) old)]
      exact ordered.inherited c ancestor member
    · rw [mroOf_new] at member ⊢
      rcases List.mem_cons.mp member with rfl | later
      · rw [mroOf_new]
      · rw [mroOf_old (fresh ancestor later)]
        obtain ⟨order,listed,inside⟩ := merged.members later
        rcases List.mem_append.mp listed with parent | own
        · obtain ⟨base,_,rfl⟩ := List.mem_map.mp parent
          exact (ordered.inherited base ancestor inside).trans ((merged.sublist listed).trans (List.sublist_cons_self _ _))
        · rw [List.mem_singleton.mp own] at inside
          have parent := List.mem_append_left [bases] (List.mem_map_of_mem (f := mroOf classes) inside)
          exact (merged.sublist parent).trans (List.sublist_cons_self _ _)

theorem Built.ordered {classes : List (Class V)} (built : Built classes) : Ordered classes := by
  induction built with
  | empty => exact ⟨fun c k here => by simp at here,fun c ancestor member => by simp [mroOf] at member⟩
  | create built created ih => exact ih.create created

-- A class with one base has the order of its base after itself.
theorem Ordered.single {classes : List (Class V)} (ordered : Ordered classes) {base : Nat} (known : base < classes.length) :
    Merged [mroOf classes base,[base]] (mroOf classes base) := by
  refine merged_longest (ordered.nodup base) (.head _) fun order listed => ?_
  rcases List.mem_pair.mp listed with rfl | rfl
  · exact List.Sublist.refl _
  · exact List.singleton_sublist.mpr (List.mem_of_mem_head? (ordered.own known))

-- A base whose other ancestors are all the second base's comes before the second base's order.
theorem Ordered.mixed {classes : List (Class V)} (ordered : Ordered classes) {c base : Nat} {rest : List Nat}
    (mixin : mroOf classes c = c :: rest) (known : base < classes.length) (absent : c ∉ mroOf classes base)
    (shared : rest.Sublist (mroOf classes base)) :
    Merged [mroOf classes c,mroOf classes base,[c,base]] (c :: mroOf classes base) := by
  have alone : base ≠ c := by
    rintro rfl
    exact absent (List.mem_of_mem_head? (ordered.own known))
  have distinct : c ∉ rest := fun member => absent (shared.subset member)
  have tail : c ∉ (mroOf classes base).tail := fun member => absent ((List.tail_sublist _).subset member)
  have free : eligible [mroOf classes c,mroOf classes base,[c,base]] c = true := by
    simp [eligible,mixin,distinct,tail,alone.symm]
  have chosen : candidate [mroOf classes c,mroOf classes base,[c,base]] = some c := by
    rw [candidate,List.filterMap_cons,mixin,List.head?_cons,← mixin,List.find?_cons,free]
  have advanced : [mroOf classes c,mroOf classes base,[c,base]].map (advance c) = [rest,mroOf classes base,[base]] := by
    simp [advance,mixin,ordered.own known,alone]
  refine .next chosen ?_
  rw [advanced]
  refine merged_longest (ordered.nodup base) (.tail _ (.head _)) fun order listed => ?_
  simp only [List.mem_cons,List.not_mem_nil,or_false] at listed
  rcases listed with rfl | rfl | rfl
  · exact shared
  · exact List.Sublist.refl _
  · exact List.singleton_sublist.mpr (List.mem_of_mem_head? (ordered.own known))

theorem lookup_absent {dict : List (Text × V)} {name : Text} (absent : name ∉ dict.map (·.1)) : dict.lookup name = none := by
  rw [List.lookup_eq_none_iff]
  intro entry member
  have other : name ≠ entry.1 := by
    rintro rfl
    exact absent (List.mem_map_of_mem member)
  simpa using other

theorem found_kept {classes : List (Class V)} {order : List Nat} (known : ∀ c ∈ order, c < classes.length) (k : Class V)
    (name : Text) : found (classes ++ [k]) order name = found classes order name := by
  induction order with
  | nil => rfl
  | cons c order ih =>
    have rest := ih fun other member => known other (.tail _ member)
    unfold found at rest ⊢
    rw [List.findSome?_cons,List.findSome?_cons,List.getElem?_append_left (known c (.head _)),rest]

theorem found_cons {classes : List (Class V)} {c : Nat} {k : Class V} (here : classes[c]? = some k) (order : List Nat)
    (name : Text) : found classes (c :: order) name = (k.dict.lookup name).elim (found classes order name) fun v => some (c,v) := by
  unfold found
  rw [List.findSome?_cons,here,Option.bind_some]
  cases k.dict.lookup name <;> rfl

theorem Ordered.order_known {classes : List (Class V)} (ordered : Ordered classes) (c : Nat) :
    ∀ ancestor ∈ mroOf classes c, ancestor < classes.length :=
  fun _ member => Nat.lt_of_le_of_lt (ordered.below member) (mroOf_known member)

theorem superResolve_own {classes : List (Class V)} {c : Nat} {rest : List Nat} (order : mroOf classes c = c :: rest)
    (name : Text) : superResolve classes c c name = found classes rest name := by
  have onward : ((c :: rest).dropWhile (· != c)).tail = rest := by simp
  rw [superResolve,order,onward]

theorem superResolve_behind {classes : List (Class V)} (ordered : Ordered classes) {c owner : Nat} {front : List Nat}
    (inside : owner ∈ mroOf classes c) (ahead : owner ∉ front) (name : Text) (bases : List Nat) (dict : List (Text × V))
    (attr : Text) :
    superResolve (classes ++ [⟨name,bases,dict,classes.length :: (front ++ mroOf classes c)⟩]) classes.length owner attr =
      superResolve classes c owner attr := by
  have known := ordered.order_known c
  have before : ∀ other ∈ classes.length :: front, (other != owner) = true := by
    intro other member
    rw [bne_iff_ne]
    rintro rfl
    rcases List.mem_cons.mp member with same | front
    · exact absurd (known other inside) (by omega)
    · exact ahead front
  rw [superResolve,superResolve,mroOf_new,← List.cons_append,List.dropWhile_append_of_pos before]
  refine found_kept (fun other member => known other ?_) _ attr
  exact (List.dropWhile_sublist _).subset ((List.tail_sublist _).subset member)

def Lacks (classes : List (Class V)) (c : Nat) (name : Text) : Prop :=
  ((classes[c]?).bind fun owner => owner.dict.lookup name) = none

theorem found_lacks {classes : List (Class V)} {c : Nat} {name : Text} (lacks : Lacks classes c name) (order : List Nat) :
    found classes (c :: order) name = found classes order name := by
  unfold found
  rw [List.findSome?_cons,show ((classes[c]?).bind fun owner => owner.dict.lookup name) = none from lacks]
  rfl

-- The class `c` has the attribute; of the others only those that come after it may.
theorem found_first {classes : List (Class V)} {order rest : List Nat} {c : Nat} {k : Class V} {name : Text} {v : V}
    (distinct : order.Nodup) (inherited : (c :: rest).Sublist order) (here : classes[c]? = some k)
    (value : k.dict.lookup name = some v) (others : ∀ other ∈ order, other ∈ c :: rest ∨ Lacks classes other name) :
    found classes order name = some (c,v) := by
  induction order with
  | nil => cases inherited
  | cons first order ih =>
    obtain ⟨fresh,distinct⟩ := List.nodup_cons.mp distinct
    cases inherited with
    | cons_cons _ _ =>
      rw [found_cons here,value]
      rfl
    | cons _ later =>
      have lacks : Lacks classes first name := by
        rcases others first (.head _) with member | lacks
        · exact absurd (later.subset member) fresh
        · exact lacks
      rw [found_lacks lacks]
      exact ih distinct later fun other member => others other (.tail _ member)

theorem onward_after {order rest : List Nat} {c : Nat} (distinct : order.Nodup) (inherited : (c :: rest).Sublist order) :
    (order.dropWhile (· != c)).tail.Nodup ∧ c ∉ (order.dropWhile (· != c)).tail ∧
      rest.Sublist (order.dropWhile (· != c)).tail := by
  induction order with
  | nil => cases inherited
  | cons first order ih =>
    obtain ⟨fresh,others⟩ := List.nodup_cons.mp distinct
    cases inherited with
    | cons_cons _ later => simpa using ⟨others,fresh,later⟩
    | cons _ later =>
      have other : first ≠ c := by
        rintro rfl
        exact fresh (later.subset (.head _))
      have onward := ih others later
      rwa [List.dropWhile_cons_of_pos (by simpa using other)]

end XmlrpcExtended.Python
