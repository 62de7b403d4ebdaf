import XmlrpcExtended.SlotTotals
import XmlrpcExtended.TransitionRuns

namespace XmlrpcExtended.Stations
open TransitionRuns SlotTotals

-- Where a customer of a station is.
inductive Place where
  | arriving
  | waiting
  | serving
  | served
  | refused
  | withdrawn
  | gone
  deriving DecidableEq, Repr

def Place.inside : Place → Bool
  | .waiting | .serving => true
  | _ => false

def Place.final : Place → Bool
  | .arriving | .waiting | .serving => false
  | _ => true

-- So many customers are let in, and so many served at a time. One that does not block turns away whom it cannot let in.
structure Rules where
  capacity : Nat
  servers : Nat
  blocks : Bool

abbrev Station := List Place

def occupied (st : Station) : Nat := st.countP Place.inside

def busy (st : Station) : Nat := st.countP (· == .serving)

inductive Move where
  | arrive
  | leave (i : Nat)
  | enter (i : Nat)
  | refuse (i : Nat)
  | begin_ (i : Nat)
  | finish (i : Nat)
  | withdraw (i : Nat)
  deriving DecidableEq, Repr

def shift (st : Station) (i : Nat) (source target : Place) : Option Station :=
  if st[i]? = some source then some (st.set i target) else none

def move (rules : Rules) (st : Station) : Move → Option Station
  | .arrive => if .arriving ∈ st then none else some (st ++ [.arriving])
  | .leave i => shift st i .arriving .gone
  | .enter i => if occupied st < rules.capacity then shift st i .arriving .waiting else none
  | .refuse i => if rules.blocks = false ∧ occupied st = rules.capacity then shift st i .arriving .refused else none
  | .begin_ i => if busy st < rules.servers then shift st i .waiting .serving else none
  | .finish i => shift st i .serving .served
  | .withdraw i => shift st i .waiting .withdrawn

structure Lawful (rules : Rules) (st : Station) : Prop where
  occupied : occupied st ≤ rules.capacity
  busy : busy st ≤ rules.servers
  arriving : st.count .arriving ≤ 1

theorem shift_parts (moved : shift st i source target = some after) : st[i]? = some source ∧ after = st.set i target := by
  unfold shift at moved
  split at moved
  · cases moved
    exact ⟨‹_›,rfl⟩
  · cases moved

-- What any move but an arrival does: one customer goes on, where there is room.
inductive Shifted (rules : Rules) (st : Station) : Nat → Place → Place → Prop where
  | left : Shifted rules st i .arriving .gone
  | admitted (room : occupied st < rules.capacity) : Shifted rules st i .arriving .waiting
  | refused (turns : rules.blocks = false) (full : occupied st = rules.capacity) : Shifted rules st i .arriving .refused
  | began (idle : busy st < rules.servers) : Shifted rules st i .waiting .serving
  | finished : Shifted rules st i .serving .served
  | withdrew : Shifted rules st i .waiting .withdrawn

theorem move_cases (moved : move rules st made = some after) :
    (Place.arriving ∉ st ∧ after = st ++ [.arriving]) ∨
      ∃ i source target, Shifted rules st i source target ∧ st[i]? = some source ∧ after = st.set i target := by
  cases made with
  | arrive =>
    simp only [move] at moved
    split at moved
    · cases moved
    · cases moved
      exact .inl ⟨‹_›,rfl⟩
  | leave i => exact .inr ⟨i,_,_,.left,shift_parts moved⟩
  | enter i =>
    simp only [move] at moved
    split at moved
    · exact .inr ⟨i,_,_,.admitted ‹_›,shift_parts moved⟩
    · cases moved
  | refuse i =>
    simp only [move] at moved
    split at moved
    · rename_i full
      exact .inr ⟨i,_,_,.refused full.1 full.2,shift_parts moved⟩
    · cases moved
  | begin_ i =>
    simp only [move] at moved
    split at moved
    · exact .inr ⟨i,_,_,.began ‹_›,shift_parts moved⟩
    · cases moved
  | finish i => exact .inr ⟨i,_,_,.finished,shift_parts moved⟩
  | withdraw i => exact .inr ⟨i,_,_,.withdrew,shift_parts moved⟩

theorem countP_shift (p : Place → Bool) {st : Station} (found : st[i]? = some source) (target : Place) :
    (st.set i target).countP p + (if p source then 1 else 0) = st.countP p + (if p target then 1 else 0) := by
  have moved := countP_set (p := p) found target
  cases before : p source <;> cases now : p target <;> simp [before,now] at moved ⊢ <;> omega

theorem shifted_lawful (lawful : Lawful rules st) (shifted : Shifted rules st i source target) (found : st[i]? = some source) :
    Lawful rules (st.set i target) := by
  obtain ⟨few,working,single⟩ := lawful
  have inside : occupied (st.set i target) + _ = occupied st + _ := countP_shift Place.inside found target
  have serving : busy (st.set i target) + _ = busy st + _ := countP_shift (· == .serving) found target
  have arriving : (st.set i target).count .arriving + _ = st.count .arriving + _ := countP_shift (· == .arriving) found target
  cases shifted with
  | admitted room =>
    simp [Place.inside] at inside serving arriving
    exact ⟨by omega,by omega,by omega⟩
  | began idle =>
    simp [Place.inside] at inside serving arriving
    exact ⟨by omega,by omega,by omega⟩
  | _ =>
    simp [Place.inside] at inside serving arriving
    exact ⟨by omega,by omega,by omega⟩

theorem move_lawful (lawful : Lawful rules st) (moved : move rules st made = some after) : Lawful rules after := by
  rcases move_cases moved with ⟨none,rfl⟩ | ⟨i,source,target,shifted,found,rfl⟩
  · have fresh : st.count .arriving = 0 := List.count_eq_zero.mpr none
    refine ⟨?_,?_,?_⟩
    · simpa [occupied,Place.inside] using lawful.occupied
    · simpa [busy] using lawful.busy
    · simp [List.count_append,fresh]
  · exact shifted_lawful lawful shifted found

theorem runs_lawful (path : Runs (move rules) Anything [] moves st) : Lawful rules st :=
  path.keeps (Lawful rules) ⟨Nat.zero_le _,Nat.zero_le _,Nat.zero_le _⟩ fun _ lawful _ moved => move_lawful lawful moved

-- Whoever is through stays where he is.
theorem runs_final {st after : Station} {i : Nat} {place : Place} (path : Runs (move rules) Anything st moves after)
    (found : st[i]? = some place) (final : place.final = true) : after[i]? = some place := by
  apply path.keeps (fun st : Station => st[i]? = some place) found
  intro _ middle _ next _ here _ moved
  rcases move_cases moved with ⟨_,rfl⟩ | ⟨j,source,target,shifted,there,rfl⟩
  · rw [List.getElem?_append_left (List.getElem?_eq_some_iff.mp here).1]
    exact here
  · have apart : j ≠ i := by
      rintro rfl
      cases here.symm.trans there
      cases shifted <;> cases final
    rw [List.getElem?_set_ne apart]
    exact here

end XmlrpcExtended.Stations
