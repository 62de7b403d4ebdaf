import XmlrpcExtended.ClientCalls
import XmlrpcExtended.SlotTotals
import Mathlib.Data.List.Infix
import Mathlib.Data.List.Induction

namespace XmlrpcExtended.Client
variable {τ : Type}

inductive Context where
  | enter
  | exit
  deriving DecidableEq, Repr

structure Returned (τ : Type) where
  proxy : ServerProxy τ
  closed : Bool

def Returned.close (r : Returned τ) : Returned τ := ⟨{r.proxy with transport := r.proxy.transport.close},true⟩

-- `slot` is `self._proxy`, as the place of the proxy among those that `__enter__` returned.
structure Opened (τ : Type) where
  slot : Option Nat
  returned : List (Returned τ)

-- Where the constructor of the proxy raises, `__enter__` does and the slot stays as it was.
def Opened.enter (lib : Library) (client : XMLRPCClient τ) (s : Opened τ) : Opened τ :=
  match client.enter lib with
  | none => s
  | some proxy => ⟨some s.returned.length,s.returned ++ [⟨proxy,false⟩]⟩

def Opened.exit (s : Opened τ) : Opened τ :=
  match s.slot with
  | none => s
  | some i => ⟨none,s.returned.modify i Returned.close⟩

def Opened.step (lib : Library) (client : XMLRPCClient τ) (s : Opened τ) : Context → Opened τ
  | .enter => s.enter lib client
  | .exit => s.exit

def opened (lib : Library) (client : XMLRPCClient τ) (calls : List Context) : Opened τ :=
  calls.foldl (Opened.step lib client) ⟨none,[]⟩

def Opened.unclosed (s : Opened τ) : Nat := s.returned.countP fun r => !r.closed

def blocks (calls : List Context) : Nat := calls.count .enter - calls.count .exit

def Nested (calls : List Context) : Prop := ∀ before, before <+: calls → before.count .exit ≤ before.count .enter

structure Tidy (s : Opened τ) (calls : List Context) : Prop where
  ended : calls.count .exit = calls.count .enter → ∀ r ∈ s.returned, r.closed = true
  bounded : s.unclosed ≤ blocks calls

-- No exit comes right after an exit.
def Apart (calls : List Context) : Prop := ¬ [Context.exit,.exit] <:+: calls

instance (calls : List Context) : Decidable (Nested calls) :=
  decidable_of_iff (∀ before ∈ calls.inits, before.count .exit ≤ before.count .enter) (by simp [Nested])

instance (calls : List Context) : Decidable (Apart calls) := inferInstanceAs (Decidable (¬ _))

-- The slot's proxy is an unclosed one.
def Opened.Sound (s : Opened τ) : Prop := ∀ i, s.slot = some i → ∃ r, s.returned[i]? = some r ∧ r.closed = false

theorem opened_snoc (lib : Library) (client : XMLRPCClient τ) (calls : List Context) (call : Context) :
    opened lib client (calls ++ [call]) = (opened lib client calls).step lib client call := by
  rw [opened,List.foldl_append]
  rfl

theorem modify_unclosed {returned : List (Returned τ)} {i : Nat} {r : Returned τ} (here : returned[i]? = some r)
    (open_ : r.closed = false) :
    (returned.modify i Returned.close).countP (fun r => !r.closed) + 1 = returned.countP fun r => !r.closed := by
  have replaced : returned.modify i Returned.close = returned.set i r.close := by
    rw [List.modify_eq_set_getElem?,here]
    rfl
  have closed : r.close.closed = true := rfl
  have count := SlotTotals.countP_set (p := fun r => !r.closed) here r.close
  simp only [open_,closed,Bool.not_false,Bool.not_true,Bool.false_eq_true,if_true,if_false] at count
  rw [replaced]
  omega

section Entering
variable {lib : Library} {client : XMLRPCClient τ} {proxy : ServerProxy τ}

theorem enter_unclosed (entered : client.enter lib = some proxy) (s : Opened τ) :
    (s.enter lib client).unclosed = s.unclosed + 1 := by
  rw [Opened.enter,entered]
  simp [Opened.unclosed]

theorem exit_unclosed {s : Opened τ} (sound : s.Sound) :
    s.exit.unclosed + (if s.slot.isSome then 1 else 0) = s.unclosed := by
  cases full : s.slot with
  | none => simp [Opened.exit,full]
  | some i =>
    obtain ⟨r,here,open_⟩ := sound i full
    simpa [Opened.exit,full,Opened.unclosed] using modify_unclosed here open_

theorem entered_slot (entered : client.enter lib = some proxy) (s : Opened τ) :
    (s.enter lib client).slot = some s.returned.length := by
  rw [Opened.enter,entered]

theorem exited_slot (s : Opened τ) : s.exit.slot = none := by
  cases full : s.slot <;> simp [Opened.exit,full]

theorem step_sound (entered : client.enter lib = some proxy) (s : Opened τ) (call : Context) :
    (s.step lib client call).Sound := by
  intro i same
  cases call with
  | enter =>
    rw [Opened.step,entered_slot entered] at same
    cases same
    rw [Opened.step,Opened.enter,entered]
    exact ⟨⟨proxy,false⟩,List.getElem?_concat_length,rfl⟩
  | exit =>
    rw [Opened.step,exited_slot] at same
    cases same

theorem opened_sound (entered : client.enter lib = some proxy) (calls : List Context) : (opened lib client calls).Sound := by
  rcases List.eq_nil_or_concat' calls with rfl | ⟨earlier,call,rfl⟩
  · exact fun i same => by cases same
  · rw [opened_snoc]
    exact step_sound entered _ call

-- An exit that finds the slot empty closes nothing, every other closes one proxy.
theorem opened_count (entered : client.enter lib = some proxy) (calls : List Context) :
    calls.count .enter ≤ (opened lib client calls).unclosed + calls.count .exit := by
  induction calls using List.reverseRecOn with
  | nil => exact Nat.zero_le _
  | append_singleton calls call ih =>
    rw [opened_snoc,List.count_append,List.count_append]
    cases call with
    | enter =>
      have more := enter_unclosed entered (opened lib client calls)
      simp only [Opened.step,more,List.count_singleton_self]
      omega
    | exit =>
      have less := exit_unclosed (opened_sound entered calls)
      simp only [Opened.step,List.count_singleton_self]
      split at less <;> simp <;> omega

theorem opened_apart (entered : client.enter lib = some proxy) {calls : List Context} (nested : Nested calls)
    (apart : Apart calls) : (opened lib client calls).unclosed + calls.count .exit = calls.count .enter := by
  induction calls using List.reverseRecOn with
  | nil => rfl
  | append_singleton calls call ih =>
    have earlier := ih (fun before part => nested before (part.trans (List.prefix_append _ _)))
      (fun pair => apart (pair.trans (List.prefix_append _ _).isInfix))
    rw [opened_snoc,List.count_append,List.count_append]
    cases call with
    | enter =>
      have more := enter_unclosed entered (opened lib client calls)
      simp [Opened.step,more]
      omega
    | exit =>
      have full : (opened lib client calls).slot.isSome := by
        rcases List.eq_nil_or_concat' calls with rfl | ⟨before,last,rfl⟩
        · have first := nested [.exit] (List.prefix_refl _)
          simp at first
        · cases last with
          | enter =>
            rw [opened_snoc,Opened.step,entered_slot entered]
            rfl
          | exit => exact absurd ⟨before,[],by simp⟩ apart
      have less := exit_unclosed (opened_sound entered calls)
      rw [if_pos full] at less
      simp [Opened.step]
      omega

end Entering

theorem opened_none {lib : Library} {client : XMLRPCClient τ} (raises : client.enter lib = none) (calls : List Context) :
    opened lib client calls = ⟨none,[]⟩ := by
  induction calls using List.reverseRecOn with
  | nil => rfl
  | append_singleton calls call ih =>
    rw [opened_snoc,ih]
    cases call with
    | enter => rw [Opened.step,Opened.enter,raises]
    | exit => rfl

theorem proxies_closed (lib : Library) (client : XMLRPCClient τ) {calls : List Context} (nested : Nested calls) :
    (∀ before, before <+: calls → Tidy (opened lib client before) before) ↔ (client.enter lib = none ∨ Apart calls) := by
  constructor
  · intro tidy
    cases entered : client.enter lib with
    | none => exact .inl rfl
    | some proxy =>
      refine .inr ?_
      rintro ⟨before,after,parts⟩
      have inside : before ++ [.exit,.exit] <+: calls := ⟨after,parts⟩
      have bounded := (tidy _ inside).bounded
      have enough := nested _ inside
      have count := opened_count entered (before ++ [.exit])
      have again : before ++ [.exit,.exit] = (before ++ [.exit]) ++ [.exit] := by simp
      have same : (opened lib client (before ++ [.exit,.exit])).unclosed = (opened lib client (before ++ [.exit])).unclosed := by
        have empty : (opened lib client (before ++ [.exit])).slot = none := by
          rw [opened_snoc]
          exact exited_slot _
        rw [again,opened_snoc,Opened.step,Opened.exit,empty]
      rw [same,blocks] at bounded
      simp only [List.count_append] at count bounded enough
      have one : [Context.exit].count .exit = 1 ∧ [Context.exit].count .enter = 0 := by decide
      have two : [Context.exit,.exit].count .exit = 2 ∧ [Context.exit,.exit].count .enter = 0 := by decide
      omega
  · intro condition before part
    cases entered : client.enter lib with
    | none =>
      rw [opened_none entered]
      exact ⟨fun _ r member => absurd member List.not_mem_nil,Nat.zero_le _⟩
    | some proxy =>
      have apart : Apart calls := by
        rcases condition with raises | apart
        · rw [entered] at raises
          cases raises
        · exact apart
      have count := opened_apart entered (fun earlier inside => nested earlier (inside.trans part))
        (fun pair => apart (pair.trans part.isInfix))
      refine ⟨fun ended => ?_,?_⟩
      · have none_ : (opened lib client before).unclosed = 0 := by omega
        intro r member
        simpa using List.countP_eq_zero.mp none_ r member
      · rw [blocks]
        omega

theorem proxies_closed_sequential : Tidy (opened plainLibrary (localClient "http") [.enter,.exit,.enter,.exit])
    [.enter,.exit,.enter,.exit] :=
  (proxies_closed plainLibrary (localClient "http") (by decide)).mpr (.inr (by decide)) _ (List.prefix_refl _)

-- The second exit finds the slot that the first one emptied.
theorem overlapped_unclosed : Nested [.enter,.enter,.exit,.exit] ∧
    ∃ r ∈ (opened plainLibrary (localClient "http") [.enter,.enter,.exit,.exit]).returned, r.closed = false := by
  have leaked : ∃ r, (opened plainLibrary (localClient "http") [.enter,.enter,.exit,.exit]).returned[0]? = some r ∧
      r.closed = false := ⟨_,rfl,rfl⟩
  obtain ⟨r,here,open_⟩ := leaked
  exact ⟨by decide,r,List.mem_of_getElem? here,open_⟩

end XmlrpcExtended.Client
