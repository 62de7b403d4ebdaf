import Mathlib.Data.Rat.Defs
import Mathlib.Algebra.Order.Ring.Rat
import XmlrpcExtended.PythonText

namespace XmlrpcExtended

inductive ServerOverloadPolicy where
  | BLOCK
  | CLOSE
  | FAULT
  | HTTP_503
  deriving DecidableEq, Repr

def ServerOverloadPolicy.value : ServerOverloadPolicy → String
  | .BLOCK => "block"
  | .CLOSE => "close"
  | .FAULT => "fault"
  | .HTTP_503 => "http_503"

structure ValueError where
  message : String
  deriving DecidableEq, Repr

-- `ServerOverloadPolicy(overload_policy)` takes a member or its string value.
def ServerOverloadPolicy.normalize : ServerOverloadPolicy ⊕ String → Except ValueError ServerOverloadPolicy
  | .inl member => .ok member
  | .inr name =>
    if name = "block" then .ok .BLOCK
    else if name = "close" then .ok .CLOSE
    else if name = "fault" then .ok .FAULT
    else if name = "http_503" then .ok .HTTP_503
    else .error ⟨"'" ++ name ++ "' is not a valid ServerOverloadPolicy"⟩

theorem ServerOverloadPolicy.normalize_value (policy : ServerOverloadPolicy) :
    normalize (.inr policy.value) = .ok policy := by
  cases policy <;> rfl

-- The arguments of `ThreadPoolXMLRPCServer.__init__` that it checks or keeps.
structure Arguments where
  max_workers : Int := 8
  max_pending : Option Int := none
  request_queue_size : Int := 64
  overload_policy : ServerOverloadPolicy ⊕ String := .inl .BLOCK
  max_request_size : Int := 1048576
  overload_fault_code : Int := -32500
  overload_fault_string : Text := text "Server overloaded"
  connection_timeout : Option ℚ := none

def Arguments.effectivePending (args : Arguments) : Int := args.max_pending.getD args.max_workers

-- `XMLRPCServerConfig` as the constructor leaves it, `max_pending` resolved.
structure XMLRPCServerConfig where
  max_workers : Nat
  max_pending : Nat
  request_queue_size : Nat
  overload_policy : ServerOverloadPolicy
  max_request_size : Nat
  overload_fault_code : Int
  overload_fault_string : Text
  connection_timeout : Option ℚ
  workers_positive : 1 ≤ max_workers
  queue_positive : 1 ≤ request_queue_size
  size_positive : 1 ≤ max_request_size
  timeout_positive : ∀ t ∈ connection_timeout, 0 < t

def XMLRPCServerConfig.sized (workers pending : Nat) (policy : ServerOverloadPolicy) : XMLRPCServerConfig :=
  ⟨workers + 1,pending,64,policy,1048576,-32500,text "Server overloaded",none,by omega,by decide,by decide,by simp⟩

def XMLRPCServerConfig.capacity (cfg : XMLRPCServerConfig) : Nat := cfg.max_workers + cfg.max_pending

-- The checks in the source's order: the first that fails names its parameter.
def Arguments.configure (args : Arguments) : Except ValueError XMLRPCServerConfig := do
  let policy ← ServerOverloadPolicy.normalize args.overload_policy
  if workers : 1 ≤ args.max_workers then
    if pending : 0 ≤ args.effectivePending then
      if backlog : 1 ≤ args.request_queue_size then
        if size : 1 ≤ args.max_request_size then
          if timeout : ∀ t ∈ args.connection_timeout, 0 < t then
            .ok {
              max_workers := args.max_workers.toNat
              max_pending := args.effectivePending.toNat
              request_queue_size := args.request_queue_size.toNat
              overload_policy := policy
              max_request_size := args.max_request_size.toNat
              overload_fault_code := args.overload_fault_code
              overload_fault_string := args.overload_fault_string
              connection_timeout := args.connection_timeout
              workers_positive := by omega
              queue_positive := by omega
              size_positive := by omega
              timeout_positive := timeout}
          else .error ⟨"connection_timeout must be a positive number"⟩
        else .error ⟨"max_request_size must be at least 1"⟩
      else .error ⟨"request_queue_size must be at least 1"⟩
    else .error ⟨"max_pending must be at least 0"⟩
  else .error ⟨"max_workers must be at least 1"⟩

theorem configure_parts {args : Arguments} (accepted : args.configure = .ok cfg) :
    1 ≤ args.max_workers ∧ 0 ≤ args.effectivePending ∧
    (cfg.max_workers : Int) = args.max_workers ∧ (cfg.max_pending : Int) = args.effectivePending ∧
    ServerOverloadPolicy.normalize args.overload_policy = .ok cfg.overload_policy := by
  unfold Arguments.configure at accepted
  cases normalized : ServerOverloadPolicy.normalize args.overload_policy with
  | error e => simp [normalized,bind,Except.bind] at accepted
  | ok policy =>
    simp only [normalized,bind,Except.bind] at accepted
    repeat' split at accepted
    all_goals cases accepted
    rename_i workers pending _ _ _
    exact ⟨workers,pending,by simp only; omega,by simp only; omega,rfl⟩

theorem configure_capacity {args : Arguments} (accepted : args.configure = .ok cfg) :
    (cfg.capacity : Int) = args.max_workers + args.effectivePending := by
  obtain ⟨_,_,workers,pending,_⟩ := configure_parts accepted
  simp only [XMLRPCServerConfig.capacity,Nat.cast_add,workers,pending]

end XmlrpcExtended
