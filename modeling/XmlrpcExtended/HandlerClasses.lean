import XmlrpcExtended.PythonClasses

namespace XmlrpcExtended.Handler
open Python
variable {F : Type}

-- `object` is any other function or value that a class holds.
inductive Attribute (F : Type) where
  | integer (value : Int)
  | strings (elements : List Text)
  | limitedLogError
  | limitedDoPost
  | simpleDoPost
  | simpleIsRpcPathValid
  | simpleDecodeRequestContent
  | object (value : F)
  deriving DecidableEq

abbrev Classes (F : Type) := List (Class (Attribute F))

-- The class statement of LimitedXMLRPCRequestHandler.
def limitedDict : List (Text × Attribute F) :=
  [(text "max_request_size",.integer 1048576),(text "log_error",.limitedLogError),(text "do_POST",.limitedDoPost)]

structure Gate (classes : Classes F) (simple limited : Nat) : Prop where
  bases : (classes[limited]?).map (·.bases) = some [simple]
  dict : (classes[limited]?).map (·.dict) = some limitedDict

def overrides (max_request_size : Int) (rpc_paths : Option (List Text)) : List (Text × Attribute F) :=
  (text "max_request_size",.integer max_request_size) :: rpc_paths.toList.map fun paths => (text "rpc_paths",.strings paths)

def buildRequestHandler (classes : Classes F) (limited request_handler : Nat) (max_request_size : Int)
    (rpc_paths : Option (List Text)) : Option (Classes F) :=
  (classes[request_handler]?).bind fun handler =>
    if limited ∈ mroOf classes request_handler then
      create classes (handler.name ++ text "WithSizeLimit") [request_handler] (overrides max_request_size rpc_paths)
    else create classes (handler.name ++ text "WithSizeLimit") [limited,request_handler] (overrides max_request_size rpc_paths)

-- What the `__init_subclass__` of a class does to the classes when it is called for a new one: none when it raises.
abbrev Hook (F : Type) := Attribute F → Nat → Classes F → Option (Classes F)

-- `type(name, bases, dict)` ends with `super(new, new).__init_subclass__()`; the one of `object` does nothing.
def initSubclass (runs : Hook F) (new : Nat) (classes : Classes F) : Option (Classes F) :=
  match superResolve classes new new (text "__init_subclass__") with
  | none => some classes
  | some (_,hook) => runs hook new classes

def buildHookedHandler (runs : Hook F) (classes : Classes F) (limited request_handler : Nat) (max_request_size : Int)
    (rpc_paths : Option (List Text)) : Option (Classes F) :=
  (buildRequestHandler classes limited request_handler max_request_size rpc_paths).bind (initSubclass runs classes.length)

-- The attributes that the constructor sets.
def constructed (rpc_paths : Option (List Text)) : List Text :=
  text "max_request_size" :: rpc_paths.toList.map fun _ => text "rpc_paths"

-- All attributes but these resolve on the built class as they do on the handler.
def Kept (before after : Classes F) (handler built : Nat) (changed : List Text) : Prop :=
  ∀ name, name ∉ changed → resolve after built name = resolve before handler name

structure Guarded (before after : Classes F) (limited handler built : Nat) (changed : List Text) : Prop where
  post : resolve after built (text "do_POST") = some (limited,.limitedDoPost)
  log : resolve after built (text "log_error") = some (limited,.limitedLogError)
  onward : superResolve after built limited (text "do_POST") = resolve before handler (text "do_POST")
  kept : Kept before after handler built (text "do_POST" :: text "log_error" :: changed)

structure Gated (before after : Classes F) (limited handler built : Nat) (max_request_size : Int)
    (rpc_paths : Option (List Text)) : Prop where
  plain : limited ∉ mroOf before handler → Guarded before after limited handler built (constructed rpc_paths)
  derived : limited ∈ mroOf before handler → Kept before after handler built (constructed rpc_paths)
  size : resolve after built (text "max_request_size") = some (built,.integer max_request_size)
  paths : ∀ paths, rpc_paths = some paths → resolve after built (text "rpc_paths") = some (built,.strings paths)

-- Code of the application that leaves the new class and the gate as they are, and every class its order.
structure Spares (before after : Classes F) (new limited : Nat) : Prop where
  new : after[new]? = before[new]?
  gate : after[limited]? = before[limited]?
  orders : ∀ c < before.length, mroOf after c = mroOf before c

-- An `__init_subclass__` that the handler has or inherits returns and is such code.
def Undisturbed (runs : Hook F) (classes : Classes F) (limited handler : Nat) : Prop :=
  ∀ owner hook, resolve classes handler (text "__init_subclass__") = some (owner,hook) →
    ∀ new, ∃ after, runs hook classes.length (classes ++ [new]) = some after ∧
      Spares (classes ++ [new]) after classes.length limited

-- The class that is made: the constructor's attributes, then those of the classes in front and of the handler.
structure Made (after : Classes F) (handler new : Nat) (front : List Nat) (max_request_size : Int)
    (rpc_paths : Option (List Text)) : Prop where
  dict : (after[new]?).map (·.dict) = some (overrides max_request_size rpc_paths)
  order : mroOf after new = new :: (front ++ mroOf after handler)

def ahead (classes : Classes F) (limited handler : Nat) : List Nat :=
  if limited ∈ mroOf classes handler then [] else [limited]

theorem overrides_names (max_request_size : Int) (rpc_paths : Option (List Text)) :
    (overrides max_request_size rpc_paths : List (Text × Attribute F)).map (·.1) = constructed rpc_paths := by
  cases rpc_paths <;> rfl

theorem overrides_unset (max_request_size : Int) {rpc_paths : Option (List Text)} {name : Text}
    (unset : name ∉ constructed rpc_paths) : (overrides max_request_size rpc_paths).lookup name = (none : Option (Attribute F)) := by
  rw [← overrides_names (F := F) max_request_size] at unset
  exact lookup_absent unset

theorem gate_unset (rpc_paths : Option (List Text)) :
    text "do_POST" ∉ constructed rpc_paths ∧ text "log_error" ∉ constructed rpc_paths := by
  cases rpc_paths <;> simp [constructed] <;> decide

section Built
variable {classes : Classes F} {simple limited handler : Nat}

theorem gate_here (gate : Gate classes simple limited) :
    ∃ k, classes[limited]? = some k ∧ k.bases = [simple] ∧ k.dict = limitedDict := by
  obtain ⟨k,here,bases⟩ := Option.map_eq_some_iff.mp gate.bases
  have dict := gate.dict
  rw [here] at dict
  exact ⟨k,here,bases,Option.some.inj dict⟩

theorem gate_known (gate : Gate classes simple limited) : limited < classes.length := by
  obtain ⟨k,here,_⟩ := gate_here gate
  exact (List.getElem?_eq_some_iff.mp here).1

theorem gate_order (ordered : Ordered classes) (gate : Gate classes simple limited) :
    mroOf classes limited = limited :: mroOf classes simple := by
  obtain ⟨k,here,bases,_⟩ := gate_here gate
  obtain ⟨rest,mro,merged,below⟩ := ordered.linearised limited k here
  rw [bases] at merged
  have known : simple < classes.length := by
    have inside : simple ∈ rest := (merged.sublist (List.mem_append_right _ (.head _))).subset (.head _)
    exact Nat.lt_trans (below simple inside) (gate_known gate)
  have same := (ordered.single known).merge.symm.trans merged.merge
  rw [mroOf_some here,mro,Option.some.inj same]

-- With the gate before it, every class of the handler's order follows in its own order.
theorem gate_merged (ordered : Ordered classes) (gate : Gate classes simple limited) (derives : simple ∈ mroOf classes handler)
    (plain : limited ∉ mroOf classes handler) :
    Merged ([limited,handler].map (mroOf classes) ++ [[limited,handler]]) (limited :: mroOf classes handler) :=
  ordered.mixed (gate_order ordered gate) (mroOf_known derives) plain (ordered.inherited handler simple derives)

theorem plain_built (ordered : Ordered classes) (gate : Gate classes simple limited) (derives : simple ∈ mroOf classes handler)
    (plain : limited ∉ mroOf classes handler) (max_request_size : Int) (rpc_paths : Option (List Text)) :
    ∃ name, buildRequestHandler classes limited handler max_request_size rpc_paths =
      some (classes ++ [⟨name,[limited,handler],overrides max_request_size rpc_paths,
        classes.length :: limited :: mroOf classes handler⟩]) := by
  have known := mroOf_known derives
  have distinct : limited ≠ handler := by
    rintro rfl
    exact plain (List.mem_of_mem_head? (ordered.own known))
  refine ⟨classes[handler].name ++ text "WithSizeLimit",?_⟩
  rw [buildRequestHandler,List.getElem?_eq_getElem known,Option.bind_some,if_neg plain]
  refine create_spec.mpr ⟨by simpa using distinct,?_,_,gate_merged ordered gate derives plain,rfl⟩
  intro base member
  rcases List.mem_pair.mp member with rfl | rfl
  · exact gate_known gate
  · exact known

theorem limited_built (ordered : Ordered classes) (derives : limited ∈ mroOf classes handler) (max_request_size : Int)
    (rpc_paths : Option (List Text)) :
    ∃ name, buildRequestHandler classes limited handler max_request_size rpc_paths =
      some (classes ++ [⟨name,[handler],overrides max_request_size rpc_paths,classes.length :: mroOf classes handler⟩]) := by
  have known := mroOf_known derives
  refine ⟨classes[handler].name ++ text "WithSizeLimit",?_⟩
  rw [buildRequestHandler,List.getElem?_eq_getElem known,Option.bind_some,if_pos derives]
  exact create_spec.mpr ⟨by simp,by simpa using known,_,ordered.single known,rfl⟩

theorem created_made (known : handler < classes.length) (front : List Nat) (name : Text) (bases : List Nat)
    (max_request_size : Int) (rpc_paths : Option (List Text)) :
    Made (classes ++ [⟨name,bases,overrides max_request_size rpc_paths,classes.length :: (front ++ mroOf classes handler)⟩])
      handler classes.length front max_request_size rpc_paths := by
  refine ⟨?_,?_⟩
  · rw [List.getElem?_concat_length]
    rfl
  · rw [mroOf_new,mroOf_old known]

theorem handler_made (ordered : Ordered classes) (gate : Gate classes simple limited) (derives : simple ∈ mroOf classes handler)
    (max_request_size : Int) (rpc_paths : Option (List Text)) :
    ∃ k, buildRequestHandler classes limited handler max_request_size rpc_paths = some (classes ++ [k]) ∧
      Made (classes ++ [k]) handler classes.length (ahead (classes ++ [k]) limited handler) max_request_size rpc_paths := by
  have known := mroOf_known derives
  by_cases derived : limited ∈ mroOf classes handler
  · obtain ⟨name,made⟩ := limited_built ordered derived max_request_size rpc_paths
    refine ⟨_,made,?_⟩
    rw [ahead,mroOf_old known,if_pos derived]
    exact created_made known [] name _ max_request_size rpc_paths
  · obtain ⟨name,made⟩ := plain_built ordered gate derives derived max_request_size rpc_paths
    refine ⟨_,made,?_⟩
    rw [ahead,mroOf_old known,if_neg derived]
    exact created_made known [limited] name _ max_request_size rpc_paths

section Made
variable {after : Classes F} {new : Nat} {front : List Nat} {max_request_size : Int} {rpc_paths : Option (List Text)}

theorem made_resolve (made : Made after handler new front max_request_size rpc_paths) (attr : Text) :
    resolve after new attr = ((overrides max_request_size rpc_paths).lookup attr).elim
      (found after (front ++ mroOf after handler) attr) fun v => some (new,v) := by
  obtain ⟨k,here,dict⟩ := Option.map_eq_some_iff.mp made.dict
  rw [resolve,made.order,found_cons here,dict]

theorem made_unset (made : Made after handler new front max_request_size rpc_paths) {attr : Text}
    (unset : attr ∉ constructed rpc_paths) : resolve after new attr = found after (front ++ mroOf after handler) attr := by
  rw [made_resolve made,overrides_unset max_request_size unset]
  rfl

theorem made_guarded (made : Made after handler new [limited] max_request_size rpc_paths) (other : limited ≠ new)
    (gate : (after[limited]?).map (·.dict) = some limitedDict) :
    Guarded after after limited handler new (constructed rpc_paths) := by
  obtain ⟨k,here,dict⟩ := Option.map_eq_some_iff.mp gate
  have reached : ∀ attr, attr ∉ constructed rpc_paths → resolve after new attr =
      (limitedDict.lookup attr).elim (resolve after handler attr) fun v => some (limited,v) := by
    intro attr unset
    rw [made_unset made unset,List.singleton_append,found_cons here,dict]
    rfl
  obtain ⟨post,log⟩ := gate_unset rpc_paths
  refine ⟨reached _ post,reached _ log,?_,fun attr unchanged => ?_⟩
  · have onward : ((new :: ([limited] ++ mroOf after handler)).dropWhile (· != limited)).tail = mroOf after handler := by
      simp [other.symm]
    rw [superResolve,made.order,onward]
    rfl
  · obtain ⟨post,unchanged⟩ := not_or.mp (mt List.mem_cons.mpr unchanged)
    obtain ⟨log,unchanged⟩ := not_or.mp (mt List.mem_cons.mpr unchanged)
    have size : attr ≠ text "max_request_size" := fun same => unchanged (same ▸ .head _)
    have absent : limitedDict.lookup attr = (none : Option (Attribute F)) :=
      lookup_absent (by simpa [limitedDict] using ⟨size,log,post⟩)
    rw [reached attr unchanged,absent]
    rfl

theorem made_gated (made : Made after handler new (ahead after limited handler) max_request_size rpc_paths)
    (other : limited ≠ new) (gate : (after[limited]?).map (·.dict) = some limitedDict) :
    Gated after after limited handler new max_request_size rpc_paths := by
  refine ⟨fun plain => ?_,fun derived attr unset => ?_,?_,?_⟩
  · rw [ahead,if_neg plain] at made
    exact made_guarded made other gate
  · rw [made_unset made unset,ahead,if_pos derived]
    rfl
  · rw [made_resolve made]
    rfl
  · rintro paths rfl
    rw [made_resolve made]
    rfl

-- The gate has no hook of its own, so the handler's is found.
theorem made_hook (made : Made after handler new (ahead after limited handler) max_request_size rpc_paths)
    (gate : (after[limited]?).map (·.dict) = some limitedDict) :
    superResolve after new new (text "__init_subclass__") = resolve after handler (text "__init_subclass__") := by
  obtain ⟨k,here,dict⟩ := Option.map_eq_some_iff.mp gate
  have lacks : Lacks after limited (text "__init_subclass__") := by
    rw [Lacks,here,Option.bind_some,dict]
    rfl
  rw [superResolve_own made.order,ahead]
  split
  · rfl
  · exact found_lacks lacks _

theorem spared_made {created : Classes F} (spares : Spares created after new limited) (known : new < created.length)
    (earlier : handler < created.length)
    (made : Made created handler new (ahead created limited handler) max_request_size rpc_paths) :
    Made after handler new (ahead after limited handler) max_request_size rpc_paths := by
  have order := spares.orders handler earlier
  refine ⟨?_,?_⟩
  · rw [spares.new]
    exact made.dict
  · rw [spares.orders new known,made.order,order,ahead,ahead,order]

end Made

theorem gate_dict (gate : Gate classes simple limited) (k : Class (Attribute F)) :
    ((classes ++ [k])[limited]?).map (·.dict) = some limitedDict := by
  rw [List.getElem?_append_left (gate_known gate)]
  exact gate.dict

theorem resolve_old (ordered : Ordered classes) (known : handler < classes.length) (k : Class (Attribute F)) (attr : Text) :
    resolve (classes ++ [k]) handler attr = resolve classes handler attr := by
  rw [resolve,resolve,mroOf_old known,found_kept (ordered.order_known handler)]

theorem handler_gated (built : Built classes) (gate : Gate classes simple limited) (derives : simple ∈ mroOf classes handler)
    (max_request_size : Int) (rpc_paths : Option (List Text)) :
    ∃ after, buildRequestHandler classes limited handler max_request_size rpc_paths = some after ∧
      Gated classes after limited handler classes.length max_request_size rpc_paths := by
  have known := mroOf_known derives
  obtain ⟨k,ran,made⟩ := handler_made built.ordered gate derives max_request_size rpc_paths
  have order := mroOf_old known k
  have old : ∀ attr, resolve (classes ++ [k]) handler attr = resolve classes handler attr := resolve_old built.ordered known k
  have gated := made_gated made (Nat.ne_of_lt (gate_known gate)) (gate_dict gate k)
  refine ⟨_,ran,fun plain => ?_,fun derived attr unset => ?_,gated.size,gated.paths⟩
  · obtain ⟨post,log,onward,kept⟩ := gated.plain (by rwa [order])
    exact ⟨post,log,onward.trans (old _),fun attr unset => (kept attr unset).trans (old attr)⟩
  · exact (gated.derived (by rwa [order]) attr unset).trans (old attr)

-- A super() call in any class of the handler's order goes where it went.
theorem supers_kept {after : Classes F} {max_request_size : Int} {rpc_paths : Option (List Text)} (ordered : Ordered classes)
    (gate : Gate classes simple limited) (derives : simple ∈ mroOf classes handler)
    (made : buildRequestHandler classes limited handler max_request_size rpc_paths = some after) {owner : Nat}
    (inside : owner ∈ mroOf classes handler) (name : Text) :
    superResolve after classes.length owner name = superResolve classes handler owner name := by
  by_cases derived : limited ∈ mroOf classes handler
  · obtain ⟨named,same⟩ := limited_built ordered derived max_request_size rpc_paths
    rw [Option.some.inj (made.symm.trans same)]
    exact superResolve_behind ordered inside (List.not_mem_nil : owner ∉ []) named _ _ name
  · obtain ⟨named,same⟩ := plain_built ordered gate derives derived max_request_size rpc_paths
    have ahead : owner ∉ [limited] := fun member => derived (List.mem_singleton.mp member ▸ inside)
    rw [Option.some.inj (made.symm.trans same)]
    exact superResolve_behind ordered inside ahead named _ _ name

end Built

-- A handler of two classes, of which one has a do_POST of its own and the other a log_error and a size.
def diamond : Classes Nat :=
  [⟨text "object",[],[],[0]⟩,
    ⟨text "SimpleXMLRPCRequestHandler",[0],[(text "rpc_paths",.strings [text "/",text "/RPC2",text "/pydoc.css"]),
      (text "do_POST",.simpleDoPost),(text "is_rpc_path_valid",.simpleIsRpcPathValid),
      (text "decode_request_content",.simpleDecodeRequestContent),(text "log_error",.object 0)],[1,0]⟩,
    ⟨text "LimitedXMLRPCRequestHandler",[1],limitedDict,[2,1,0]⟩,
    ⟨text "Audited",[1],[(text "do_POST",.object 1)],[3,1,0]⟩,
    ⟨text "Quiet",[1],[(text "log_error",.object 2),(text "max_request_size",.integer 7)],[4,1,0]⟩,
    ⟨text "Handler",[3,4],[],[5,3,4,1,0]⟩]

theorem diamond_grown : ∀ n ≤ 6, Built (diamond.take n) := by
  have step : ∀ n : Fin 6, create (diamond.take n) diamond[n].name diamond[n].bases diamond[n].dict =
      some (diamond.take (n + 1)) := by decide
  intro n small
  induction n with
  | zero => exact .empty
  | succ n ih => exact .create (ih (by omega)) (step ⟨n,by omega⟩)

theorem diamond_built : Built diamond := diamond_grown 6 (Nat.le_refl 6)

-- A handler with a hook, which is called for each class that derives from it.
def registered : Classes Nat := diamond.take 3 ++
  [⟨text "Registered",[1],[(text "__init_subclass__",.object 3),(text "do_POST",.object 1)],[3,1,0]⟩]

theorem registered_built : Built registered := by
  have created : create (diamond.take 3) (text "Registered") [1]
      [(text "__init_subclass__",.object 3),(text "do_POST",.object 1)] = some registered := by decide
  exact .create (diamond_grown 3 (by decide)) created

def assign (classes : Classes F) (c : Nat) (name : Text) (value : Attribute F) : Classes F :=
  classes.modify c fun k => {k with dict := (name,value) :: k.dict}

theorem assign_order (classes : Classes F) (c : Nat) (name : Text) (value : Attribute F) (d : Nat) :
    mroOf (assign classes c name value) d = mroOf classes d := by
  rw [mroOf,mroOf,assign,List.getElem?_modify]
  cases classes[d]? with
  | none => rfl
  | some k => by_cases here : c = d <;> simp [here]

-- The hook counts in the class that has it.
def counting : Hook Nat := fun _ _ classes => some (assign classes 3 (text "subclasses") (.integer 1))

-- A hook that gives the class the do_POST of the stdlib and a size of its own.
def reset : Hook Nat := fun _ new classes =>
  some (assign (assign classes new (text "do_POST") .simpleDoPost) new (text "max_request_size") (.integer 1073741824))

end XmlrpcExtended.Handler
