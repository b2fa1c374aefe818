import GuestBoundary.Event.Session
import GuestBoundary.Proofs.Guest.Exports
import GuestBoundary.Proofs.Host.Making

/-!
# Opening a session

A contract is a list of requirements, in the order in which its exports are looked up: the allocator
and its memory, the constructor, the accessors of each field, the handler, and the destructor.
Linking and starting a guest are moves of the store that was made for it. Only when the whole
contract is found is a destructor bound.
-/

namespace GuestBoundary.Event.Contract

variable {kinds : Nat}

/-- The accessors of a field: first its getter, then its setter. -/
def accessorRequirements (fieldName : String) : List Requirement :=
  [.function (resourceName ++ "::get-" ++ fieldName) (.words 1),
    .function (resourceName ++ "::set-" ++ fieldName) (.wordsToUnit 3)]

/-- All that a contract requires, in the order in which it is looked up. -/
def requirements (names : Names) : List Requirement :=
  [.memory names.memory, .function names.realloc (.words 4), .function names.free (.wordsToUnit 3),
      .function (resourceName ++ "::create") (.words 0)] ++
    (Attribute.all.map Attribute.name ++ ["data"]).flatMap accessorRequirements ++
    [.function "ce-handler" (.words 1),
      .function (names.dropExport resourceName) (.wordsToUnit 1)]

theorem accessors_resolves (running : Instance kinds) (fieldName : String) :
    Resolves running.program (accessorRequirements fieldName) (accessors running fieldName) :=
  .bind (.typedExport running _ _) fun _ => .bind (.typedExport running _ _) fun _ => .pure _

theorem resolve_resolves (running : Instance kinds) (names : Names) :
    Resolves running.program (requirements names) (resolve running names) := by
  have inOrder : requirements names =
      [.memory names.memory] ++ ([.function names.realloc (.words 4)] ++
        ([.function names.free (.wordsToUnit 3)] ++
        ([.function (resourceName ++ "::create") (.words 0)] ++
        ((List.ofFn fun index : Fin 8 =>
            accessorRequirements Attribute.all[index].name).flatten ++
        (accessorRequirements "data" ++ ([.function "ce-handler" (.words 1)] ++
        ([.function (names.dropExport resourceName) (.wordsToUnit 1)] ++ []))))))) := rfl
  unfold resolve
  rw [inOrder]
  split
  next exported =>
    refine .cons (.memory (of_decide_eq_true exported)) ?_
    refine .bind (.typedExport running _ _) fun realloc => ?_
    refine .bind (.typedExport running _ _) fun free => ?_
    refine .bind (.typedExport running _ _) fun create => ?_
    refine .bind (.ofFnM fun index => accessors_resolves running _) fun attributes => ?_
    refine .bind (accessors_resolves running _) fun data => ?_
    refine .bind (.typedExport running _ _) fun handler => ?_
    exact .bind (.typedExport running _ _) fun destructor => .pure _
  next unexported =>
    exact .unmet (List.nil_append _).symm (List.forall_mem_nil _)
      (.noMemory fun exported => unexported (decide_eq_true exported))

theorem resolve_innocent (running : Instance kinds) (names : Names) :
    Innocent (resolve running names) :=
  (resolve_resolves running names).innocent

end GuestBoundary.Event.Contract

namespace GuestBoundary

open Relation

variable {kinds : Nat} {α β : Type}

theorem Innocent.foldlM {step : β → α → Except Fault β}
    (innocent : ∀ state item, Innocent (step state item)) (items : List α) (state : β) :
    Innocent (items.foldlM step state) := by
  induction items generalizing state with
  | nil => exact .ok state
  | cons item items inductionHypothesis => exact (innocent state item).bind inductionHypothesis

namespace Linker

theorem define_innocent (linker : Linker) (function : Import) :
    Innocent (linker.define function) := by
  unfold define
  dsimp only
  split
  next => exact .error rfl
  next => exact .ok _

theorem register_innocent (linker : Linker) (space resource : String) :
    Innocent (linker.register space resource) :=
  .foldlM (fun linker _ => linker.define_innocent _) _ _

end Linker

variable {owned : Reference kinds → Prop} {looking : Prop}

/-- Before it is started a guest only gets its memory and globals. -/
theorem Linker.instantiate_made (linker : Linker) (engine : Engine kinds) (program : Program kinds)
    (store : Store kinds) :
    (linker.instantiate engine program).Made { program, engine } owned looking store := by
  unfold Linker.instantiate
  dsimp only
  split
  next =>
    apply Work.Made.get
    split
    next =>
      refine .bind (.step ((Work.ensures_modify _).mpr (.single (.inside _ _))))
        fun _ middle _ => ?_
      split
      next => exact .pure _
      next => exact .bind (.discard (Instance.call_made _ _ _ middle)) fun _ _ _ => .pure _
    next => exact .throw_bind (Fault.ordinary_of_isOwn rfl rfl)
  next => exact .throw_bind (Fault.ordinary_of_isOwn rfl rfl)

namespace Event

/-- What happens to a store while a session is opened on it. -/
inductive Opening (owned : EventReference → Prop) (store : EventStore) : EventStore → Prop where
  | move {next : EventStore} (move : store.Move owned next) : Opening owned store next
  | bind (function : FunctionId) : Opening owned store (store.rebind eventKind function)

theorem Session.start_made (engine : Engine 1) (configuration : Configuration)
    (program : Program 1) (owned : EventReference → Prop) (store : EventStore) :
    Work.Made (Opening owned) (Fault.Ordinary True) (Instance.Visits { program, engine })
      (start engine configuration program) store := by
  have looked {α : Type} {result : Except Fault α} (innocent : Innocent result)
      (store : EventStore) :
      Work.Made (Opening owned) (Fault.Ordinary True) (Instance.Visits { program, engine })
        (Attempt.ofExcept result) store :=
    .step (Work.quiet_ofExcept fun fault failed => ⟨innocent fault failed, fun _ => .inl trivial⟩)
  refine .bind (looked (Linker.register_innocent _ _ _) store) fun linker registered _ => ?_
  refine .bind ((linker.instantiate_made engine program registered).imp
    (fun _ _ => Opening.move) fun _ _ => id) fun running started _ => ?_
  refine .bind (looked (Contract.resolve_innocent running _) started) fun found resolved _ => ?_
  refine .bind (.step ?_) fun _ _ _ => .pure _
  rw [Work.Quiet, Store.ensures_bindDestructor]
  exact .single (.bind found.2)

end Event

end GuestBoundary
