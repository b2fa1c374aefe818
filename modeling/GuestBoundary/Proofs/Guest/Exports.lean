import GuestBoundary.Engine
import GuestBoundary.Proofs.Blame

/-!
# What is required of a guest's exports

A requirement is for one exported name. Looking exports up one after the other succeeds if all their
requirements are met, and otherwise fails for the first one that is not. A statement about two
lookups one after the other is about the requirements of both, in this order.
-/

namespace GuestBoundary

variable {kinds : Nat} {α β : Type}

/-- What a guest has to export under a name. -/
inductive Requirement where
  | memory (name : String)
  | function (name : String) (signature : Signature)
deriving DecidableEq, Repr

namespace Requirement

/-- A guest exports what is required. -/
inductive Met (program : Program kinds) : Requirement → Prop where
  | memory {name : String} (exported : program.exports.lookup name = some .memory) :
      Met program (.memory name)
  | function {name : String} {index : Nat} {found : Function kinds}
      (exported : program.exports.lookup name = some (.function index))
      (present : program.functions[index]? = some found) :
      Met program (.function name found.signature)

theorem met_function_iff (program : Program kinds) (name : String) (signature : Signature) :
    Met program (.function name signature) ↔
      (program.exportedFunction? name).map Prod.snd = some signature := by
  constructor
  · intro met
    cases met with
    | function exported present => simp [Program.exportedFunction?, exported, present]
  · unfold Program.exportedFunction?
    split
    next index exported =>
      intro found
      rw [Option.map_map] at found
      obtain ⟨function, present, rfl⟩ := Option.map_eq_some_iff.mp found
      exact .function exported present
    next => exact nofun

instance (program : Program kinds) : (requirement : Requirement) →
    Decidable (requirement.Met program)
  | .memory name =>
      decidable_of_iff (program.exports.lookup name = some .memory)
        ⟨.memory, fun | .memory exported => exported⟩
  | .function name signature => decidable_of_iff' _ (met_function_iff program name signature)

/-- A guest does not export what is required, and this is the fault for it. -/
inductive Fails (program : Program kinds) : Requirement → Fault → Prop where
  | noMemory {name : String} (absent : program.exports.lookup name ≠ some .memory) :
      Fails program (.memory name) (.missingExport name)
  | noFunction {name : String} (signature : Signature)
      (absent : ∀ index, program.exports.lookup name = some (.function index) →
        program.functions[index]? = none) :
      Fails program (.function name signature) (.missingExport name)
  | mistyped {name : String} {signature : Signature} {index : Nat} {found : Function kinds}
      (exported : program.exports.lookup name = some (.function index))
      (present : program.functions[index]? = some found) (differs : found.signature ≠ signature)
      (reason : String) :
      Fails program (.function name signature) (.signatureMismatch name reason)

variable {program : Program kinds} {requirement : Requirement} {fault : Fault}

theorem Fails.not_met (fails : requirement.Fails program fault) : ¬ requirement.Met program := by
  intro met
  cases fails with
  | noMemory absent =>
      cases met with
      | memory exported => exact absent exported
  | noFunction _ absent =>
      cases met with
      | function exported present => exact nomatch (absent _ exported).symm.trans present
  | mistyped exported present differs _ =>
      cases met with
      | function same here =>
          obtain rfl := Export.function.inj (Option.some.inj (exported.symm.trans same))
          exact differs (congrArg Function.signature (Option.some.inj (present.symm.trans here)))

theorem Fails.isOwn (fails : requirement.Fails program fault) : fault.isOwn = true := by
  cases fails <;> rfl

end Requirement

/-- What looking up exports one after the other comes to. -/
inductive Resolves (program : Program kinds) (requirements : List Requirement) :
    Except Fault α → Prop where
  | found (value : α) (met : ∀ requirement ∈ requirements, requirement.Met program) :
      Resolves program requirements (.ok value)
  | unmet {earlier later : List Requirement} {requirement : Requirement} {fault : Fault}
      (split : requirements = earlier ++ requirement :: later)
      (met : ∀ other ∈ earlier, other.Met program)
      (fails : requirement.Fails program fault) :
      Resolves program requirements (.error fault)

namespace Resolves

variable {program : Program kinds} {requirements more : List Requirement}

theorem pure (value : α) : Resolves program [] (.ok value) := .found value nofun

theorem bind {work : Except Fault α} {next : α → Except Fault β}
    (first : Resolves program requirements work)
    (later : ∀ value, Resolves program more (next value)) :
    Resolves program (requirements ++ more) (work >>= next) := by
  cases first with
  | unmet split met fails =>
      rw [split, List.append_assoc]
      exact .unmet rfl met fails
  | found value met =>
      change Resolves program (requirements ++ more) (next value)
      have onwards := later value
      generalize next value = result at onwards
      cases onwards with
      | found last metLater =>
          refine .found last fun requirement among => ?_
          rcases List.mem_append.mp among with here | there
          · exact met requirement here
          · exact metLater requirement there
      | @unmet earlier _ _ _ split metLater fails =>
          rw [split, ← List.append_assoc]
          refine .unmet rfl (fun other among => ?_) fails
          rcases List.mem_append.mp among with here | there
          · exact met other here
          · exact metLater other there

theorem cons {requirement : Requirement} {result : Except Fault α}
    (met : requirement.Met program) (later : Resolves program more result) :
    Resolves program ([requirement] ++ more) result :=
  bind (.found () (List.forall_mem_singleton.mpr met)) fun _ => later

/-- One lookup succeeds if its requirement is met, and otherwise fails for it. -/
theorem one {requirement : Requirement} {result : Except Fault α}
    (met : ∀ value, result = .ok value → requirement.Met program)
    (fails : ∀ fault, result = .error fault → requirement.Fails program fault) :
    Resolves program [requirement] result := by
  cases result with
  | ok value => exact .found value (List.forall_mem_singleton.mpr (met value rfl))
  | error fault =>
      exact .unmet (List.nil_append _).symm (List.forall_mem_nil _) (fails fault rfl)

theorem typedExport (running : Instance kinds) (name : String) (signature : Signature) :
    Resolves running.program [.function name signature] (running.typedExport name signature) := by
  unfold Instance.typedExport
  split
  next missing =>
    refine .one nofun fun fault failed => ?_
    cases failed
    refine .noFunction signature fun index exported => ?_
    rw [Program.exportedFunction?, exported] at missing
    exact Option.map_eq_none_iff.mp missing
  next function actual found =>
    unfold Program.exportedFunction? at found
    split at found
    next index exported =>
      obtain ⟨present, here, same⟩ := Option.map_eq_some_iff.mp found
      cases same
      split
      next same => exact .one (fun _ _ => same ▸ .function exported here) nofun
      next differs =>
        refine .one nofun fun fault failed => ?_
        cases failed
        exact .mistyped exported here differs _
    next => exact nomatch found

theorem ofFnM {count : Nat} {requirements : Fin count → List Requirement}
    {item : Fin count → Except Fault α}
    (each : ∀ index, Resolves program (requirements index) (item index)) :
    Resolves program (List.ofFn requirements).flatten (Vector.ofFnM item) := by
  induction count with
  | zero =>
      rw [Vector.ofFnM_zero]
      exact pure _
  | succ count inductionHypothesis =>
      rw [Vector.ofFnM_succ, List.ofFn_succ_last, List.flatten_append]
      refine (inductionHypothesis fun index => each index.castSucc).bind fun earlier => ?_
      rw [List.flatten_singleton, ← List.append_nil (requirements _)]
      exact (each _).bind fun last => pure _

/-- Lookups have only faults of their own. -/
theorem innocent {result : Except Fault α} (resolves : Resolves program requirements result) :
    Innocent result := by
  cases resolves with
  | found value _ => exact .ok value
  | unmet _ _ fails => exact .error fails.isOwn

end Resolves

theorem Instance.typedExport_innocent (running : Instance kinds) (name : String)
    (signature : Signature) : Innocent (running.typedExport name signature) :=
  (Resolves.typedExport running name signature).innocent

end GuestBoundary
