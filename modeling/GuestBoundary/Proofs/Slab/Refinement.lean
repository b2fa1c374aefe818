import Mathlib
import GuestBoundary.Proofs.Slab.FreeList
import GuestBoundary.Slab

/-!
# Slabs as maps with a stack of free handles

Both a slab and its abstract counterpart answer operations. The main statement is that they give
the same answers to every sequence of operations, as long as handles fit a word. It follows from
one step: an operation takes related states to related states, where the free list of the slab,
continued by the handles that it has no slots for, is the stack.
-/

namespace GuestBoundary

/-- An operation on a slab, with handles as a guest sends them. -/
inductive SlabOperation (α : Type) where
  | insert (value : α)
  | get (handle : Word)
  | remove (handle : Word)
  | drain
  | size
  | isEmpty
deriving DecidableEq

/-- The answer to an operation. -/
inductive SlabAnswer (α : Type) where
  | handle (handle : Nat)
  | value (outcome : Except Fault α)
  | values (values : List α)
  | count (number : Nat)
  | flag (isEmpty : Bool)
deriving DecidableEq

variable {α σ : Type}

/-- The answers to a sequence of operations. -/
def answers (perform : σ → SlabOperation α → SlabAnswer α × σ) :
    σ → List (SlabOperation α) → List (SlabAnswer α)
  | _, [] => []
  | state, operation :: rest =>
      (perform state operation).1 :: answers perform (perform state operation).2 rest

namespace Slab

/-- What a slab answers, and the slab afterwards. -/
def perform (slab : Slab α) : SlabOperation α → SlabAnswer α × Slab α
  | .insert value => (.handle (slab.put value).1.toNat, (slab.put value).2)
  | .get handle => (.value (slab.fetch handle), slab)
  | .remove handle =>
      match slab.take handle with
      | .ok (value, rest) => (.value (.ok value), rest)
      | .error fault => (.value (.error fault), slab)
  | .drain => (.values slab.drain.1, slab.drain.2)
  | .size => (.count slab.size, slab)
  | .isEmpty => (.flag slab.isEmpty, slab)

def after (slab : Slab α) (operations : List (SlabOperation α)) : Slab α :=
  operations.foldl (fun slab operation => (slab.perform operation).2) slab

/-- Every slab on the way has so few slots that each handle, and the end of the free list, is a
word. -/
def FitsWords (slab : Slab α) (operations : List (SlabOperation α)) : Prop :=
  ∀ done ∈ operations.inits, (slab.after done).slots.size < 2 ^ 32 - 1

instance (slab : Slab α) (operations : List (SlabOperation α)) :
    Decidable (slab.FitsWords operations) :=
  inferInstanceAs (Decidable (∀ done ∈ operations.inits, _))

end Slab

namespace FreeStack

/-- What the map with a stack answers, and its state afterwards. -/
def perform (stack : FreeStack α) : SlabOperation α → SlabAnswer α × FreeStack α
  | .insert value => (.handle (stack.insert value).1, (stack.insert value).2)
  | .get handle =>
      match stack.get? handle.toNat with
      | some value => (.value (.ok value), stack)
      | none => (.value (.error (.invalidHandle handle)), stack)
  | .remove handle =>
      match stack.remove? handle.toNat with
      | some (value, rest) => (.value (.ok value), rest)
      | none => (.value (.error (.invalidHandle handle)), stack)
  | .drain => (.values stack.drain.1, stack.drain.2)
  | .size => (.count stack.size, stack)
  | .isEmpty => (.flag (stack.size = 0), stack)

/-- The stack with `chain` on top of `fresh` and all greater handles. -/
def freeFrom (fresh : Nat) : List Nat → Nat → Nat
  | [] => fun depth => fresh + depth
  | handle :: rest => push handle (freeFrom fresh rest)

end FreeStack

namespace Slab

open FreeStack

/-- A slab stands for a map with a stack: its free list is the top of the stack, and the values
are the same. -/
structure Represents (slab : Slab α) (chain : List Nat) (stack : FreeStack α) : Prop where
  freeList : slab.HasFreeList chain
  free_eq : stack.free = freeFrom slab.slots.size chain
  distinct : (stack.values.map (·.1)).Nodup
  mem_iff : ∀ handle value, (handle, value) ∈ stack.values ↔ slab.get? handle = some value

namespace Represents

variable {slab : Slab α} {chain : List Nat} {stack : FreeStack α}

theorem empty : Represents (∅ : Slab α) [] (∅ : FreeStack α) where
  freeList := hasFreeList_empty
  free_eq := by
    funext depth
    exact (Nat.zero_add depth).symm
  distinct := List.nodup_nil
  mem_iff := by
    intro handle value
    change (handle, value) ∈ ([] : List (Nat × α)) ↔
      (#[] : Array (Slot α))[handle]?.bind Slot.value? = some value
    simp

theorem get?_eq (represents : slab.Represents chain stack) (handle : Nat) :
    stack.get? handle = slab.get? handle := by
  have lookup_mem : ∀ {value}, stack.values.lookup handle = some value →
      (handle, value) ∈ stack.values := by
    intro value found
    obtain ⟨before, rest, split, -⟩ := List.lookup_eq_some_iff.mp found
    simp [split]
  unfold FreeStack.get?
  cases found : stack.values.lookup handle with
  | some value => exact ((represents.mem_iff handle value).mp (lookup_mem found)).symm
  | none =>
      cases held : slab.get? handle with
      | none => rfl
      | some value =>
          have membership := (represents.mem_iff handle value).mpr held
          have absent := List.lookup_eq_none_iff.mp found _ membership
          simp at absent

theorem values_perm (represents : slab.Represents chain stack) :
    stack.values.Perm slab.entries := by
  have entriesDistinct : slab.entries.Nodup :=
    slab.pairwise_entries.imp fun before same => by simp [same] at before
  apply (List.perm_ext_iff_of_nodup (List.Nodup.of_map _ represents.distinct) entriesDistinct).mpr
  rintro ⟨handle, value⟩
  rw [represents.mem_iff, mem_entries_iff]

theorem size_eq (represents : slab.Represents chain stack) : slab.size = stack.size := by
  have counted := represents.values_perm.length_eq
  rw [Slab.size, FreeStack.size, represents.freeList.live_eq, counted, ← map_snd_entries,
    List.length_map]

theorem drain_eq (represents : slab.Represents chain stack) :
    slab.drain.1 = stack.drain.1 := by
  have ascending : slab.entries.Pairwise fun left right =>
      (decide (left.1 ≤ right.1)) = true :=
    slab.pairwise_entries.imp fun before => decide_eq_true before.le
  have sorted : (stack.values.mergeSort fun left right => left.1 ≤ right.1) = slab.entries := by
    apply List.Perm.eq_of_pairwise _ (List.pairwise_mergeSort _ _ _) ascending
    · exact (List.mergeSort_perm _ _).trans represents.values_perm
    · rintro ⟨handle, value⟩ ⟨other, otherValue⟩ membership otherMembership before after
      have membership := (represents.mem_iff _ _).mp ((List.mergeSort_perm _ _).subset membership)
      rw [mem_entries_iff] at otherMembership
      have same : handle = other :=
        Nat.le_antisymm (of_decide_eq_true before) (of_decide_eq_true after)
      subst same
      rw [membership, Option.some.injEq] at otherMembership
      rw [otherMembership]
    · intro first second third
      simpa using Nat.le_trans
    · intro first second
      simpa using Nat.le_total first.1 second.1
  simp only [Slab.drain, FreeStack.drain, sorted, map_snd_entries]

theorem insert (represents : slab.Represents chain stack) (value : α) :
    (slab.insert value).1 = (stack.insert value).1 ∧
      ∃ rest, (slab.insert value).2.Represents rest (stack.insert value).2 := by
  have popped : (slab.insert value).1 = stack.free 0 ∧
      ∃ rest, (slab.insert value).2.HasFreeList rest ∧
        (fun depth => stack.free (depth + 1)) =
          freeFrom (slab.insert value).2.slots.size rest := by
    cases chain with
    | nil =>
        obtain ⟨handle, freeList, slots⟩ := represents.freeList.insert_nil value
        rw [handle, represents.free_eq]
        refine ⟨rfl, [], freeList, ?_⟩
        funext depth
        simp only [freeFrom, slots, Array.size_push]
        omega
    | cons first rest =>
        obtain ⟨handle, freeList, slots⟩ := represents.freeList.insert_cons value
        rw [handle, represents.free_eq]
        exact ⟨rfl, rest, freeList, by simp [freeFrom, push, slots]⟩
  obtain ⟨handle, rest, freeList, free⟩ := popped
  have unused : ∀ held, (stack.free 0, held) ∉ stack.values := by
    intro held membership
    rw [represents.mem_iff, ← handle, slab.get?_insert_fst] at membership
    simp at membership
  refine ⟨handle, rest, freeList, free, ?_, ?_⟩
  · refine List.nodup_cons.mpr ⟨?_, represents.distinct⟩
    simpa using unused
  · intro other held
    rw [slab.get?_insert, handle]
    by_cases same : stack.free 0 = other
    · subst same
      simp [FreeStack.insert, unused, eq_comm]
    · simp [FreeStack.insert, same, Ne.symm same, represents.mem_iff]

theorem remove (represents : slab.Represents chain stack) (handle : Nat) :
    (slab.remove? handle = none ∧ stack.remove? handle = none) ∨
      ∃ value slabRest stackRest,
        slab.remove? handle = some (value, slabRest) ∧
        stack.remove? handle = some (value, stackRest) ∧
        slabRest.Represents (handle :: chain) stackRest := by
  have same := represents.get?_eq handle
  cases removed : slab.remove? handle with
  | none =>
      rw [remove?_eq_none_iff] at removed
      exact .inl ⟨rfl, by simp [FreeStack.remove?, same, removed]⟩
  | some taken =>
      obtain ⟨value, rest⟩ := taken
      obtain ⟨held, others⟩ := get?_of_remove? removed
      obtain ⟨freeList, slots⟩ := represents.freeList.remove removed
      have unmapped : stack.remove? handle =
          some (value,
            { values := stack.values.filter (·.1 ≠ handle)
              free := push handle stack.free }) := by
        simp [FreeStack.remove?, same, held]
      refine .inr ⟨value, rest, _, rfl, unmapped, freeList, ?_, ?_, ?_⟩
      · simp [freeFrom, slots, represents.free_eq]
      · exact represents.distinct.sublist (List.filter_sublist.map _)
      · intro other otherValue
        rw [others other, List.mem_filter, represents.mem_iff]
        by_cases equality : handle = other
        · simp [equality]
        · simp [equality, Ne.symm equality]

/-- One operation takes related states to related states, however many slots there are. -/
theorem perform_snd (represents : slab.Represents chain stack) (operation : SlabOperation α) :
    ∃ rest, (slab.perform operation).2.Represents rest (stack.perform operation).2 := by
  cases operation with
  | insert value => exact (represents.insert value).2
  | get handle =>
      refine ⟨chain, ?_⟩
      simp only [FreeStack.perform]
      split <;> exact represents
  | remove handle =>
      rcases represents.remove handle.toNat with
        ⟨slabNone, stackNone⟩ | ⟨value, slabRest, stackRest, slabSome, stackSome, after⟩
      · simpa only [Slab.perform, FreeStack.perform, take, slabNone, stackNone] using
          ⟨chain, represents⟩
      · simpa only [Slab.perform, FreeStack.perform, take, slabSome, stackSome] using
          ⟨handle.toNat :: chain, after⟩
  | drain => exact ⟨[], empty⟩
  | size | isEmpty => exact ⟨chain, represents⟩

/-- Related states answer one operation alike. -/
theorem perform_fst (represents : slab.Represents chain stack)
    (fits : slab.slots.size < 2 ^ 32 - 1) (operation : SlabOperation α) :
    (slab.perform operation).1 = (stack.perform operation).1 := by
  cases operation with
  | insert value =>
      have small : (slab.insert value).1 < 2 ^ 32 := by
        have := slab.insert_fst_le value
        omega
      simp only [Slab.perform, FreeStack.perform, put, ← (represents.insert value).1,
        UInt32.toNat_ofNat_of_lt' small]
  | get handle =>
      simp only [Slab.perform, FreeStack.perform, fetch, represents.get?_eq]
      cases slab.get? handle.toNat <;> rfl
  | remove handle =>
      rcases represents.remove handle.toNat with
        ⟨slabNone, stackNone⟩ | ⟨value, slabRest, stackRest, slabSome, stackSome, -⟩
      · simp only [Slab.perform, FreeStack.perform, take, slabNone, stackNone]
      · simp only [Slab.perform, FreeStack.perform, take, slabSome, stackSome]
  | drain => exact congrArg SlabAnswer.values represents.drain_eq
  | size => exact congrArg SlabAnswer.count represents.size_eq
  | isEmpty =>
      simp only [Slab.perform, FreeStack.perform, Slab.isEmpty, represents.size_eq]

end Represents

theorem after_append (slab : Slab α) (operations more : List (SlabOperation α)) :
    slab.after (operations ++ more) = (slab.after operations).after more :=
  List.foldl_append

theorem after_singleton (slab : Slab α) (operation : SlabOperation α) :
    slab.after [operation] = (slab.perform operation).2 :=
  rfl

/-- Whatever was done to a fresh slab, it stands for some map with a stack. -/
theorem exists_represents (history : List (SlabOperation α)) :
    ∃ chain stack, ((∅ : Slab α).after history).Represents chain stack := by
  induction history using List.reverseRecOn with
  | nil => exact ⟨[], ∅, .empty⟩
  | append_singleton history operation inductionHypothesis =>
      obtain ⟨chain, stack, represents⟩ := inductionHypothesis
      obtain ⟨rest, after⟩ := represents.perform_snd operation
      rw [after_append]
      exact ⟨rest, _, after⟩

theorem FitsWords.head {slab : Slab α} {operations : List (SlabOperation α)}
    (fits : slab.FitsWords operations) : slab.slots.size < 2 ^ 32 - 1 :=
  fits [] ((List.mem_inits _ _).mpr List.nil_prefix)

theorem FitsWords.tail {slab : Slab α} {operation : SlabOperation α}
    {rest : List (SlabOperation α)} (fits : slab.FitsWords (operation :: rest)) :
    (slab.perform operation).2.FitsWords rest := by
  intro done membership
  have start : done <+: rest := (List.mem_inits _ _).mp membership
  exact fits (operation :: done)
    ((List.mem_inits _ _).mpr ((List.prefix_cons_inj operation).mpr start))

/-- Related states give the same answers to every sequence of operations. -/
theorem Represents.answers_eq {slab : Slab α} {chain : List Nat} {stack : FreeStack α}
    (represents : slab.Represents chain stack) {operations : List (SlabOperation α)}
    (fits : slab.FitsWords operations) :
    answers Slab.perform slab operations = answers FreeStack.perform stack operations := by
  induction operations generalizing slab chain stack with
  | nil => rfl
  | cons operation operations inductionHypothesis =>
      have answer := represents.perform_fst fits.head operation
      obtain ⟨rest, after⟩ := represents.perform_snd operation
      simp only [answers, answer, inductionHypothesis after fits.tail]

/-- A fresh slab gives exactly the answers of the map with the stack 0, 1, 2, …, whatever it is
asked, as long as its handles fit a word. -/
theorem answers_eq_freeStack (operations : List (SlabOperation α))
    (fits : (∅ : Slab α).FitsWords operations) :
    answers Slab.perform ∅ operations =
      answers FreeStack.perform (∅ : FreeStack α) operations :=
  Represents.empty.answers_eq fits

/-- Growth, a removal, a failed removal, reuse, and a fresh start. -/
theorem answers_reuse :
    let operations : List (SlabOperation Nat) :=
      [.insert 5, .insert 7, .insert 8, .remove 0, .remove 1, .remove 0, .insert 9, .get 1,
        .insert 4, .insert 6, .size, .drain, .isEmpty, .insert 3]
    (∅ : Slab Nat).FitsWords operations ∧
      answers Slab.perform ∅ operations =
        answers FreeStack.perform (∅ : FreeStack Nat) operations :=
  ⟨by decide, answers_eq_freeStack _ (by decide)⟩

end Slab

end GuestBoundary
