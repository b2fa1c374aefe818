import GuestBoundary.Guest.Program
import GuestBoundary.Proofs.Guest.Agreement
import GuestBoundary.Proofs.Memory.Words
import GuestBoundary.Proofs.Resource.Lending

/-!
# Code that returns

Guest code returns if running it comes to running whatever follows, on the store that it leaves.
Commands return when what they reach is there, and code made of parts returns part by part; so a
guest function is followed from its first command to its last without a look at the tree.
-/

namespace GuestBoundary

variable {kinds : Nat} {α β γ : Type}

namespace Code

theorem bind_done (code : Code kinds α) : code.bind .done = code := by
  induction code with
  | done value => rfl
  | trap reason => rfl
  | perform command next inductionHypothesis =>
      exact congrArg (perform command) (funext inductionHypothesis)

theorem bind_bind (code : Code kinds α) (first : α → Code kinds β) (next : β → Code kinds γ) :
    (code.bind first).bind next = code.bind fun value => (first value).bind next := by
  induction code with
  | done value => rfl
  | trap reason => rfl
  | perform command rest inductionHypothesis =>
      exact congrArg (perform command) (funext inductionHypothesis)

/-- On a store, the code ends with a value and leaves another store, whatever follows it. -/
def Returns (enter : (room : Nat) → Entry kinds) (room : Nat) (code : Code kinds α)
    (store : Store kinds) (value : α) (after : Store kinds) : Prop :=
  ∀ (β : Type) (next : α → Code kinds β),
    ((code.bind next).run enter room).on store = ((next value).run enter room).on after

namespace Returns

variable {enter : (room : Nat) → Entry kinds} {room : Nat} {store middle after : Store kinds}

theorem pure (value : α) (store : Store kinds) :
    Returns enter room (Pure.pure value : Code kinds α) store value store := fun _ _ => rfl

theorem bind {code : Code kinds α} {next : α → Code kinds β} {value : α} {result : β}
    (first : code.Returns enter room store value middle)
    (rest : (next value).Returns enter room middle result after) :
    Returns enter room (code >>= next) store result after := by
  intro _ further
  change (((code.bind next).bind further).run enter room).on store = _
  rw [bind_bind, first]
  exact rest _ further

theorem send (command : Command kinds) {answer : command.Answer}
    (fits : command.roomAfter room = some room)
    (answered : (Store.execute (enter room) command).on store = (.ok answer, after)) :
    (send command).Returns enter room store answer after := fun _ _ =>
  Stage.Step.run_eq (.perform fits answered)

/-! ### Commands -/

theorem readBytes {address length : Nat} (inside : address + length ≤ store.memory.size) :
    (readBytes address length).Returns enter room store
      (store.memory.read ⟨address, address + length⟩) store := by
  apply send _ rfl
  rw [Store.execute, Work.on_get_bind, if_pos inside]
  rfl

theorem writeBytes {address : Nat} {data : List UInt8}
    (inside : address + data.length ≤ store.memory.size) :
    (writeBytes address data).Returns enter room store ()
      { store with memory := store.memory.write address data } := by
  apply send _ rfl
  rw [Store.execute, Work.on_get_bind, if_pos inside]
  rfl

theorem copyBytes {target source length : Word}
    (sourceInside : source.toNat + length.toNat ≤ store.memory.size)
    (targetInside : target.toNat + length.toNat ≤ store.memory.size) :
    (copyBytes target source length).Returns enter room store ()
      { store with memory :=
          store.memory.copy target.toNat source.toNat length.toNat } := by
  apply send _ rfl
  rw [Store.execute, Work.on_get_bind, if_pos ⟨sourceInside, targetInside⟩]
  rfl

theorem loadWord {address : Nat} {word : Word} (there : store.memory.HasWord address word) :
    (loadWord address).Returns enter room store word store := by
  refine (readBytes there.inside).bind ?_
  rw [there.bytes, LawfulScalar.decode_encode]
  exact pure word store

theorem storeWord {address : Nat} (word : Word) (inside : address + 4 ≤ store.memory.size) :
    (storeWord address word).Returns enter room store ()
      { store with memory := store.memory.write address (Scalar.encode word) } :=
  writeBytes inside

/-- The representation behind a handle. -/
theorem askGet {reference : Reference kinds} {handle : Word}
    (held : (store.registry reference.kind).table.get? handle.toNat = some reference.identity) :
    (ask .get reference.kind handle).Returns enter room store
      (store.resource reference).representation store := by
  apply send _ rfl
  have peeked : (Store.peek reference.kind handle).on store = (.ok reference, store) := by
    rw [Store.peek, Attempt.on_examine, Slab.fetch, held]
    rfl
  have looked : (Store.lifecycle (enter room) reference.kind .get handle).on store =
      (.ok (store.resource reference).representation, store) := by
    rw [Store.lifecycle, Work.on_bind, peeked]
    rfl
  rw [Store.execute, GuestRun.ofHost, Work.on_adapt, looked]
  rfl

/-- A lent reference is dropped without a destructor. -/
theorem askDrop {reference : Reference kinds} {handle : Word}
    (lent : store.Lent reference handle) :
    (ask .drop reference.kind handle).Returns enter room store 0
      (store.dropped reference handle) := by
  apply send _ rfl
  obtain ⟨table, taken⟩ := Slab.exists_take_of_get? lent.held
  have unparked : (Store.unpark reference.kind handle).on store =
      (.ok reference, store.withTable reference.kind table) := Store.on_unpark_of_take taken
  have shared : (store.withTable reference.kind table).verdict reference = .shared := by
    rw [Store.verdict, Store.resource_withTable]
    exact lent.shared
  have dropped : (Store.lifecycle (enter room) reference.kind .drop handle).on store =
      (.ok 0, store.dropped reference handle) := by
    rw [Store.lifecycle, Work.on_bind, unparked]
    dsimp only
    rw [Work.on_bind, Store.on_release_of_shared _ shared, Store.dropped, taken]
    rfl
  rw [Store.execute, GuestRun.ofHost, Work.on_adapt, dropped]
  rfl

/-- An empty frame is taken and given up. -/
theorem frame {size : Nat} (fits : size ≤ room) (value : α) (store : Store kinds) :
    Returns enter room (.perform (.enterFrame size) fun _ => .perform (.leaveFrame size) fun _ =>
      .done value) store value store := by
  intro _ next
  have entered : (Command.enterFrame size : Command kinds).roomAfter room = some (room - size) :=
    if_pos fits
  have left : (Command.leaveFrame size : Command kinds).roomAfter (room - size) = some room :=
    congrArg some (Nat.sub_add_cancel fits)
  have first : (Store.execute (enter room) (.enterFrame size)).on store = (.ok (), store) := rfl
  have second : (Store.execute (enter (room - size)) (.leaveFrame size)).on store =
      (.ok (), store) := rfl
  exact (Stage.Step.run_eq (.perform entered first)).trans
    (Stage.Step.run_eq (.perform left second))

/-! ### The allocator -/

/-- Nothing is reserved up to an address inside a memory of whole pages. -/
theorem reserve {pages : Nat} (whole : store.memory.size = pages * pageSize)
    (addressable : pages < maxPages) {stop : Word} (inside : stop.toNat ≤ store.memory.size) :
    (reserve stop).Returns enter room store () store := by
  have answered : (Code.send .pages : Code kinds Word).Returns enter room store
      (UInt32.ofNat pages) store := by
    apply send .pages rfl
    rw [Store.execute, Work.on_get_bind, whole, Nat.mul_div_cancel _ (by decide)]
    rfl
  have size : (UInt32.ofNat pages <<< 16).toNat = store.memory.size := by
    have small : pages < UInt32.size := Nat.lt_trans addressable (by decide)
    rw [UInt32.toNat_shiftLeft, UInt32.toNat_ofNat_of_lt' small, whole, Nat.shiftLeft_eq]
    exact Nat.mod_eq_of_lt (Nat.mul_lt_mul_of_pos_right addressable (by decide))
  refine answered.bind ?_
  dsimp only
  rw [if_neg (by rw [UInt32.lt_iff_toNat_lt, size]; omega)]
  exact pure () store

theorem alignUp_one (next : Word) : alignUp next 1 = next := by
  simp [alignUp]

/-- Room inside the memory is handed out where the free memory begins. -/
theorem allocate {pages : Nat} (whole : store.memory.size = pages * pageSize)
    (addressable : pages < maxPages) {next length : Word}
    (found : store.globals[heapGlobal]? = some next)
    (inside : next.toNat + length.toNat ≤ store.memory.size) :
    (allocate 0 0 1 length).Returns enter room store next
      { store with globals := store.globals.setIfInBounds heapGlobal (next + length) } := by
  have read : (Code.send (.readGlobal heapGlobal) : Code kinds Word).Returns enter room store
      next store := by
    apply send (.readGlobal heapGlobal) rfl
    rw [Store.execute, Work.on_get_bind, Array.getD_eq_getD_getElem?, found]
    rfl
  have stop : (next + length).toNat = next.toNat + length.toNat := by
    rw [UInt32.toNat_add, Nat.mod_eq_of_lt]
    calc next.toNat + length.toNat ≤ pages * pageSize := le_of_le_of_eq inside whole
      _ < maxPages * pageSize := Nat.mul_lt_mul_of_pos_right addressable (by decide)
  have written : (Code.send (.writeGlobal heapGlobal (next + length)) : Code kinds Unit).Returns
      enter room store ()
        { store with globals := store.globals.setIfInBounds heapGlobal (next + length) } :=
    send (.writeGlobal heapGlobal (next + length)) rfl rfl
  refine read.bind ?_
  dsimp only
  rw [alignUp_one]
  refine (reserve whole addressable (le_of_eq_of_le stop inside)).bind (written.bind ?_)
  exact pure next _

end Returns

end Code

/-- A call of code that returns. -/
theorem Instance.on_call {running : Instance kinds} {function : FunctionId}
    {arguments : List Word} {store after : Store kinds} {value : Word}
    (returns : ∀ enter, (running.program.body function arguments).Returns enter
      running.engine.stack (store.note (.called { function, arguments } true)) value after) :
    (running.call function arguments).on store = (.ok value, after) := by
  have ending := returns (running.engine.nested
    (running.engine.enter running.program.body running.engine.stack)) _ .done
  rw [Code.bind_done] at ending
  rw [Instance.call, Instance.enter, on_toHost_enter]
  dsimp only
  rw [Stage.run, opening, ending]
  rfl

end GuestBoundary
