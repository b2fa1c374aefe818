import GuestBoundary.Proofs.Host.Moves
import GuestBoundary.Proofs.Resource.Soundness

/-!
# Sound hosts

Outside the tables a reference is in the host's hands, dropped by it, or on its way to be given
back. What is invariant of a store, given the references outside it, is invariant of a host. A host
is sound if its store is, given these; each move of a host that counts its references keeps it
sound.
-/

namespace GuestBoundary

open Relation

variable {kinds : Nat} {aliasing : Prop}

namespace Host

/-- The references that are not in a table: those the host holds, those it dropped, and those that
wait to be given back. -/
def outside (host : Host kinds) : Account kinds := fun reference =>
  host.holdings reference + host.leaked.count reference + host.store.inFlight.count reference

/-- The store is sound, given what the host does with its references. -/
def Sound (host : Host kinds) : Prop := host.store.Sound host.outside

theorem outside_withStore {host : Host kinds} {store : Store kinds}
    (inFlight : store.inFlight = host.store.inFlight) :
    (host.withStore store).outside = host.outside := by
  funext reference
  simp [outside, inFlight]

theorem outside_enlist (host : Host kinds) (reference : Reference kinds) :
    (host.enlist reference).outside = host.outside.add reference := by
  funext other
  simp only [outside, holdings_enlist, Account.add, leaked_enlist, store_enlist]
  omega

theorem outside_withdraw {host : Host kinds} {reference : Reference kinds} {number : Nat}
    (found : (host.numbers reference.kind)[number]? = some (some reference.identity)) :
    host.outside = (host.withdraw reference.kind number).outside.add reference := by
  funext other
  simp only [outside, holdings_withdraw found other, Account.add, leaked_withdraw,
    store_withdraw]
  omega

theorem outside_forget (host : Host kinds) (reference : Reference kinds) :
    (host.forget reference).outside = host.outside.add reference := by
  funext other
  simp only [outside, forget, holdings, numbers, Account.add, List.count_cons, beq_iff_eq]
  omega

theorem outside_enlistAll (host : Host kinds) (references : List (Reference kinds)) :
    (host.enlistAll references).outside = host.outside.addAll references := by
  induction references generalizing host with
  | nil => rfl
  | cons reference references inductionHypothesis =>
      change ((host.enlist reference).enlistAll references).outside = _
      rw [inductionHypothesis, outside_enlist]
      funext other
      simp only [Account.addAll, Account.add, List.count_cons, beq_iff_eq]
      omega

theorem outside_launch (host : Host kinds) {store : Store kinds}
    (inFlight : store.inFlight = host.store.inFlight) (references : List (Reference kinds)) :
    (host.withStore (store.launch references)).outside = host.outside.addAll references := by
  funext other
  simp only [outside, holdings_withStore, leaked_withStore, store_withStore, Store.launch,
    inFlight, List.count_append, Account.addAll]
  omega

theorem outside_land {host : Host kinds} {reference : Reference kinds}
    (waiting : reference ∈ host.store.inFlight) {store : Store kinds}
    (inFlight : store.inFlight = (host.store.land reference).inFlight) :
    host.outside = (host.withStore store).outside.add reference := by
  funext other
  have counted := (List.perm_cons_erase waiting).count_eq other
  simp only [List.count_cons, beq_iff_eq] at counted
  simp only [outside, holdings_withStore, leaked_withStore, store_withStore, inFlight,
    Store.land, Account.add]
  omega

theorem outside_pos_of_holdings {host : Host kinds} {reference : Reference kinds}
    (known : 0 < host.holdings reference) : 0 < host.outside reference := by
  unfold outside
  omega

/-- What the host holds is alive. -/
theorem Sound.references_pos {host : Host kinds} (sound : host.Sound)
    {reference : Reference kinds} (known : 0 < host.holdings reference) :
    0 < (host.store.resource reference).references := by
  rw [sound.balanced.counted]
  exact Nat.add_pos_left (outside_pos_of_holdings known) _

section

variable (holds : Account kinds → Store kinds → Prop) {host next : Host kinds}

theorem holds_withStore {store : Store kinds} (inFlight : store.inFlight = host.store.inFlight)
    (held : holds host.outside store) :
    holds (host.withStore store).outside (host.withStore store).store := by
  rw [outside_withStore inFlight]
  exact held

theorem holds_enlist {store : Store kinds} {reference : Reference kinds}
    (inFlight : store.inFlight = host.store.inFlight)
    (held : holds (host.outside.add reference) store) :
    holds ((host.withStore store).enlist reference).outside
      ((host.withStore store).enlist reference).store := by
  rw [outside_enlist, outside_withStore inFlight]
  exact held

theorem holds_withdraw {reference : Reference kinds} {number : Nat}
    (held : holds host.outside host.store)
    (found : (host.numbers reference.kind)[number]? = some (some reference.identity)) :
    holds ((host.withdraw reference.kind number).outside.add reference) host.store := by
  rw [← outside_withdraw found]
  exact held

variable {holds}

/-- An invariant of stores survives every move of a host, whose references are the ones outside the
tables. -/
theorem Move.preserves (invariant : Store.Invariant aliasing holds)
    (held : holds host.outside host.store) (move : host.Move aliasing next) :
    holds next.outside next.store := by
  have known {reference : Reference kinds} (holding : 0 < host.holdings reference) :
      0 < host.outside reference + host.store.slots reference :=
    Nat.add_pos_left (outside_pos_of_holdings holding) _
  cases move with
  | store next move =>
      exact holds_withStore holds move.inFlight_eq
        (invariant.move held (fun _ => outside_pos_of_holdings) move)
  | wrap kind representation function bound =>
      exact holds_enlist holds rfl (invariant.enroll representation bound held)
  | clone reference holding => exact holds_enlist holds rfl (invariant.count (known holding) held)
  | duplicate allowed reference holding =>
      rw [outside_enlist]
      exact invariant.share allowed (known holding) held
  | lift reference handle table taken => exact holds_enlist holds rfl (invariant.take taken held)
  | insert reference number found =>
      exact holds_withStore holds rfl (invariant.place (holds_withdraw holds held found))
  | release reference number found entered =>
      exact holds_withStore holds (Store.inFlight_giveBack _ _ _)
        (invariant.giveBack entered (holds_withdraw holds held found))
  | leak reference number found =>
      rw [outside_forget]
      exact holds_withdraw holds held found
  | drain kind =>
      have same : (host.withStore (host.store.withTable kind ∅)).outside = host.outside :=
        outside_withStore rfl
      rw [outside_enlistAll, same, store_enlistAll]
      exact invariant.empty kind held
  | bind kind function => exact holds_withStore holds rfl (invariant.rebind kind function held)
  | launch kind =>
      have account : (host.withStore
          ((host.store.withTable kind ∅).launch (host.store.parked kind))).outside =
            host.outside.addAll (host.store.parked kind) :=
        outside_launch host rfl _
      rw [account]
      exact invariant.withInFlight _ (invariant.empty kind held)
  | land reference waiting entered =>
      have landed : holds ((host.withStore (host.store.land reference)).outside.add reference)
          (host.store.land reference) := by
        rw [← outside_land waiting rfl]
        exact invariant.withInFlight _ held
      have given : holds ((host.withStore (host.store.land reference)).withStore
          ((host.store.land reference).giveBack entered reference)).outside _ :=
        holds_withStore holds (Store.inFlight_giveBack _ _ _) (invariant.giveBack entered landed)
      exact given

theorem Evolves.preserves (invariant : Store.Invariant aliasing holds)
    (held : holds host.outside host.store) (evolves : host.Evolves aliasing next) :
    holds next.outside next.store := by
  induction evolves with
  | refl => exact held
  | tail _ move inductionHypothesis => exact move.preserves invariant inductionHypothesis

end

/-- A host that counts its references stays sound. -/
theorem Evolves.sound {host later : Host kinds} (sound : host.Sound)
    (evolves : host.Evolves False later) : later.Sound :=
  evolves.preserves Store.Sound.invariant sound

end Host

end GuestBoundary
