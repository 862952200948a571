import Enrolment.Proofs.Activation.Accounts
import Enrolment.Proofs.Activation.Marks
import Enrolment.Proofs.Store.Roster
import Enrolment.Server.Startup

set_option autoImplicit false

namespace Enrolment

namespace Presence

theorem contains_add (presence : Presence) (address other : String) (firstSeen : Instant) :
    (presence.add address firstSeen).contains other = true ↔
      presence.contains other = true ∨ other = address := by
  rw [contains, contains, firstSeen?_add]
  by_cases same : other = address
  · simp [same]
  · simp [same]

theorem contains_ofList (entries : List (String × Instant)) (address : String) :
    (ofList entries).contains address = true ↔ address ∈ entries.map Prod.fst := by
  -- Generalised to the entries that are there before, for the induction.
  have filled (presence : Presence) :
      (entries.foldl (fun presence entry => presence.add entry.1 entry.2) presence).contains
          address = true ↔
        presence.contains address = true ∨ address ∈ entries.map Prod.fst := by
    induction entries generalizing presence with
    | nil => simp
    | cons entry entries ih =>
      rw [List.foldl_cons, ih, contains_add, List.map_cons, List.mem_cons, or_assoc]
  rw [ofList, filled]
  simp [contains, firstSeen?]

end Presence

theorem Store.list_all {store : Store} {participants : List Participant}
    (listed : store.list none none = .ok participants) :
    store.addresses = participants.map Participant.address := by
  simp only [Store.list, Store.findPage] at listed
  cases counted : store.reach .count with
  | error fault => simp [counted, bind, Except.bind] at listed
  | ok table =>
    have stored := Store.table_of_reach rfl counted
    simp only [counted, bind, Except.bind, Page.bounds] at listed
    cases loaded : store.reach .load with
    | error fault => simp [Store.loadPage, loaded, bind, Except.bind] at listed
    | ok again =>
      -- Both statements reach the same table, and the page covers all of it.
      obtain rfl : table = again := by
        have same := Store.table_of_reach rfl loaded
        rwa [stored, Option.some.injEq] at same
      simp only [Store.loadPage, loaded, bind, Except.bind] at listed
      have opened : Table.openRows store.cipher table.rows = .ok participants := by
        simpa [Page.cut] using listed
      rw [Store.addresses_of_table stored]
      exact Table.addresses_of_opened ((Table.openRows_ok_iff _ _).mp opened)

namespace Registrar

def IsWarmed (registrar : Registrar) : Prop :=
  ∃ (cold : Registrar) (count : Nat), cold.warm = .ok (count, registrar)

theorem IsWarmed.isPresent_iff {registrar : Registrar} (warmed : registrar.IsWarmed)
    (address : String) :
    registrar.isPresent address = true ↔ address ∈ registrar.store.addresses := by
  obtain ⟨cold, count, filled⟩ := warmed
  unfold warm at filled
  cases listed : cold.store.list none none with
  | error fault => simp [listed, bind, Except.bind] at filled
  | ok participants =>
    simp only [listed, bind, Except.bind, pure, Except.pure, Except.ok.injEq, Prod.mk.injEq]
      at filled
    obtain ⟨-, rfl⟩ := filled
    rw [Store.list_all listed, isPresent, presenceOf, Presence.contains_ofList, List.map_map]
    rfl

end Registrar

namespace Launch

variable {settings : Settings} {surroundings : Surroundings} {launch : Launch} {app : App}

theorem isWarmed_warmUp {cold : App}
    (started : (warmUp settings surroundings launch cold).result = .ok app) :
    app.registrar.IsWarmed := by
  unfold warmUp at started
  split at started
  · cases started
  next participants registrar warmed =>
    dsimp only at started
    split at started
    · cases started
    · cases started
      exact ⟨cold.registrar, participants, warmed⟩

theorem result_concluded (started : (concluded settings surroundings launch).result = .ok app) :
    launch.result = .ok app := by
  unfold concluded at started
  split at started
  · exact started
  · cases started

theorem isWarmed_run (started : (run settings surroundings).result = .ok app) :
    app.registrar.IsWarmed := by
  unfold run at started
  split at started
  · cases started
  next applied database migrated =>
    have started := result_concluded started
    -- Of all the ways that a start can take, only the one to its end gives an app.
    unfold afterMigration at started
    split at started
    · cases started
    split at started
    · cases started
    dsimp only at started
    split at started
    · exact isWarmed_warmUp started
    · cases started

end Launch

namespace Office

theorem completed?_step (office : Office) (event : Event) {number desk : Nat}
    {participant : Participant}
    (completed : office.completed? number desk = some participant) :
    (office.step event).completed? number desk = some participant := by
  cases office.step_marks event with
  | unmarked same kept => rw [kept, completed]
  | marked advances present marked elsewhere calls =>
    rw [office.completed?_marked present _ calls]
    split
    next here =>
      -- A call that is about to complete has not completed before.
      obtain ⟨rfl, rfl⟩ := here
      cases (completed?_of_failed present rfl _).symm.trans completed
    · exact completed

theorem completed?_run (office : Office) (events : List Event) {number desk : Nat}
    {participant : Participant}
    (completed : office.completed? number desk = some participant) :
    (office.run events).completed? number desk = some participant := by
  induction events generalizing office with
  | nil => exact completed
  | cons event events ih => exact ih _ (office.completed?_step event completed)

theorem result?_of_completed? {office : Office} {number desk : Nat} {participant : Participant}
    (completed : office.completed? number desk = some participant) :
    office.result? number = some (.ok participant) := by
  obtain ⟨caller, present⟩ := completed?_eq_some.mp completed
  rw [result?, present]
  rfl

def Remembers (addresses : List String) (desk : Nat) (office : Office) : Prop :=
  ∀ address, (office.desk desk).isPresent address = true ↔ address ∈ addresses ∨
    ∃ number participant, office.completed? number desk = some participant ∧
      participant.address = address

theorem Remembers.step {addresses : List String} {desk : Nat} {office : Office}
    (remembers : office.Remembers addresses desk) (event : Event) :
    (office.step event).Remembers addresses desk := by
  intro address
  have before := remembers address
  cases office.step_marks event with
  | unmarked same kept =>
    simp only [Registrar.isPresent, (same desk).presence, kept] at before ⊢
    exact before
  | @marked number place draw participant advances present marked elsewhere calls =>
    simp only [office.completed?_marked present _ calls]
    by_cases here : desk = place
    · subst here
      rw [Registrar.isPresent, marked.presence, Presence.contains_add, ← Registrar.isPresent,
        before]
      constructor
      · rintro ((seeded | ⟨other, known, completed, rfl⟩) | rfl)
        · exact .inl seeded
        · refine .inr ⟨other, known, ?_, rfl⟩
          split
          next same =>
            obtain ⟨rfl, -⟩ := same
            cases (completed?_of_failed present rfl _).symm.trans completed
          · exact completed
        · exact .inr ⟨number, participant, by simp, rfl⟩
      · rintro (seeded | ⟨other, known, completed, rfl⟩)
        · exact .inl (.inl seeded)
        · split at completed
          · cases completed
            exact .inr rfl
          · exact .inl (.inr ⟨other, known, completed, rfl⟩)
    · rw [Registrar.isPresent, (elsewhere desk here).presence, ← Registrar.isPresent, before]
      simp [here]

theorem remembers_run (store : Store) (desks : Nat → Registrar) (events : List Event) {desk : Nat}
    (warmed : ((opened store desks).desk desk).IsWarmed) :
    ((opened store desks).run events).Remembers store.addresses desk := by
  induction events using List.reverseRecOn with
  | nil =>
    intro address
    rw [run, List.foldl_nil, warmed.isPresent_iff]
    simp [completed?, opened, Office.desk]
  | append_singleton events event ih =>
    rw [run_concat]
    exact ih.step event

theorem Remembers.stored {seeds : List Row} {journal : List (Nat × Row)} {desk : Nat}
    {office : Office} (remembers : office.Remembers (seeds.map Row.address) desk)
    (accounted : office.Accounted seeds journal) {address : String}
    (present : (office.desk desk).isPresent address = true) : address ∈ office.store.addresses := by
  rw [accounted.addresses, List.mem_append]
  rcases (remembers address).mp present with seeded | ⟨number, participant, completed, rfl⟩
  · exact .inl seeded
  · -- Who was activated has a row in the journal.
    obtain ⟨nonce, id, member⟩ := accounted.row_of_result (result?_of_completed? completed)
    exact .inr (List.mem_map_of_mem member)

theorem presence_is_true_and_lasting (store : Store) (desks : Nat → Registrar)
    (events : List Event) (desk : Nat) (warmed : ((opened store desks).desk desk).IsWarmed) :
    let office := (opened store desks).run events
    (∀ address, (office.desk desk).isPresent address = true →
        address ∈ office.store.addresses) ∧
      (∀ earlier later number participant, events = earlier ++ later →
        ((opened store desks).run earlier).completed? number desk = some participant →
          (office.desk desk).isPresent participant.address = true) ∧
      ∀ earlier later, events = earlier ++ later →
        ∃ rows, office.store.rows = ((opened store desks).run earlier).store.rows ++ rows := by
  intro office
  have remembers : office.Remembers store.addresses desk := remembers_run store desks events warmed
  have accounted := accounted_run store desks events
  refine ⟨fun address present => remembers.stored accounted present, ?_, ?_⟩
  · intro earlier later number participant parts completed
    have lasting := ((opened store desks).run earlier).completed?_run later completed
    rw [← run_append, ← parts] at lasting
    exact (remembers participant.address).mpr (.inr ⟨number, participant, lasting, rfl⟩)
  · rintro earlier later rfl
    refine ⟨(((opened store desks).run earlier).journal later).map Prod.snd, ?_⟩
    rw [accounted.rows, (accounted_run store desks earlier).rows, journal_append, List.map_append,
      List.append_assoc]

def founder : Participant :=
  ⟨"root", "root@example.org", Uuid.ofNat 0, Instant.ofMillis 0, ""⟩

def archive : Table where
  rows := [Row.ofParticipant foundation.cipher (List.replicate 12 0) 1 founder]
  nextId := 2

def morningStore : Store := { foundation with table := some archive }

def morningDesk : Registrar :=
  { frontDesk with store := morningStore, presence := Registrar.presenceOf [founder] }

def morningOffice : Office := opened morningStore fun _ => morningDesk

theorem serves_morningStore : morningStore.Serves archive := ⟨rfl, rfl, rfl, rfl⟩

theorem isWarmed_morningDesk (desk : Nat) : (morningOffice.desk desk).IsWarmed := by
  have empty : Table.Holds .empty foundation.cipher [] := ⟨rfl, by simp [Table.empty]⟩
  have mirrors : morningStore.Mirrors foundation.cipher [founder] :=
    ⟨rfl, archive, serves_morningStore, empty.add ⟨List.replicate 12 0, rfl⟩ founder⟩
  refine ⟨{ frontDesk with store := morningStore }, 1, ?_⟩
  rw [Registrar.warm, mirrors.list none none]
  rfl

theorem completed?_enrolment :
    (morningOffice.run enrolment).completed? 0 0 = some newParticipant := by
  let registered := morningOffice.step (.register 0 ⟨enrolledAt, []⟩ newcomer)
  have tokens : (registered.desk 0).tokens = frontDesk.tokens := rfl
  have serves : registered.store.Serves archive := serves_morningStore
  have succeeded := Registrar.activate_authorized ⟨activatedAt, []⟩
    (authorize_newcomer registered 0 tokens) serves (by decide) (by decide)
  have arrived := registered.run_uninterrupted 0 ⟨activatedAt, []⟩ newcomerToken
    (Token.fingerprint newcomerToken)
  rw [succeeded] at arrived
  change (registered.run (.present 0 activatedAt newcomerToken (Token.fingerprint newcomerToken) ::
    List.replicate 4 (.advance registered.calls.length ⟨activatedAt, []⟩))).completed? 0 0 = _
  rw [arrived]
  rfl

theorem presence_of_newcomer_is_true_and_lasting :
    let office := morningOffice.run (enrolment ++ [.disturb Statement.all ["ann"] false])
    (office.desk 0).isPresent "ann" = true ∧ "ann" ∈ office.store.addresses := by
  intro office
  obtain ⟨true, lasting, -⟩ := presence_is_true_and_lasting morningStore (fun _ => morningDesk)
    (enrolment ++ [.disturb Statement.all ["ann"] false]) 0 (isWarmed_morningDesk 0)
  have present := lasting enrolment _ 0 newParticipant rfl completed?_enrolment
  exact ⟨present, true "ann" present⟩

end Office

end Enrolment
