import Enrolment.Proofs.Activation.Completion
import Mathlib.Data.List.Induction

set_option autoImplicit false

namespace Enrolment

namespace Table

inductive Grown (seeds : List Row) : List Row → Prop
  | start : Grown seeds seeds
  | more {rows : List Row} {row : Row} (grown : Grown seeds rows)
      (fresh : row.address ∉ rows.map Row.address)
      (sponsored : row.sponsor ∈ rows.map Row.address) : Grown seeds (rows ++ [row])

def climb (rows : List Row) : Nat → Row → Option Row
  | 0, row => some row
  | steps + 1, row =>
    (rows.find? fun candidate => candidate.address = row.sponsor).bind (climb rows steps)

theorem climb_append (rows more : List Row) (steps : Nat) (row found : Row)
    (climbed : climb rows steps row = some found) :
    climb (rows ++ more) steps row = some found := by
  -- Rows are added behind the others, so the first row of an address stays the first.
  induction steps generalizing row with
  | zero => exact climbed
  | succ steps ih =>
    simp only [climb, Option.bind_eq_some_iff] at climbed
    obtain ⟨sponsor, present, climbed⟩ := climbed
    simp only [climb, List.find?_append, present, Option.some_or, Option.bind_some]
    exact ih sponsor climbed

namespace Grown

variable {seeds rows : List Row}

theorem split (grown : Grown seeds rows) :
    ∃ added, rows = seeds ++ added ∧ ∀ earlier row later, added = earlier ++ row :: later →
      row.address ∉ (seeds ++ earlier).map Row.address ∧
        row.sponsor ∈ (seeds ++ earlier).map Row.address := by
  induction grown with
  | start => exact ⟨[], by simp, by simp⟩
  | @more rows last grown fresh sponsored ih =>
    obtain ⟨added, rfl, earlierHold⟩ := ih
    refine ⟨added ++ [last], by simp, fun earlier row later parts => ?_⟩
    -- The row that was added last comes last, and the others were there before.
    rcases List.eq_nil_or_concat later with rfl | ⟨inner, final, rfl⟩
    · obtain ⟨rfl, same⟩ := List.append_inj' parts rfl
      cases same
      exact ⟨fresh, sponsored⟩
    · rw [List.concat_eq_append, ← List.cons_append, ← List.append_assoc] at parts
      exact earlierHold earlier row inner (List.append_inj' parts rfl).1

theorem climb_seed (grown : Grown seeds rows) :
    ∀ row ∈ rows, ∃ steps seed, steps + seeds.length ≤ rows.length ∧
      climb rows steps row = some seed ∧ seed ∈ seeds := by
  -- A row that is new is one step away from a row of which the claim is known already.
  induction grown with
  | start =>
    intro row member
    exact ⟨0, row, by omega, rfl, member⟩
  | @more rows last grown fresh sponsored ih =>
    intro row member
    rcases List.mem_append.mp member with earlier | here
    · obtain ⟨steps, seed, bound, climbed, started⟩ := ih row earlier
      refine ⟨steps, seed, ?_, climb_append _ _ _ _ _ climbed, started⟩
      rw [List.length_append]
      omega
    · rw [List.mem_singleton] at here
      subst here
      obtain ⟨found, present⟩ : ∃ found, rows.find?
          (fun candidate => candidate.address = row.sponsor) = some found := by
        obtain ⟨sponsor, within, named⟩ := List.mem_map.mp sponsored
        rw [← Option.isSome_iff_exists, List.find?_isSome]
        exact ⟨sponsor, within, by simpa using named⟩
      obtain ⟨steps, seed, bound, climbed, started⟩ :=
        ih found (List.mem_of_find?_eq_some present)
      refine ⟨steps + 1, seed, ?_, ?_, started⟩
      · rw [List.length_append, List.length_singleton]
        omega
      · have next := climb_append rows [row] steps found seed climbed
        simpa [climb, List.find?_append, present] using next

end Grown

end Table

namespace Office

structure Rooted (seeds : List Row) (office : Office) : Prop where
  grown : Table.Grown seeds office.store.rows
  sponsored : ∀ (number : Nat) (call : Call) (participant : Participant),
    office.calls[number]? = some call → call.activation = .inserting participant →
      participant.sponsor ∈ office.store.addresses

variable (office : Office)

theorem rooted_step (seeds : List Row) (event : Event) (rooted : office.Rooted seeds) :
    (office.step event).Rooted seeds := by
  cases office.step_steps event with
  | quiet keeps rows grows calls =>
    have addresses : (office.step event).store.addresses = office.store.addresses :=
      congrArg (List.map Row.address) rows
    refine ⟨by rw [rows]; exact rooted.grown, fun number call participant present inserting => ?_⟩
    rw [addresses]
    -- Whoever starts to write has just found its sponsor, and stored rows stay stored.
    rcases calls number call present with ⟨former, earlier, moves⟩ | ⟨-, opens⟩
    · rw [inserting] at moves
      rcases moves.inserting with before | known
      · exact rooted.sponsored number former participant earlier before
      · exact known
    · rcases opens.activation with ⟨_, _, _, _, claims, -, -, looking⟩ | ⟨error, failed⟩
      · cases inserting.symm.trans looking
      · cases inserting.symm.trans failed
  | @wrote keeps number id draw call caller participant nonce advances present inserting writes
      calls =>
    have sponsor := rooted.sponsored number call participant present inserting
    refine ⟨?_, fun other found candidate after pending => ?_⟩
    · rw [writes.rows]
      exact .more rooted.grown writes.fresh sponsor
    · rw [calls] at after
      rcases getElem?_set_cases after with ⟨rfl, rfl⟩ | ⟨different, unchanged⟩
      · cases pending
      · have known := rooted.sponsored other found candidate unchanged pending
        simp only [Store.addresses, writes.rows, List.map_append, List.mem_append]
        exact .inl known

theorem rooted_run (store : Store) (desks : Nat → Registrar) (events : List Event) :
    ((opened store desks).run events).Rooted store.rows := by
  induction events using List.reverseRecOn with
  | nil => exact ⟨.start, by simp [run, opened]⟩
  | append_singleton events event ih =>
    rw [run_concat]
    exact rooted_step _ _ event ih

theorem sponsors_lead_to_seeds (store : Store) (desks : Nat → Registrar) (events : List Event) :
    ∃ added, ((opened store desks).run events).store.rows = store.rows ++ added ∧
      ∀ earlier row later, added = earlier ++ row :: later →
        row.sponsor ∈ (store.rows ++ earlier).map Row.address ∧ row.sponsor ≠ row.address ∧
          ∃ steps seed, steps ≤ added.length ∧
            Table.climb (store.rows ++ added) steps row = some seed ∧ seed ∈ store.rows := by
  have grown := (rooted_run store desks events).grown
  obtain ⟨added, rows, placed⟩ := grown.split
  refine ⟨added, rows, fun earlier row later parts => ?_⟩
  obtain ⟨fresh, sponsored⟩ := placed earlier row later parts
  refine ⟨sponsored, fun same => fresh (same ▸ sponsored), ?_⟩
  have member : row ∈ ((opened store desks).run events).store.rows := by simp [rows, parts]
  obtain ⟨steps, seed, bound, climbed, started⟩ := grown.climb_seed row member
  rw [rows] at bound climbed
  rw [List.length_append] at bound
  exact ⟨steps, seed, by omega, climbed, started⟩

theorem rows_enrolment : (frontOffice.run enrolment).store.rows =
    founders.rows ++ [Row.ofParticipant foundation.cipher (Draw.nonce ⟨activatedAt, []⟩).bytes 2
      newParticipant] := by
  have presented := registered.step_present 0 (authorize_newcomer registered 0 registered_tokens)
  rw [enrolment, run, List.foldl_cons, List.foldl_cons, ← registered, presented]
  rfl

theorem sponsors_lead_newcomer_to_founder :
    ∃ row, (frontOffice.run enrolment).store.rows = founders.rows ++ [row] ∧
      row.address = "ann" ∧ row.sponsor ∈ founders.rows.map Row.address ∧
        ∃ steps seed, steps ≤ 1 ∧
          Table.climb (founders.rows ++ [row]) steps row = some seed ∧ seed ∈ founders.rows := by
  obtain ⟨added, rows, placed⟩ :=
    sponsors_lead_to_seeds foundation (fun _ => frontDesk) enrolment
  have only : added = [Row.ofParticipant foundation.cipher (Draw.nonce ⟨activatedAt, []⟩).bytes 2
      newParticipant] :=
    List.append_cancel_left (rows.symm.trans rows_enrolment)
  subst only
  obtain ⟨sponsored, -, chain⟩ := placed [] _ [] rfl
  rw [List.append_nil] at sponsored
  exact ⟨_, rows_enrolment, rfl, sponsored, chain⟩

end Office

end Enrolment
