import Enrolment.Proofs.Cipher.Exactness
import Enrolment.Proofs.Store.Pages
import Mathlib.Data.List.Nodup

set_option autoImplicit false

namespace Enrolment

open Roster (Operation)

structure Sealing where
  cipher : EmailCipher
  nonce : Nonce
  address : String
  email : String

namespace Sealing

def text (sealing : Sealing) : String :=
  sealing.cipher.sealed sealing.nonce.bytes sealing.address sealing.email

def ciphertext (sealing : Sealing) : Bytes :=
  Gcm.encrypt sealing.cipher.key sealing.nonce.bytes (Bytes.ofString sealing.address)
    (Bytes.ofString sealing.email)

def IsFor (sealing : Sealing) (cipher : EmailCipher) (address : String) : Prop :=
  sealing.cipher = cipher ∧ sealing.address = address

def Agrees (sealing : Sealing) (cipher : EmailCipher) (roster : List Participant) : Prop :=
  ∀ participant ∈ roster, sealing.IsFor cipher participant.address →
    sealing.email = participant.email

end Sealing

namespace EmailCipher

-- Ideal encryption: what was sealed does not open under another key, or with other associated data.
-- The nonce goes along with the ciphertext.
def IsIdeal (cipher : EmailCipher) (made : List Sealing) (addresses : List String) : Prop :=
  ∀ sealing ∈ made, ∀ address ∈ addresses,
    (sealing.cipher.key, Bytes.ofString sealing.address) ≠ (cipher.key, Bytes.ofString address) →
      Gcm.decrypt? cipher.key sealing.nonce.bytes (Bytes.ofString address) sealing.ciphertext = none

variable {cipher : EmailCipher} {made : List Sealing} {addresses : List String}
  {sealing : Sealing} {address : String}

theorem opened_own (own : sealing.IsFor cipher address) :
    cipher.opened address sealing.text = .ok sealing.email := by
  obtain ⟨rfl, rfl⟩ := own
  exact opened_sealed _ (Nat.le_of_eq sealing.nonce.size.symm) _ _

theorem IsIdeal.opened_foreign (ideal : cipher.IsIdeal made addresses) (member : sealing ∈ made)
    (known : address ∈ addresses) (foreign : ¬sealing.IsFor cipher address) :
    cipher.opened address sealing.text = .error .unopened := by
  have size := Gcm.length_encrypt sealing.cipher.key_size sealing.nonce.bytes
    (Bytes.ofString sealing.address) (Bytes.ofString sealing.email)
  have apart : (sealing.cipher.key, Bytes.ofString sealing.address) ≠
      (cipher.key, Bytes.ofString address) := by
    intro same
    obtain ⟨keys, addresses⟩ := Prod.mk.inj same
    refine foreign ⟨?_, Bytes.ofString_injective addresses⟩
    rcases sealing with ⟨⟨key, _⟩, _, _, _⟩
    rcases cipher with ⟨other, _⟩
    obtain rfl : key = other := keys
    rfl
  rw [Sealing.text, sealed_eq sealing.nonce.size,
    opened_framed cipher address sealing.nonce.size (by omega)]
  have shut := ideal sealing member address known apart
  rw [Sealing.ciphertext] at shut
  rw [shut]
  rfl

end EmailCipher

def Row.plain (row : Row) : String × Uuid × Instant × String :=
  (row.address, row.uuid, row.activatedAt, row.sponsor)

def Participant.plain (participant : Participant) : String × Uuid × Instant × String :=
  (participant.address, participant.uuid, participant.activatedAt, participant.sponsor)

namespace Table

-- The emails of the rows of a table at other places. A row whose source is past the end keeps its
-- own.
def rearrange (table : Table) (source : Nat → Nat) : Table :=
  table.reseal fun position row =>
    (table.rows[source position]?.map Row.sealedEmail).getD row.sealedEmail

-- Rows that are participants in all but their emails, of which each is one that was sealed.
structure StandFor (held : Sealing → Prop) (rows : List Row) (roster : List Participant) :
    Prop where
  plain : rows.map Row.plain = roster.map Participant.plain
  sealed : ∀ row ∈ rows, ∃ sealing, held sealing ∧ row.sealedEmail = sealing.text

variable {held : Sealing → Prop} {rows : List Row} {roster : List Participant}
  {cipher : EmailCipher}

theorem StandFor.addresses (stand : StandFor held rows roster) :
    rows.map Row.address = roster.map Participant.address := by
  have first := congrArg (List.map Prod.fst) stand.plain
  rwa [List.map_map, List.map_map] at first

theorem StandFor.page (stand : StandFor held rows roster) (start size : Nat) :
    StandFor held ((rows.drop start).take size) ((roster.drop start).take size) where
  plain := by simp only [List.map_take, List.map_drop, stand.plain]
  sealed row member := stand.sealed row (List.mem_of_mem_drop (List.mem_of_mem_take member))

theorem StandFor.append {others : List Row} {newcomers : List Participant}
    (stand : StandFor held rows roster) (more : StandFor held others newcomers) :
    StandFor held (rows ++ others) (roster ++ newcomers) where
  plain := by rw [List.map_append, List.map_append, stand.plain, more.plain]
  sealed row member := (List.mem_append.mp member).elim (stand.sealed row) (more.sealed row)

theorem StandFor.reseal {table : Table} (stand : StandFor held table.rows roster)
    {sealedEmail : Nat → Row → String}
    (holds : ∀ position, ∀ row ∈ table.rows,
      ∃ sealing, held sealing ∧ sealedEmail position row = sealing.text) :
    StandFor held (table.reseal sealedEmail).rows roster where
  plain := by
    rw [← stand.plain]
    refine List.ext_getElem (by simp [Table.reseal]) fun place _ _ => ?_
    simp only [Table.reseal, List.getElem_map, List.getElem_mapIdx, Row.plain]
  sealed row member := by
    obtain ⟨place, within, rfl⟩ := List.mem_mapIdx.mp member
    exact holds place _ (List.getElem_mem within)

theorem StandFor.overwrite {table : Table} (stand : StandFor held table.rows roster)
    {sealing : Sealing} (holds : held sealing) (position : Nat) :
    StandFor held (table.overwrite position sealing.text).rows roster :=
  stand.reseal fun place row member => by
    split
    · exact ⟨sealing, holds, rfl⟩
    · exact stand.sealed row member

theorem StandFor.rearrange {table : Table} (stand : StandFor held table.rows roster)
    (source : Nat → Nat) : StandFor held (table.rearrange source).rows roster :=
  stand.reseal fun position row member => by
    cases found : table.rows[source position]? with
    | none => exact stand.sealed row member
    | some other => exact stand.sealed other (List.mem_of_getElem? found)

end Table

section Opening

variable {cipher : EmailCipher} {made : List Sealing} {all : List Participant} {row : Row}
  {sealing : Sealing} {participant : Participant}

structure Sealing.Fits (cipher : EmailCipher) (made : List Sealing) (all : List Participant)
    (sealing : Sealing) : Prop where
  member : sealing ∈ made
  agrees : sealing.Agrees cipher all

theorem Row.opened_own (text : row.sealedEmail = sealing.text)
    (own : sealing.IsFor cipher row.address) :
    row.opened cipher =
      .ok ⟨row.address, sealing.email, row.uuid, row.activatedAt, row.sponsor⟩ := by
  rw [Row.opened, text, EmailCipher.opened_own own]
  rfl

theorem Row.opened_foreign (ideal : cipher.IsIdeal made (all.map Participant.address))
    (known : row.address ∈ all.map Participant.address) (member : sealing ∈ made)
    (text : row.sealedEmail = sealing.text) (foreign : ¬sealing.IsFor cipher row.address) :
    row.opened cipher = .error .unopened := by
  rw [Row.opened, text, ideal.opened_foreign member known foreign]
  rfl

theorem Row.own_of_opened (ideal : cipher.IsIdeal made (all.map Participant.address))
    (known : row.address ∈ all.map Participant.address) (member : sealing ∈ made)
    (text : row.sealedEmail = sealing.text) (opened : row.opened cipher = .ok participant) :
    sealing.IsFor cipher participant.address ∧ participant.email = sealing.email ∧
      row.plain = participant.plain := by
  by_cases own : sealing.IsFor cipher row.address
  · rw [Row.opened_own text own, Except.ok.injEq] at opened
    subst opened
    exact ⟨own, rfl, rfl⟩
  · rw [Row.opened_foreign ideal known member text own] at opened
    cases opened

theorem Participant.ext_plain {first second : Participant} (plain : first.plain = second.plain)
    (email : first.email = second.email) : first = second := by
  cases first
  cases second
  simp_all [Participant.plain]

theorem Table.StandFor.eq_of_openRows {rows : List Row} {roster participants : List Participant}
    (stand : Table.StandFor (Sealing.Fits cipher made all) rows roster)
    (ideal : cipher.IsIdeal made (all.map Participant.address)) (known : roster ⊆ all)
    (opened : Table.openRows cipher rows = .ok participants) : participants = roster := by
  rw [Table.openRows_ok_iff] at opened
  obtain ⟨plain, sealed⟩ := stand
  induction rows generalizing roster participants with
  | nil =>
    obtain rfl : participants = [] := by simpa using opened.symm
    obtain rfl : roster = [] := by simpa using plain.symm
    rfl
  | cons row rows ih =>
    cases roster with
    | nil => cases plain
    | cons owner roster =>
      cases participants with
      | nil => cases opened
      | cons found participants =>
        obtain ⟨same, others⟩ := List.cons_eq_cons.mp plain
        obtain ⟨head, tail⟩ := List.cons_eq_cons.mp opened
        obtain ⟨listed, known⟩ := List.cons_subset.mp known
        have address : row.address = owner.address := congrArg Prod.fst same
        obtain ⟨sealing, fits, text⟩ := sealed row List.mem_cons_self
        obtain ⟨own, email, clear⟩ := Row.own_of_opened ideal
          (address ▸ List.mem_map_of_mem listed) fits.member text head
        have plain := clear.symm.trans same
        have named : found.address = owner.address := congrArg Prod.fst plain
        rw [named] at own
        rw [ih known tail others fun row member => sealed row (List.mem_cons_of_mem _ member),
          Participant.ext_plain plain (email.trans (fits.agrees owner listed own))]

end Opening

namespace Store

inductive Incident
  | asked (operation : Operation)
  -- Every email is taken from the row at some position.
  | rearranged (source : Nat → Nat)
  -- The email of the row at a position is overwritten with what was sealed some time.
  | overwritten (position : Nat) (sealing : Sealing)

def Incident.sealing? (cipher : EmailCipher) : Incident → Option Sealing
  | asked (.persist nonce participant) =>
    some ⟨cipher, nonce, participant.address, participant.email⟩
  | asked _ | rearranged _ => none
  | overwritten _ sealing => some sealing

def sealings (cipher : EmailCipher) (incidents : List Incident) : List Sealing :=
  incidents.filterMap (Incident.sealing? cipher)

def befall (store : Store) : Incident → Store
  | .asked operation => (store.answer operation).2
  | .rearranged source => { store with table := store.table.map (Table.rearrange · source) }
  | .overwritten position sealing =>
    { store with table := store.table.map (Table.overwrite · position sealing.text) }

def enlist (roster : List Participant) : Incident → List Participant
  | .asked operation => (Roster.answer roster operation).2
  | .rearranged _ | .overwritten _ _ => roster

def enlisted (incidents : List Incident) : List Participant := incidents.foldl enlist []

structure StandsFor (store : Store) (cipher : EmailCipher) (held : Sealing → Prop)
    (roster : List Participant) : Prop where
  keyed : store.cipher = cipher
  held : ∃ table, store.Serves table ∧ Table.StandFor held table.rows roster

variable {store : Store} {cipher : EmailCipher} {held : Sealing → Prop}
  {roster : List Participant}

theorem StandsFor.persist (stands : store.StandsFor cipher held roster) {nonce : Nonce}
    {participant : Participant}
    (holds : participant.address ∉ roster.map Participant.address →
      held ⟨cipher, nonce, participant.address, participant.email⟩) :
    (store.persist nonce.bytes participant).2.StandsFor cipher held
      (Roster.persist roster participant).2 := by
  obtain ⟨rfl, table, serves, stand⟩ := stands
  have known : table.contains participant.address =
      decide (participant.address ∈ roster.map Participant.address) := by
    rw [Bool.eq_iff_iff, table.contains_iff, stand.addresses, decide_eq_true_iff]
  unfold Roster.persist
  split
  next taken =>
    rw [decide_eq_true taken] at known
    simp only [Store.persist, serves.reach, bind, Except.bind, Table.insert, known, if_true]
    exact ⟨rfl, table, serves, stand⟩
  next free =>
    rw [decide_eq_false free] at known
    simp only [Store.persist, serves.reach, bind, Except.bind, Table.insert, known]
    refine ⟨rfl, _, ⟨serves.online, serves.failing, serves.hidden, rfl⟩, stand.append ⟨rfl, ?_⟩⟩
    intro row member
    obtain rfl := List.mem_singleton.mp member
    exact ⟨_, holds free, rfl⟩

theorem StandsFor.befall (stands : store.StandsFor cipher held roster) {incident : Incident}
    (stored : ∀ nonce participant, incident = .asked (.persist nonce participant) →
      participant.address ∉ roster.map Participant.address →
        held ⟨cipher, nonce, participant.address, participant.email⟩)
    (overwritten : ∀ position sealing, incident = .overwritten position sealing → held sealing) :
    (store.befall incident).StandsFor cipher held (enlist roster incident) := by
  cases incident with
  | rearranged source =>
    obtain ⟨keyed, table, serves, stand⟩ := stands
    refine ⟨keyed, table.rearrange source, ?_, stand.rearrange source⟩
    exact ⟨serves.online, serves.failing, serves.hidden, by simp [Store.befall, serves.stored]⟩
  | overwritten position sealing =>
    obtain ⟨keyed, table, serves, stand⟩ := stands
    refine ⟨keyed, table.overwrite position sealing.text, ?_,
      stand.overwrite (overwritten position sealing rfl) position⟩
    exact ⟨serves.online, serves.failing, serves.hidden, by simp [Store.befall, serves.stored]⟩
  | asked operation =>
    cases operation with
    | persist nonce participant => exact stands.persist (stored nonce participant rfl)
    | list offset limit => exact stands
    | exist address =>
      obtain ⟨keyed, table, serves, stand⟩ := stands
      rw [Store.befall, Store.answer, serves.lookUp]
      exact ⟨keyed, table, serves.looked _, stand⟩
    | waste ids =>
      obtain ⟨keyed, table, serves, stand⟩ := stands
      refine ⟨keyed, table.waste ids, ?_, stand⟩
      exact ⟨serves.online, serves.failing, serves.hidden,
        by simp [Store.befall, Store.answer, serves.stored]⟩

theorem subset_enlist (roster : List Participant) (incident : Incident) :
    roster ⊆ enlist roster incident := by
  cases incident with
  | rearranged | overwritten => exact List.Subset.refl _
  | asked operation =>
    cases operation with
    | list | exist | waste => exact List.Subset.refl _
    | persist nonce participant =>
      simp only [enlist, Roster.answer, Roster.persist]
      split
      · exact List.Subset.refl _
      · exact List.subset_append_left _ _

theorem subset_enlist_all (roster : List Participant) (incidents : List Incident) :
    roster ⊆ incidents.foldl enlist roster := by
  induction incidents generalizing roster with
  | nil => exact List.Subset.refl _
  | cons incident incidents ih => exact List.Subset.trans (subset_enlist roster incident) (ih _)

theorem nodup_enlist (distinct : (roster.map Participant.address).Nodup) (incident : Incident) :
    ((enlist roster incident).map Participant.address).Nodup := by
  cases incident with
  | rearranged | overwritten => exact distinct
  | asked operation =>
    cases operation with
    | list | exist | waste => exact distinct
    | persist nonce participant =>
      simp only [enlist, Roster.answer, Roster.persist]
      split
      next => exact distinct
      next free =>
        rw [List.map_append, List.nodup_append]
        refine ⟨distinct, List.pairwise_singleton _ _, ?_⟩
        rintro address before _ latest rfl
        obtain rfl := List.mem_singleton.mp latest
        exact free before

theorem nodup_enlisted (incidents : List Incident) :
    ((enlisted incidents).map Participant.address).Nodup := by
  suffices all : ∀ roster : List Participant, (roster.map Participant.address).Nodup →
      ((incidents.foldl enlist roster).map Participant.address).Nodup from all [] .nil
  induction incidents with
  | nil => exact fun roster distinct => distinct
  | cons incident incidents ih => exact fun roster distinct => ih _ (nodup_enlist distinct incident)

variable {made : List Sealing} {all : List Participant}

theorem StandsFor.run (stands : store.StandsFor cipher (Sealing.Fits cipher made all) roster)
    {incidents : List Incident} (members : sealings cipher incidents ⊆ made)
    (reached : incidents.foldl enlist roster ⊆ all)
    (distinct : (all.map Participant.address).Nodup)
    (honest : ∀ position sealing, .overwritten position sealing ∈ incidents →
      sealing.Agrees cipher all) :
    (incidents.foldl Store.befall store).StandsFor cipher (Sealing.Fits cipher made all)
      (incidents.foldl enlist roster) := by
  induction incidents generalizing store roster with
  | nil => exact stands
  | cons incident incidents ih =>
    have first : ∀ sealing, incident.sealing? cipher = some sealing → sealing ∈ made := by
      intro sealing made
      exact members (List.mem_filterMap.mpr ⟨incident, List.mem_cons_self, made⟩)
    have others : sealings cipher incidents ⊆ made := by
      intro sealing member
      obtain ⟨later, among, made⟩ := List.mem_filterMap.mp member
      exact members (List.mem_filterMap.mpr ⟨later, List.mem_cons_of_mem _ among, made⟩)
    refine ih (stands.befall ?stored ?overwritten) others reached fun position sealing member =>
      honest position sealing (List.mem_cons_of_mem _ member)
    case overwritten =>
      rintro position sealing rfl
      exact ⟨first sealing rfl, honest position sealing List.mem_cons_self⟩
    case stored =>
      rintro nonce participant rfl free
      refine ⟨first _ rfl, fun other listed own => ?_⟩
      -- It is enlisted now and in the end, and nobody else at its address.
      have kept : { participant with activatedAt := participant.activatedAt.toMicros } ∈ all := by
        refine reached (subset_enlist_all _ incidents ?_)
        simp [enlist, Roster.answer, Roster.persist, free]
      have same := List.inj_on_of_nodup_map distinct kept listed own.2
      rw [← same]

theorem reach_cases {table : Table} (stored : store.table = some table) (statement : Statement) :
    store.reach statement = .ok table ∨
      ∃ cause, store.reach statement = .error (.backend cause) := by
  unfold reach
  split
  · exact .inr ⟨_, rfl⟩
  split
  · exact .inr ⟨_, rfl⟩
  · exact .inl (by rw [stored])

theorem list_cases {table : Table} (stored : store.table = some table) (offset limit : Option Nat) :
    (∃ cause, store.list offset limit = .error (.backend cause)) ∨
      ∃ calm : Store, calm.cipher = store.cipher ∧ calm.Serves table ∧
        store.list offset limit = calm.list offset limit := by
  let calm : Store := { cipher := store.cipher, table := store.table }
  have serves : calm.Serves table := ⟨rfl, rfl, rfl, stored⟩
  have listed : calm.list offset limit = (Page.bounds table.rows.length offset limit).bind
      fun page => Table.openRows store.cipher (page.cut table.rows) := by
    simp [calm, list, serves.findPage, serves.loadPage, bind]
  rcases reach_cases stored .count with counted | ⟨cause, failed⟩
  case inr => exact .inl ⟨cause, by simp [list, findPage, failed, bind, Except.bind]⟩
  have found : store.findPage offset limit = Page.bounds table.rows.length offset limit := by
    simp [findPage, counted, bind, Except.bind]
  rcases reach_cases stored .load with loaded | ⟨cause, failed⟩
  case inl =>
    refine .inr ⟨calm, rfl, serves, ?_⟩
    rw [listed, list, found]
    simp [loadPage, loaded, bind, Except.bind]
  case inr =>
    cases bounds : Page.bounds table.rows.length offset limit with
    | ok page =>
      refine .inl ⟨cause, ?_⟩
      simp [list, found, bounds, loadPage, failed, bind, Except.bind]
    | error fault =>
      refine .inr ⟨calm, rfl, serves, ?_⟩
      rw [listed, list, found, bounds]
      rfl

def page (store : Store) (offset limit : Option Nat) : List Row :=
  (store.rows.drop (offset.getD 0)).take (limit.getD store.rows.length)

variable {table : Table} {offset limit : Option Nat}

theorem page_eq (stored : store.table = some table) : store.page offset limit =
    (table.rows.drop (offset.getD 0)).take (limit.getD table.rows.length) := by
  simp [page, rows, stored]

theorem Serves.list_page (serves : store.Serves table) (shown : store.page offset limit ≠ []) :
    store.list offset limit = Table.openRows store.cipher (store.page offset limit) := by
  rw [page_eq serves.stored] at shown ⊢
  rcases serves.list_cases offset limit with ⟨past | empty, -⟩ | ⟨-, -, listed⟩
  · exact absurd (by rw [List.drop_eq_nil_of_le (by omega), List.take_nil]) shown
  · exact absurd (by rw [empty]; rfl) shown
  · exact listed

section Kept

variable (ideal : store.cipher.IsIdeal made (all.map Participant.address))
  (stand : Table.StandFor (Sealing.Fits store.cipher made all) table.rows all)
  (serves : store.Serves table)

include ideal stand serves

theorem list_eq_of_ok {participants : List Participant}
    (listed : store.list offset limit = .ok participants) :
    Roster.list all offset limit = .ok participants := by
  have size : table.rows.length = all.length := by simpa using congrArg List.length stand.plain
  rcases serves.list_cases offset limit with ⟨-, refused⟩ | ⟨within, several, opened⟩
  · cases listed.symm.trans refused
  · have page := stand.page (offset.getD 0) (limit.getD table.rows.length)
    have same := page.eq_of_openRows ideal
      (List.Subset.trans (List.take_subset _ _) (List.drop_subset _ _)) (opened.symm.trans listed)
    rw [Roster.list, if_neg (by simp [several]; omega), same, size]

theorem sealed_of_list {participants : List Participant} {participant : Participant}
    (listed : store.list offset limit = .ok participants) (member : participant ∈ participants) :
    ∃ sealing ∈ made, sealing.IsFor store.cipher participant.address ∧
      participant.email = sealing.email := by
  rcases serves.list_cases offset limit with ⟨-, refused⟩ | ⟨-, -, opened⟩
  · cases listed.symm.trans refused
  · have rows := (Table.openRows_ok_iff _ _).mp (opened.symm.trans listed)
    have among : (.ok participant : Except EmailCipher.Fault Participant) ∈ participants.map .ok :=
      List.mem_map_of_mem member
    rw [← rows] at among
    obtain ⟨row, paged, opens⟩ := List.mem_map.mp among
    have held := List.mem_of_mem_drop (List.mem_of_mem_take paged)
    obtain ⟨sealing, fits, text⟩ := stand.sealed row held
    have known : row.address ∈ all.map Participant.address := by
      rw [← stand.addresses]
      exact List.mem_map_of_mem held
    obtain ⟨own, email, -⟩ := Row.own_of_opened ideal known fits.member text opens
    exact ⟨sealing, fits.member, own, email⟩

theorem list_of_foreign {row : Row} (member : row ∈ store.page offset limit) {sealing : Sealing}
    (among : sealing ∈ made) (text : row.sealedEmail = sealing.text)
    (foreign : ¬sealing.IsFor store.cipher row.address) :
    store.list offset limit = .error Table.unopened := by
  have known : row.address ∈ all.map Participant.address := by
    rw [page_eq serves.stored] at member
    rw [← stand.addresses]
    exact List.mem_map_of_mem (List.mem_of_mem_drop (List.mem_of_mem_take member))
  rw [serves.list_page (List.ne_nil_of_mem member), Table.openRows_error_iff]
  exact ⟨row, member, Row.opened_foreign ideal known among text foreign⟩

theorem list_of_own (own : ∀ row ∈ store.page offset limit, ∃ sealing ∈ made,
      row.sealedEmail = sealing.text ∧ sealing.IsFor store.cipher row.address) :
    store.list offset limit = Roster.list all offset limit := by
  have size : table.rows.length = all.length := by simpa using congrArg List.length stand.plain
  rcases serves.list_cases offset limit with ⟨outside, refused⟩ | ⟨-, -, opened⟩
  · rw [refused, Roster.list, ← size, if_pos outside]
  · rw [← page_eq serves.stored] at opened
    rcases Table.openRows_cases store.cipher (store.page offset limit) with
      ⟨participants, listed⟩ | shut
    · rw [opened, listed, list_eq_of_ok ideal stand serves (opened.trans listed)]
    · obtain ⟨row, member, unopened⟩ := (Table.openRows_error_iff _).mp shut
      obtain ⟨sealing, -, text, own⟩ := own row member
      cases (Row.opened_own text own).symm.trans unopened

end Kept

theorem emails_bound_to_rows (cipher : EmailCipher) (incidents : List Incident)
    (ideal : cipher.IsIdeal (sealings cipher incidents)
      ((enlisted incidents).map Participant.address))
    (honest : ∀ position sealing, .overwritten position sealing ∈ incidents →
      sealing.Agrees cipher (enlisted incidents))
    (store : Store) (keyed : store.cipher = cipher)
    (stored : store.table = (incidents.foldl befall { cipher }).table) (offset limit : Option Nat) :
    (∀ participants, store.list offset limit = .ok participants →
        Roster.list (enlisted incidents) offset limit = .ok participants ∧
        ∀ participant ∈ participants, ∃ sealing ∈ sealings cipher incidents,
          sealing.IsFor cipher participant.address ∧ participant.email = sealing.email) ∧
      (∀ row ∈ store.page offset limit, ∀ sealing ∈ sealings cipher incidents,
        row.sealedEmail = sealing.text → ¬sealing.IsFor cipher row.address →
          ∃ cause, store.list offset limit = .error (.backend cause)) ∧
      (∀ table, store.Serves table →
        (∀ row ∈ store.page offset limit, ∃ sealing ∈ sealings cipher incidents,
          row.sealedEmail = sealing.text ∧ sealing.IsFor cipher row.address) →
        store.list offset limit = Roster.list (enlisted incidents) offset limit) := by
  have new : Store.StandsFor { cipher } cipher
      (Sealing.Fits cipher (sealings cipher incidents) (enlisted incidents)) [] :=
    ⟨rfl, .empty, ⟨rfl, rfl, rfl, rfl⟩, rfl, by simp [Table.empty]⟩
  obtain ⟨-, table, ran, stand⟩ := new.run (List.Subset.refl _) (List.Subset.refl _)
    (nodup_enlisted incidents) honest
  rw [ran.stored] at stored
  subst keyed
  refine ⟨?opened, ?foreign, ?own⟩
  case opened =>
    intro participants listed
    rcases list_cases stored offset limit with ⟨cause, failed⟩ | ⟨calm, same, serves, calmly⟩
    · cases listed.symm.trans failed
    · rw [← same] at ideal stand ⊢
      rw [calmly] at listed
      exact ⟨list_eq_of_ok ideal stand serves listed, fun participant member =>
        sealed_of_list ideal stand serves listed member⟩
  case foreign =>
    intro row member sealing among text foreign
    rcases list_cases stored offset limit with failed | ⟨calm, same, serves, calmly⟩
    · exact failed
    · rw [calmly]
      rw [← same] at ideal stand among foreign
      have paged : row ∈ calm.page offset limit := by
        rwa [page_eq serves.stored, ← page_eq stored]
      exact ⟨_, list_of_foreign ideal stand serves paged among text foreign⟩
  case own =>
    intro other serves own
    obtain rfl : other = table := by simpa [serves.stored] using stored
    exact list_of_own ideal stand serves own

def safe : EmailCipher := ⟨List.replicate 32 1, List.length_replicate⟩

def annsEmail : Sealing := ⟨safe, ⟨List.replicate 12 1, rfl⟩, "ann", "ann@example.org"⟩

def bobsEmail : Sealing := ⟨safe, ⟨List.replicate 12 2, rfl⟩, "bob", "b@c.d"⟩

def mixup : List Incident := [.asked (.persist annsEmail.nonce ann), .overwritten 0 bobsEmail]

theorem safe_isIdeal : safe.IsIdeal [annsEmail, bobsEmail] ["ann"] := by
  have apart : Gcm.decrypt? safe.key bobsEmail.nonce.bytes (Bytes.ofString "ann")
      bobsEmail.ciphertext = none := by
    decide +kernel
  intro sealing member address known foreign
  obtain rfl := List.mem_singleton.mp known
  obtain rfl | rfl : sealing = annsEmail ∨ sealing = bobsEmail := by simpa using member
  · exact absurd rfl foreign
  · exact apart

theorem emails_bound_to_rows_mixup :
    Store.list ((mixup.take 1).foldl befall { cipher := safe }) none none = .ok [ann] ∧
      ∃ cause, Store.list (mixup.foldl befall { cipher := safe }) none none =
        .error (.backend cause) := by
  constructor
  · have ideal : safe.IsIdeal [annsEmail] ["ann"] := by
      intro sealing member
      obtain rfl := List.mem_singleton.mp member
      exact safe_isIdeal annsEmail List.mem_cons_self
    have listed := (emails_bound_to_rows safe (mixup.take 1) ideal (by simp [mixup])
      ((mixup.take 1).foldl befall { cipher := safe }) rfl rfl none none).2.2
    rw [listed _ ⟨rfl, rfl, rfl, rfl⟩]
    · rfl
    · intro row member
      obtain rfl := List.mem_singleton.mp member
      exact ⟨annsEmail, List.mem_singleton.mpr rfl, rfl, rfl, rfl⟩
  · have honest : ∀ position sealing, .overwritten position sealing ∈ mixup →
        sealing.Agrees safe (enlisted mixup) := by
      intro position sealing member participant listed other
      obtain ⟨-, rfl⟩ : position = 0 ∧ sealing = bobsEmail := by simpa [mixup] using member
      obtain rfl := List.mem_singleton.mp listed
      exact absurd other.2 (by decide)
    have listed := (emails_bound_to_rows safe mixup safe_isIdeal honest
      (mixup.foldl befall { cipher := safe }) rfl rfl none none).2.1
    refine listed _ (List.mem_singleton.mpr rfl) bobsEmail ?_ rfl fun same =>
      absurd same.2 (by decide)
    exact List.mem_cons_of_mem _ List.mem_cons_self

end Store

end Enrolment
