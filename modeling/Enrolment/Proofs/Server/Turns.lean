import Enrolment.Proofs.Server.Front
import Enrolment.Proofs.Server.Prompt

set_option autoImplicit false

namespace Enrolment

open Registrar (Activation)

def Exchange.call? (caller : Caller) (exchange : Exchange) : Option (Nat × Call) :=
  exchange.handling.activation?.map fun activation => (exchange.number, ⟨0, activation, caller⟩)

namespace Front

variable {registrar : Registrar} {accepted : Nat} {calls : List (Nat × Call)}

theorem reaches_unfinished (number : Nat) (activation : Activation) :
    Reaches ⟨registrar, (number, ⟨0, activation, .waiting⟩) :: calls, accepted⟩
      ⟨registrar, (activation.unfinished?.map fun activation =>
        (number, ⟨0, activation, .waiting⟩)).toList ++ calls, accepted⟩ := by
  cases activation with
  | finished result => exact reaches_tail fun _ => by simp [Activation.result?]
  | lookingUpAddress | lookingUpSponsor | inserting | inserted => exact .refl _

theorem reaches_taken {draw : Draw} {begun : Option Activation} {later : Registrar}
    (taken : registrar.Takes draw begun later) :
    Reaches ⟨registrar, calls, accepted⟩ ⟨later, (begun.map fun activation =>
      (accepted, ⟨0, activation, .waiting⟩)).toList ++ calls, accepted + 1⟩ := by
  cases taken with
  | nothing => exact reaches_same (.refl _) (.refl _) (Nat.le_succ _)
  | rejection => exact reaches_same ⟨rfl, rfl, rfl⟩ (.refl _) (Nat.le_succ _)
  | registration claims =>
    exact (reaches_register draw claims).trans (reaches_same (.refl _) (.refl _) (Nat.le_succ _))
  | activation token fingerprint =>
    exact (reaches_present registrar calls accepted draw.now token fingerprint).trans
      (reaches_unfinished _ _)

theorem reaches_abandoned (entries : List (Nat × Call)) :
    Reaches ⟨registrar, entries ++ calls, accepted⟩
      ⟨registrar, (entries.map fun entry => (entry.1, entry.2.abandon)) ++ calls, accepted⟩ := by
  induction entries generalizing calls with
  | nil => exact .refl _
  | cons entry entries ih =>
    obtain ⟨number, call⟩ := entry
    have left := reaches_abandon registrar number call (entries ++ calls) accepted
    have behind : Reaches ⟨registrar, (number, call.abandon) :: (entries ++ calls), accepted⟩
        ⟨registrar, entries ++ (number, call.abandon) :: calls, accepted⟩ :=
      reaches_same (.refl _) List.perm_middle.symm (Nat.le_refl _)
    exact (left.trans (behind.trans ih)).trans
      (reaches_same (.refl _) List.perm_middle (Nat.le_refl _))

theorem reaches_without (entries : List (Nat × Call)) :
    Reaches ⟨registrar, entries ++ calls, accepted⟩ ⟨registrar, calls, accepted⟩ := by
  induction entries with
  | nil => exact .refl _
  | cons entry entries ih =>
    obtain ⟨number, call⟩ := entry
    have left := reaches_abandon registrar number call (entries ++ calls) accepted
    exact (left.trans (reaches_tail fun waiting => absurd waiting call.abandon_caller)).trans ih

end Front

theorem App.advance_aside (app : App) (draw : Draw) {handling : Handling}
    (aside : handling.activation? = none) :
    (app.advance draw handling).1.activation? = none ∧ (app.advance draw handling).2 = app := by
  cases handling with
  | activating => cases aside
  | findingPage | loadingPage =>
    simp only [advance]
    split <;> exact ⟨rfl, rfl⟩
  | pinging | answered => exact ⟨rfl, rfl⟩

namespace Server

-- The calls that are held are those of requests that a server has in hand.
def front (server : Server) (held : List (Nat × Call)) : Front where
  registrar := server.app.registrar
  calls := held ++ (server.exchanges.filterMap (Exchange.call? .waiting) ++
    server.abandoned.filterMap (Exchange.call? .left))
  accepted := server.accepted

variable (server : Server) (held : List (Nat × Call))

theorem reaches_app {app : App} (same : server.app.registrar.SameRecords app.registrar) :
    (server.front held).Reaches ({ server with app }.front held) :=
  Front.reaches_same same (.refl _) (Nat.le_refl _)

theorem reaches_settle : (server.front held).Reaches (server.settle.front held) := by
  unfold settle
  dsimp only
  split
  · exact Front.reaches_same ⟨rfl, rfl, rfl⟩ (.refl _) (Nat.le_refl _)
  split
  · exact .refl _
  · exact Front.reaches_same ⟨rfl, rfl, rfl⟩ (.refl _) (Nat.le_refl _)

theorem front_append (entries : List (Nat × Call)) :
    server.front (entries ++ held) =
      { server.front held with calls := entries ++ (server.front held).calls } := by
  simp [front]

theorem reaches_complete (exchange : Exchange) (response : Response) :
    (server.front held).Reaches ((server.complete exchange response).front held) := by
  let delivered := server.app.deliver (server.draw exchange.entropy) exchange.request response
  have same : server.app.registrar.SameRecords delivered.2.registrar := by
    obtain ⟨tally, counted⟩ := server.app.registrar_deliver (server.draw exchange.entropy)
      exchange.request response
    rw [counted]
    exact ⟨rfl, rfl, rfl⟩
  exact (server.reaches_app held same).trans
    (reaches_settle (reply { server with app := delivered.2 } _ _) held)

theorem reaches_step (exchange : Exchange) :
    (server.front ((exchange.call? .waiting).toList ++ held)).Reaches
      ((server.step exchange).2.front
        (((server.step exchange).1.call? .waiting).toList ++ held)) := by
  let draw := server.draw exchange.entropy
  have call : (server.step exchange).1.call? .waiting =
      (server.app.advance draw exchange.handling).1.activation?.map fun activation =>
        (exchange.number, ⟨0, activation, .waiting⟩) := rfl
  have front : (server.step exchange).2.front held =
      { server.front held with
        registrar := (server.app.advance draw exchange.handling).2.registrar } := rfl
  rw [front_append, front_append, call, front, Exchange.call?]
  cases aside : exchange.handling.activation? with
  | none =>
    obtain ⟨next, same⟩ := server.app.advance_aside draw aside
    rw [next, same]
    exact .refl _
  | some activation =>
    have activating : exchange.handling = .activating activation := by
      generalize exchange.handling = handling at aside
      cases handling <;> cases aside
      rfl
    rw [activating, App.advance, App.activation?_ofActivation]
    exact (Front.reaches_advance draw server.app.registrar exchange.number
      ⟨0, activation, .waiting⟩ _ _).trans (Front.reaches_unfinished exchange.number _)

theorem filterMap_cons_toList {α β : Type} (choose : α → Option β) (first : α) (rest : List α) :
    (first :: rest).filterMap choose = (choose first).toList ++ rest.filterMap choose := by
  cases chosen : choose first <;> simp [chosen]

theorem perm_partition {α β : Type} (choose : α → Option β) (holds : α → Bool) (all : List α) :
    (all.filterMap choose).Perm
      ((all.partition holds).1.filterMap choose ++ (all.partition holds).2.filterMap choose) := by
  rw [List.partition_eq_filter_filter, ← List.filterMap_append]
  exact (List.filter_append_perm holds all).symm.filterMap choose

variable {held} in
theorem perm_take {all taken rest : List (Nat × Call)} (parts : all.Perm (taken ++ rest)) :
    (held ++ all).Perm ((taken ++ held) ++ rest) := by
  refine (parts.append_left held).trans ?_
  rw [← List.append_assoc]
  exact List.perm_append_comm.append_right rest

theorem reaches_wait (exchange : Exchange) :
    (server.front ((exchange.call? .waiting).toList ++ held)).Reaches
      ({ server with exchanges := server.exchanges ++ [exchange] }.front held) := by
  refine Front.reaches_same (.refl _) (perm_take ?_).symm (Nat.le_refl _)
  simp only [List.filterMap_append, filterMap_cons_toList, List.filterMap_nil, List.append_nil]
  rw [← List.append_assoc]
  exact List.perm_append_comm.append_right _

theorem reaches_proceed (steps : Nat) (exchange : Exchange) :
    (server.front ((exchange.call? .waiting).toList ++ held)).Reaches
      ((proceed steps server exchange).front held) := by
  -- The exchange is in hand until it is answered or waits, and only then is it among the others.
  induction steps generalizing server exchange with
  | zero => exact server.reaches_wait held exchange
  | succ steps ih =>
    have stepped := (server.reaches_step held exchange).trans
      (ih (server.step exchange).2 (server.step exchange).1)
    rw [proceed]
    split
    next response answered =>
      rw [Exchange.call?, answered]
      exact server.reaches_complete held exchange response
    · exact stepped
    · split
      · exact stepped
      · exact server.reaches_wait held exchange

theorem reaches_receive (entropy : Bytes) (request : Request) :
    (server.front held).Reaches ((server.receive entropy request).2.front held) := by
  have counted : (server.front held).Reaches
      ({ server with accepted := server.accepted + 1 }.front held) :=
    Front.reaches_same (.refl _) (.refl _) (Nat.le_succ _)
  simp only [receive]
  split
  · exact counted
  split
  · exact counted
  · have taken := server.app.receive_takes (server.draw entropy) (trimmedHeaders request)
      (server.clock * 1000000)
    simp only [draw] at taken ⊢
    generalize server.app.receive ⟨server.epoch.addMillis server.clock, entropy⟩
      (server.clock * 1000000) (trimmedHeaders request) = received at taken ⊢
    obtain ⟨handling, app⟩ := received
    have front : (server.front held).Reaches ⟨app.registrar, _, server.accepted + 1⟩ :=
      Front.reaches_taken taken
    have proceeded := reaches_proceed { server with accepted := server.accepted + 1, app } held
      stepLimit ⟨server.accepted, trimmedHeaders request, entropy, handling,
        server.clock + server.slowness, server.clock + server.settings.server.timeout⟩
    rw [front_append] at proceeded
    exact front.trans proceeded

theorem reaches_answered (due : List Exchange) :
    (server.front (due.filterMap (Exchange.call? .waiting) ++ held)).Reaches
      ((due.foldl (proceed stepLimit) server).front held) := by
  induction due generalizing server with
  | nil => exact .refl _
  | cons exchange due ih =>
    rw [filterMap_cons_toList, List.append_assoc]
    exact (server.reaches_proceed _ stepLimit exchange).trans (ih _)

-- Some of the exchanges are taken into hand.
theorem reaches_part (holds : Exchange → Bool) :
    (server.front held).Reaches ({ server with exchanges := (server.exchanges.partition holds).2 }.front
      ((server.exchanges.partition holds).1.filterMap (Exchange.call? .waiting) ++ held)) := by
  refine Front.reaches_same (.refl _) (perm_take ?_) (Nat.le_refl _)
  rw [← List.append_assoc]
  exact (perm_partition _ _ _).append_right _

theorem reaches_answerStatements :
    (server.front held).Reaches (server.answerStatements.front held) :=
  (server.reaches_part held _).trans (reaches_answered _ held _)

theorem front_replies (response : Option Response) (exchanges : List Exchange) :
    (exchanges.foldl (fun server exchange => server.reply exchange.number response) server).front
      held = server.front held := by
  induction exchanges generalizing server with
  | nil => rfl
  | cons exchange exchanges ih => exact ih (server.reply exchange.number response)

theorem filterMap_left (exchanges : List Exchange) :
    exchanges.filterMap (Exchange.call? .left) =
      (exchanges.filterMap (Exchange.call? .waiting)).map fun entry =>
        (entry.1, entry.2.abandon) := by
  rw [List.map_filterMap]
  refine List.filterMap_congr fun exchange _ => ?_
  unfold Exchange.call?
  cases exchange.handling.activation? <;> rfl

theorem reaches_abandoned (exchanges : List Exchange) :
    (server.front (exchanges.filterMap (Exchange.call? .waiting) ++ held)).Reaches
      ({ server with abandoned := server.abandoned ++ exchanges }.front held) := by
  rw [front_append]
  refine (Front.reaches_abandoned _).trans (Front.reaches_same (.refl _) ?_ (Nat.le_refl _))
  rw [← filterMap_left]
  simp only [front, List.filterMap_append]
  refine List.perm_append_comm.trans ?_
  simp only [List.append_assoc]
  exact .refl _

theorem reaches_giveUp : (server.front held).Reaches (server.giveUp.front held) := by
  simp only [giveUp, front_replies]
  exact (server.reaches_part held _).trans
    (reaches_abandoned { server with exchanges := _ } held _)

theorem reaches_cut : (server.front held).Reaches (server.cut.front held) := by
  rw [cut, front_replies]
  have first : (server.front held).Reaches
      ⟨server.app.registrar, server.exchanges.filterMap (Exchange.call? .waiting) ++
        ({ server with exchanges := [] }.front held).calls, server.accepted⟩ := by
    refine Front.reaches_same (.refl _) ((perm_take (.refl _)).trans ?_) (Nat.le_refl _)
    rw [List.append_assoc]
    exact .refl _
  exact first.trans (Front.reaches_without _)

theorem reaches_finishStatement (exchange : Exchange) :
    (server.front ((exchange.call? .left).toList ++ held)).Reaches
      ((server.finishStatement exchange).front held) := by
  unfold finishStatement Exchange.call?
  split
  next activation activating =>
    rw [activating, front_append]
    exact (Front.reaches_advance (server.draw exchange.entropy) _ _ ⟨0, activation, .left⟩ _ _).trans
      (Front.reaches_tail fun waiting => nomatch waiting)
  next aside =>
    cases handling : exchange.handling with
    | activating activation => exact absurd handling (aside activation)
    | findingPage | loadingPage | pinging | answered => exact .refl _

theorem reaches_finished (due : List Exchange) :
    (server.front (due.filterMap (Exchange.call? .left) ++ held)).Reaches
      ((due.foldl finishStatement server).front held) := by
  induction due generalizing server with
  | nil => exact .refl _
  | cons exchange due ih =>
    rw [filterMap_cons_toList, List.append_assoc]
    exact (server.reaches_finishStatement _ exchange).trans (ih _)

theorem reaches_finishStatements :
    (server.front held).Reaches (server.finishStatements.front held) := by
  let isDue (exchange : Exchange) : Bool := exchange.due ≤ server.clock
  let parts := server.abandoned.partition isDue
  have taken : (server.front held).Reaches ({ server with abandoned := parts.2 }.front
      (parts.1.filterMap (Exchange.call? .left) ++ held)) := by
    refine Front.reaches_same (.refl _) (perm_take ?_) (Nat.le_refl _)
    refine ((perm_partition _ isDue _).append_left _).trans ?_
    rw [← List.append_assoc, ← List.append_assoc]
    exact List.perm_append_comm.append_right _
  exact taken.trans (reaches_finished _ held parts.1)

theorem reaches_sweep : (server.front held).Reaches (server.sweep.front held) := by
  simp only [sweep]
  split <;> exact .refl _

theorem reaches_stop : (server.front held).Reaches (server.stop.front held) := by
  unfold stop
  split <;> exact .refl _

theorem reaches_lookAfter (watch : Watch) :
    (server.front held).Reaches ((server.lookAfter watch).front held) := by
  unfold lookAfter
  split
  · split
    · exact .refl _
    · dsimp only
      split
      · exact .refl _
      · exact reaches_stop { server with watch := some { watch with underWay := none } } held
  · split
    · exact server.reaches_receive held [] _
    · exact .refl _

theorem reaches_cutLate (since : Nat) :
    (server.front held).Reaches ((server.cutLate since).front held) := by
  unfold cutLate
  split
  · exact server.reaches_cut held
  · exact .refl _

theorem reaches_windDown : (server.front held).Reaches (server.windDown.front held) := by
  unfold windDown
  split
  next since drain stopping =>
    refine (server.reaches_cutLate held since).trans ?_
    dsimp only
    split <;> exact Front.reaches_same ⟨rfl, rfl, rfl⟩ (.refl _) (Nat.le_refl _)
  · exact .refl _

theorem reaches_happen : (server.front held).Reaches (server.happen.front held) := by
  have worked : (server.front held).Reaches
      (server.settle.answerStatements.giveUp.finishStatements.sweep.front held) :=
    ((((server.reaches_settle held).trans (reaches_answerStatements _ held)).trans
      (reaches_giveUp _ held)).trans (reaches_finishStatements _ held)).trans (reaches_sweep _ held)
  unfold happen
  refine worked.trans (Front.Reaches.trans ?_ (reaches_windDown _ held))
  split
  · exact reaches_lookAfter _ held _
  · exact .refl _

theorem reaches_setStore (failing : List Statement) (hidden : List String) (slowness : Nat) :
    (server.front held).Reaches ((server.setStore failing hidden slowness).front held) :=
  Front.reaches_disturb server.app.registrar _ server.accepted failing hidden

theorem reaches_setMail (mailReply : MailReply) (isHeld : Bool) :
    (server.front held).Reaches ((server.setMail mailReply isHeld).front held) := by
  refine Front.Reaches.trans ?_ (reaches_settle _ held)
  exact Front.reaches_same ⟨rfl, rfl, rfl⟩ (.refl _) (Nat.le_refl _)

inductive Turn
  | receive (entropy : Bytes) (request : Request)
  | elapse (clock : Nat)
  | happen
  | stop
  | force
  | setStore (failing : List Statement) (hidden : List String) (slowness : Nat)
  | setMail (mailReply : MailReply) (held : Bool)

def turn (server : Server) : Turn → Server
  | .receive entropy request => (server.receive entropy request).2
  | .elapse clock => { server with clock := max server.clock clock }
  | .happen => server.happen
  | .stop => server.stop
  | .force => server.force
  | .setStore failing hidden slowness => server.setStore failing hidden slowness
  | .setMail mailReply held => server.setMail mailReply held

def run (server : Server) (turns : List Turn) : Server := turns.foldl turn server

theorem run_cons (turn : Turn) (turns : List Turn) :
    server.run (turn :: turns) = (server.turn turn).run turns := rfl

theorem reaches_turn (turn : Turn) : (server.front held).Reaches ((server.turn turn).front held) := by
  cases turn with
  | receive entropy request => exact server.reaches_receive held entropy request
  | elapse => exact .refl _
  | happen => exact server.reaches_happen held
  | stop => exact server.reaches_stop held
  | force => exact server.reaches_stop held
  | setStore failing hidden slowness => exact server.reaches_setStore held failing hidden slowness
  | setMail mailReply isHeld => exact server.reaches_setMail held mailReply isHeld

theorem reaches_run (turns : List Turn) :
    (server.front held).Reaches ((server.run turns).front held) := by
  induction turns generalizing server with
  | nil => exact .refl _
  | cons turn turns ih => exact (server.reaches_turn held turn).trans (ih (server.turn turn))

theorem runUntil_eq_run (holds : Server → Bool) (limit : Option Nat) (steps : Nat) :
    ∃ turns, runUntil holds limit steps server = server.run turns := by
  induction steps generalizing server with
  | zero => exact ⟨[], rfl⟩
  | succ steps ih =>
    simp only [runUntil]
    split
    · exact ⟨[], rfl⟩
    cases server.nextTime? with
    | none =>
      cases limit with
      | none => exact ⟨[], rfl⟩
      | some limit => exact ⟨[.elapse limit], rfl⟩
    | some time =>
      dsimp only
      split
      · exact ⟨[.elapse (limit.getD 0)], rfl⟩
      · obtain ⟨turns, ran⟩ := ih (happen { server with clock := max server.clock time })
        refine ⟨.elapse time :: .happen :: turns, ?_⟩
        rw [run_cons, run_cons]
        exact ran

def IsIdle (server : Server) : Prop := server.exchanges = [] ∧ server.abandoned = []

def office (server : Server) : Office :=
  .opened server.app.registrar.store fun _ => server.app.registrar

variable {server}

theorem run_stands (idle : server.IsIdle) (turns : List Turn) :
    ∃ events place, ((server.run turns).front []).Stands (server.office.run events) place := by
  have opened : (server.front []).Stands server.office id := by
    have calls : (server.front []).calls = [] := by simp [front, idle.1, idle.2]
    have stands := Front.stands_opened server.app.registrar server.accepted
    rw [← calls] at stands
    exact stands
  exact server.reaches_run [] turns server.office id opened

-- Without requests under way there are no calls that wait.
theorem isIdle_of_stands {office : Office} {place : Nat → Nat}
    (stands : (server.front []).Stands office place) (answered : server.exchanges = []) :
    office.IsIdle := by
  intro call member
  by_cases waiting : call.caller = .waiting
  · cases returned : call.activation.result? with
    | some result => exact .inr rfl
    | none =>
      obtain ⟨position, within, present⟩ := List.getElem_of_mem member
      obtain ⟨number, entry, -⟩ := stands.known position call
        (List.getElem?_eq_some_iff.mpr ⟨within, present⟩) waiting returned
      simp only [front, answered, List.filterMap_nil, List.nil_append, List.mem_filterMap,
        Exchange.call?, Option.map_eq_some_iff] at entry
      obtain ⟨exchange, -, activation, -, left⟩ := entry
      obtain ⟨-, rfl⟩ := Prod.mk.inj left
      cases waiting
  · exact .inl waiting

theorem index_of_run (idle : server.IsIdle) (warmed : server.app.registrar.IsWarmed)
    (turns : List Turn) :
    let registrar := (server.run turns).app.registrar
    (∀ address, registrar.isPresent address = true → address ∈ registrar.store.addresses) ∧
      ∃ events, registrar.store = (server.office.run events).store ∧
        ((server.run turns).exchanges = [] → ∀ address ∈ registrar.store.addresses,
          registrar.isPresent address = true ∨ ∃ number participant,
            participant.address = address ∧
              server.office.IsCutOff events number participant) := by
  intro registrar
  obtain ⟨events, place, stands⟩ := run_stands idle turns
  have store : (server.office.run events).store = registrar.store := stands.same.store
  have index (address : String) : registrar.isPresent address =
      ((server.office.run events).desk 0).isPresent address := by
    rw [Registrar.isPresent, Registrar.isPresent, stands.same.presence]
    rfl
  have remembers : (server.office.run events).Remembers server.app.registrar.store.addresses 0 :=
    Office.remembers_run server.app.registrar.store (fun _ => server.app.registrar) events warmed
  have accounted : (server.office.run events).Accounted server.app.registrar.store.rows
      (server.office.journal events) := Office.accounted_run _ _ events
  refine ⟨?_, events, store.symm, ?_⟩
  · intro address present
    rw [index] at present
    rw [← store]
    exact remembers.stored accounted present
  · intro answered address stored
    rw [← store, accounted.addresses, List.mem_append] at stored
    rw [index]
    rcases stored with seeded | written
    · exact .inl ((remembers address).mpr (.inl seeded))
    · obtain ⟨entry, member, rfl⟩ := List.mem_map.mp written
      obtain ⟨nonce, id, participant, row, fate⟩ := Office.fates_run rfl events member
      have address : entry.2.address = participant.address := by rw [row]; rfl
      rcases fate.of_idle (isIdle_of_stands stands answered) with ⟨desk, completed⟩ | ⟨cut, -⟩
      · obtain ⟨caller, present⟩ := Office.completed?_eq_some.mp completed
        obtain rfl : desk = 0 := stands.together _ (List.mem_of_getElem? present)
        exact .inl ((remembers _).mpr (.inr ⟨entry.1, participant, completed, address.symm⟩))
      · exact .inr ⟨entry.1, participant, address.symm, cut⟩

theorem ofLaunch_cases (settings : Settings) (surroundings : Surroundings) (epoch : Instant)
    (launch : Launch) (app : App) :
    ∃ opening : Server, ofLaunch settings surroundings epoch launch app = opening.happen ∧
      opening.IsIdle ∧ opening.app = app :=
  ⟨_, rfl, ⟨rfl, rfl⟩, rfl⟩

theorem index_of_launch {settings : Settings} {surroundings : Surroundings} {app : App}
    (started : (Launch.run settings surroundings).result = .ok app) (epoch : Instant)
    (turns : List Turn) :
    let server :=
      (ofLaunch settings surroundings epoch (Launch.run settings surroundings) app).run turns
    let registrar := server.app.registrar
    (∀ address, registrar.isPresent address = true → address ∈ registrar.store.addresses) ∧
      (server.exchanges = [] → ∃ events, ∀ address ∈ registrar.store.addresses,
        registrar.isPresent address = true ∨ ∃ number participant,
          participant.address = address ∧
            (Office.opened app.registrar.store fun _ => app.registrar).IsCutOff events number
              participant) := by
  intro server registrar
  obtain ⟨opening, launched, idle, rfl⟩ :=
    ofLaunch_cases settings surroundings epoch (Launch.run settings surroundings) app
  have ran : server = opening.run (.happen :: turns) := by
    rw [run_cons]
    exact congrArg (run · turns) launched
  obtain ⟨true, events, -, kept⟩ :=
    index_of_run idle (Launch.isWarmed_run started) (.happen :: turns)
  rw [← ran] at true kept
  exact ⟨true, fun answered => ⟨events, kept answered⟩⟩

end Server

end Enrolment
