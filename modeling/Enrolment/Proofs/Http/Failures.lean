import Enrolment.Proofs.Http.ListPath

set_option autoImplicit false

namespace Enrolment

def RepliesAlike {α : Type} (left right : Except StoreError α) : Prop :=
  left = right ∨ ∃ cause other, left = .error (.backend cause) ∧ right = .error (.backend other)

namespace RepliesAlike

variable {α β : Type} {left right : Except StoreError α}

theorem refl (reply : Except StoreError α) : RepliesAlike reply reply := .inl rfl

theorem bind (alike : RepliesAlike left right) (next : α → Except StoreError β) :
    RepliesAlike (left >>= next) (right >>= next) := by
  rcases alike with rfl | ⟨cause, other, rfl, rfl⟩
  · exact refl _
  · exact .inr ⟨cause, other, rfl, rfl⟩

end RepliesAlike

namespace Store

structure Resembles (left right : Store) : Prop where
  contains (address : String) : RepliesAlike (left.contains address) (right.contains address)
  persist (nonce : Bytes) (participant : Participant) :
    RepliesAlike (left.persist nonce participant).1 (right.persist nonce participant).1
  findPage (offset limit : Option Nat) :
    RepliesAlike (left.findPage offset limit) (right.findPage offset limit)
  loadPage (page : Page) : RepliesAlike (left.loadPage page) (right.loadPage page)
  ping : RepliesAlike left.ping right.ping

theorem Resembles.refl (store : Store) : store.Resembles store where
  contains _ := .refl _
  persist _ _ := .refl _
  findPage _ _ := .refl _
  loadPage _ := .refl _
  ping := .refl _

-- The store that gives other causes for its failures.
def blaming (causes : Statement → Cause) (store : Store) : Store := { store with causes }

variable (causes : Statement → Cause) (store : Store)

theorem reach_blaming (statement : Statement) :
    RepliesAlike (store.reach statement) ((store.blaming causes).reach statement) := by
  unfold reach
  split
  next offline => exact .inl (if_pos offline).symm
  next online =>
    have same : (!(store.blaming causes).online) = false := eq_false_of_ne_true online
    rw [same]
    split
    next fails => exact .inr ⟨_, _, rfl, if_pos fails⟩
    next works => exact .inl (if_neg works).symm

theorem persist_eq (nonce : Bytes) (participant : Participant) :
    (store.persist nonce participant).1 =
      store.reach .persist >>= fun table =>
        (table.insert store.cipher nonce participant).map fun _ => () := by
  unfold persist
  cases store.reach .persist with
  | error fault => rfl
  | ok table =>
    simp only [bind, Except.bind]
    cases table.insert store.cipher nonce participant <;> rfl

theorem resembles_blaming : store.Resembles (store.blaming causes) where
  contains address := (store.reach_blaming causes .exist).bind _
  persist nonce participant := by
    rw [persist_eq, persist_eq]
    exact (store.reach_blaming causes .persist).bind _
  findPage offset limit := (store.reach_blaming causes .count).bind _
  loadPage page := (store.reach_blaming causes .load).bind _
  ping := (store.reach_blaming causes .ping).bind _

theorem persist_blaming (nonce : Bytes) (participant : Participant) :
    ((store.blaming causes).persist nonce participant).2 =
      (store.persist nonce participant).2.blaming causes := by
  unfold persist
  rcases store.reach_blaming causes .persist with same | ⟨cause, other, left, right⟩
  · rw [← same]
    cases store.reach .persist with
    | error fault => rfl
    | ok table =>
      simp only [blaming, bind, Except.bind]
      cases table.insert store.cipher nonce participant <;> rfl
  · rw [left, right]
    rfl

end Store

def Handling.storeAfter (draw : Draw) (store : Store) : Handling → Store
  | activating (.lookingUpAddress claims) => (store.lookUp claims.address).2
  | activating (.lookingUpSponsor claims) => (store.lookUp claims.sponsor).2
  | activating (.inserting participant) => (store.persist draw.nonce.bytes participant).2
  | _ => store

-- The health check is left out, since it answers for a store that fails.
inductive Handling.FailsOn (store : Store) (draw : Draw) (cause : Cause) : Handling → Prop
  | address {claims : Claims} (failed : store.contains claims.address = .error (.backend cause)) :
    FailsOn store draw cause (activating (.lookingUpAddress claims))
  | sponsor {claims : Claims} (failed : store.contains claims.sponsor = .error (.backend cause)) :
    FailsOn store draw cause (activating (.lookingUpSponsor claims))
  | row {participant : Participant}
    (failed : (store.persist draw.nonce.bytes participant).1 = .error (.backend cause)) :
    FailsOn store draw cause (activating (.inserting participant))
  | count {query : ListQuery}
    (failed : store.findPage query.offset query.limit = .error (.backend cause)) :
    FailsOn store draw cause (findingPage query)
  | rows {format : ListFormat} {page : Page}
    (failed : store.loadPage page = .error (.backend cause)) :
    FailsOn store draw cause (loadingPage format page)

namespace App

variable {app : App} {store : Store} {draw : Draw}

theorem advance_of_failsOn {handling : Handling} {cause : Cause}
    (fails : handling.FailsOn app.registrar.store draw cause) :
    (app.advance draw handling).1 = problem .internal := by
  cases fails with
  | address failed | sponsor failed =>
    simp only [advance, Registrar.advance, Store.lookUp, failed]
    rfl
  | row failed =>
    simp only [advance, Registrar.advance, failed]
    rfl
  | count failed | rows failed =>
    simp only [advance, failed]
    rfl

theorem advance_resembling (resembles : app.registrar.store.Resembles store) (draw : Draw)
    (handling : Handling) :
    (withStore store app).advance draw handling =
      moved (withStore (handling.storeAfter draw store)) (app.advance draw handling) := by
  cases handling with
  | answered response => rfl
  | pinging =>
    simp only [advance, withStore]
    rcases resembles.ping with same | ⟨cause, other, left, right⟩
    · rw [← same]
      rfl
    · rw [left, right]
      rfl
  | findingPage query =>
    simp only [advance, withStore]
    rcases resembles.findPage query.offset query.limit with same | ⟨cause, other, left, right⟩
    · rw [← same]
      cases app.registrar.store.findPage query.offset query.limit <;> rfl
    · rw [left, right]
      rfl
  | loadingPage format page =>
    simp only [advance, withStore]
    rcases resembles.loadPage page with same | ⟨cause, other, left, right⟩
    · rw [← same]
      cases app.registrar.store.loadPage page <;> rfl
    · rw [left, right]
      rfl
  | activating activation =>
    cases activation with
    | inserted | finished => rfl
    | lookingUpAddress claims =>
      simp only [advance, Registrar.advance, withStore, Store.lookUp]
      rcases resembles.contains claims.address with same | ⟨cause, other, left, right⟩
      · rw [← same]
        cases app.registrar.store.contains claims.address with
        | error error => rfl
        | ok found => cases found <;> rfl
      · rw [left, right]
        rfl
    | lookingUpSponsor claims =>
      simp only [advance, Registrar.advance, withStore, Store.lookUp]
      rcases resembles.contains claims.sponsor with same | ⟨cause, other, left, right⟩
      · rw [← same]
        cases app.registrar.store.contains claims.sponsor with
        | error error => rfl
        | ok found => cases found <;> rfl
      · rw [left, right]
        rfl
    | inserting participant =>
      simp only [advance, Registrar.advance, withStore]
      rcases resembles.persist draw.nonce.bytes participant with
        same | ⟨cause, other, left, right⟩
      · rw [← same]
        cases (app.registrar.store.persist draw.nonce.bytes participant).1 <;> rfl
      · rw [left, right]
        rfl

def blaming (causes : Statement → Cause) (app : App) : App :=
  withStore (app.registrar.store.blaming causes) app

theorem storeAfter_blaming (causes : Statement → Cause) (store : Store) (draw : Draw)
    (handling : Handling) :
    handling.storeAfter draw (store.blaming causes) =
      (handling.storeAfter draw store).blaming causes := by
  cases handling with
  | findingPage | loadingPage | pinging | answered => rfl
  | activating activation =>
    cases activation with
    | lookingUpAddress | lookingUpSponsor | inserted | finished => rfl
    | inserting participant => exact store.persist_blaming causes _ participant

theorem store_advance (app : App) (draw : Draw) (handling : Handling) :
    (app.advance draw handling).2.registrar.store =
      handling.storeAfter draw app.registrar.store :=
  congrArg (fun state => state.2.registrar.store) (advance_resembling (.refl _) draw handling)

theorem advance_blaming (causes : Statement → Cause) (app : App) (draw : Draw)
    (handling : Handling) :
    (app.blaming causes).advance draw handling =
      moved (blaming causes) (app.advance draw handling) := by
  have resembles := app.registrar.store.resembles_blaming causes
  rw [blaming, advance_resembling resembles, storeAfter_blaming, ← store_advance]
  rfl

theorem store_receive (app : App) (call : Call) :
    (app.receive call.draw call.clock call.request).2.registrar.store = app.registrar.store :=
  congrArg (fun state => state.2.registrar.store)
    (receive_withStore app.registrar.store app call.draw call.clock call.request)

theorem receive_blaming (causes : Statement → Cause) (app : App) (call : Call) :
    (app.blaming causes).receive call.draw call.clock call.request =
      moved (blaming causes) (app.receive call.draw call.clock call.request) := by
  rw [blaming, receive_withStore, ← store_receive app call]
  rfl

theorem respondTo_blaming (causes : Statement → Cause) (app : App) (call : Call) :
    (app.blaming causes).respondTo call = moved (blaming causes) (app.respondTo call) := by
  apply respond_moved
  case received => exact receive_blaming causes app call
  case advanced =>
    intro other handling _
    exact advance_blaming causes other call.draw handling
  case delivered =>
    intro other response
    unfold deliver
    cases Route.find? call.request.segments <;> rfl

-- What a handling comes to if it finds the server in one state after the other, one for each of its
-- steps, whatever happens in between.
def answerAmid (draw : Draw) : List App → Handling → Handling
  | [], handling => handling
  | app :: met, handling => answerAmid draw met (app.advance draw handling).1

def respondAmid (app : App) (met : List App) (call : Call) : Response :=
  match answerAmid call.draw met (app.receive call.draw call.clock call.request).1 with
  | .answered response => (app.deliver call.draw call.request response).1
  | _ => (app.deliver call.draw call.request (.problem .internal)).1

def FailsAmid (draw : Draw) : List App → Handling → Prop
  | [], _ => False
  | app :: met, handling =>
    (∃ cause, handling.FailsOn app.registrar.store draw cause) ∨
      FailsAmid draw met (app.advance draw handling).1

def statesFrom (draw : Draw) : Nat → Handling × App → List App
  | 0, _ => []
  | steps + 1, (handling, app) => app :: statesFrom draw steps (app.advance draw handling)

-- The states that a call meets if nothing interrupts it.
def statesOf (app : App) (call : Call) : List App :=
  statesFrom call.draw 4 (app.receive call.draw call.clock call.request)

def Resembles (left right : App) : Prop :=
  ∃ store, left.registrar.store.Resembles store ∧ right = withStore store left

theorem deliver_any (left right : App) (draw : Draw) (request : Request) (response : Response) :
    (left.deliver draw request response).1 = (right.deliver draw request response).1 := by
  unfold deliver
  cases Route.find? request.segments <;> rfl

theorem run_eq_answerAmid (draw : Draw) (steps : Nat) (state : Handling × App) :
    (run draw steps state).1 = answerAmid draw (statesFrom draw steps state) state.1 := by
  induction steps generalizing state with
  | zero => rfl
  | succ steps ih => exact ih (state.2.advance draw state.1)

theorem respondTo_eq_respondAmid (app : App) (call : Call) :
    (app.respondTo call).1 = app.respondAmid (app.statesOf call) call := by
  unfold respondTo respond respondAmid statesOf
  rw [← run_eq_answerAmid]
  rcases run call.draw 4 (app.receive call.draw call.clock call.request) with ⟨handling, left⟩
  cases handling <;> exact deliver_any left app call.draw call.request _

theorem answerAmid_answered (draw : Draw) (met : List App) (response : Response) :
    answerAmid draw met (.answered response) = .answered response := by
  induction met with
  | nil => rfl
  | cons app met ih => exact ih

theorem answerAmid_resembling {met others : List App} (alike : List.Forall₂ Resembles met others)
    (draw : Draw) (handling : Handling) :
    answerAmid draw others handling = answerAmid draw met handling := by
  induction alike generalizing handling with
  | nil => rfl
  | cons first rest ih =>
    obtain ⟨store, resembles, rfl⟩ := first
    rw [answerAmid, answerAmid, advance_resembling resembles]
    exact ih _

theorem answerAmid_of_failsAmid {met : List App} {draw : Draw} {handling : Handling}
    (fails : FailsAmid draw met handling) : answerAmid draw met handling = problem .internal := by
  induction met generalizing handling with
  | nil => cases fails
  | cons app met ih =>
    rcases fails with ⟨cause, failed⟩ | later
    · rw [answerAmid, advance_of_failsOn failed]
      exact answerAmid_answered draw met _
    · exact ih later

structure Conceals (call : Call) (response : Response) : Prop where
  status : response.status = 500
  body (whole : call.request.method ≠ "HEAD") :
    response.body = Problem.body [⟨500, none, some "Internal Server Error"⟩]
  -- A call has but one such answer, whatever the app is.
  only (app : App) : response = (app.deliver call.draw call.request (.problem .internal)).1

theorem conceals_of_failsAmid {app : App} {met : List App} {call : Call}
    (fails : FailsAmid call.draw met (app.receive call.draw call.clock call.request).1) :
    Conceals call (app.respondAmid met call) := by
  have answer (other : App) : app.respondAmid met call =
      (other.deliver call.draw call.request (.problem .internal)).1 := by
    unfold respondAmid
    rw [answerAmid_of_failsAmid fails]
    exact deliver_any app other call.draw call.request _
  constructor
  case status =>
    rw [answer app, status_deliver]
    rfl
  case body =>
    intro whole
    rw [answer app, body_deliver _ _ _ _ (.inl whole)]
    rfl
  case only => exact answer

theorem respondAmid_resembling {app other : App} {met others : List App} (call : Call)
    (resembles : app.Resembles other) (alike : List.Forall₂ Resembles met others) :
    other.respondAmid others call = app.respondAmid met call := by
  obtain ⟨store, -, rfl⟩ := resembles
  unfold respondAmid
  rw [receive_withStore, answerAmid_resembling alike]
  dsimp only [moved]
  split <;> exact deliver_any _ _ _ _ _

theorem failures_undisclosed {app other : App} {met others : List App} (call : Call)
    (resembles : app.Resembles other) (alike : List.Forall₂ Resembles met others) :
    other.respondAmid others call = app.respondAmid met call ∧
      (FailsAmid call.draw met (app.receive call.draw call.clock call.request).1 →
        Conceals call (app.respondAmid met call)) ∧
      (app.respondTo call).1 = app.respondAmid (app.statesOf call) call ∧
      ∀ causes, (app.blaming causes).respondTo call = moved (blaming causes) (app.respondTo call) :=
  ⟨respondAmid_resembling call resembles alike, conceals_of_failsAmid,
    respondTo_eq_respondAmid app call, fun causes => respondTo_blaming causes app call⟩

-- Faults that clients are told about if they are their own.
def mistaken (statement : Statement) : Cause :=
  if statement = .count then .registration (.conflict "ann") else .violations [.invalidEmail]

def ailing : App := withStore { lodge.registrar.store with failing := [.count] } lodge

def roll : Call where
  draw := dawn
  clock := 0
  request := { target := "/secret/path/list", headers := [("x-api-key", "key")] }

theorem receive_roll :
    (ailing.receive roll.draw roll.clock roll.request).1 = .findingPage {} := by
  have found : Route.find? roll.request.segments = some (.list "secret".toList "path".toList) := by
    decide
  have admitted : ailing.admits roll.clock roll.request = true := by decide +kernel
  have hasKey : ailing.hasKey roll.request = true := by decide
  have first : Route.parameter? "secret".toList = some "secret" := by decide +kernel
  have second : Route.parameter? "path".toList = some "path" := by decide +kernel
  have query : ListQuery.parse? roll.request.query = some {} := by decide +kernel
  rw [receive_served ailing roll.draw roll.clock found rfl (by decide) admitted hasKey]
  change (ailing.charged roll.clock roll.request).list roll.request _ _ = _
  unfold list
  rw [first, second, query]
  rfl

theorem failures_undisclosed_roll :
    (ailing.blaming mistaken).respondAmid [ailing.blaming mistaken] roll =
        ailing.respondAmid [ailing] roll ∧
      Conceals roll (ailing.respondAmid [ailing] roll) := by
  have resembles : ailing.Resembles (ailing.blaming mistaken) :=
    ⟨_, ailing.registrar.store.resembles_blaming mistaken, rfl⟩
  obtain ⟨same, conceals, -⟩ := failures_undisclosed roll resembles (.cons resembles .nil)
  refine ⟨same, conceals (.inl ⟨.text "list failed", ?_⟩)⟩
  rw [receive_roll]
  exact .count rfl

end App

end Enrolment
