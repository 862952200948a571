import Enrolment.Proofs.Activation.Office
import Enrolment.Proofs.Token.RoundTrip

set_option autoImplicit false

namespace Enrolment

namespace Registrar

theorem authorize_create (registrar : Registrar) (entropy : Bytes) (claims : Claims)
    (issued now : Instant)
    (lower : -(2 ^ 63) ≤ issued.seconds)
    (upper : issued.seconds + registrar.tokens.window < 2 ^ 63)
    (accepts : registrar.tokens.key.Accepts entropy (registrar.tokens.message claims issued))
    (complete : claims.isComplete = true) (live : registrar.tokens.IsLive issued now) :
    registrar.authorize now (registrar.tokens.create entropy claims issued)
      (Token.fingerprint (registrar.tokens.create entropy claims issued)) = .ok claims := by
  have extracted := registrar.tokens.extract_create_cases entropy claims issued now lower upper
    accepts
  rw [if_neg (by have := live.1; omega), if_neg (by have := live.2; omega), if_pos complete]
    at extracted
  simp [authorize, isPresentable, TokenService.isWellFormed_create, extracted]

theorem activate_authorized {registrar : Registrar} {table : Table} {claims : Claims} (draw : Draw)
    {token fingerprint : String}
    (authorized : registrar.authorize draw.now token fingerprint = .ok claims)
    (serves : registrar.store.Serves table) (free : table.contains claims.address = false)
    (sponsored : table.contains claims.sponsor = true) :
    (registrar.activate draw token fingerprint).1 =
      .ok (Participant.ofClaims claims (Uuid.random draw.entropy) draw.now) := by
  -- Both lookups leave the table as it is, so that the write still finds the address free.
  have again := serves.looked (registrar.store.lookups + 1)
  have written := (again.looked (registrar.store.lookups + 1 + 1)).persist draw.nonce.bytes
    (Participant.ofClaims claims (Uuid.random draw.entropy) draw.now) free
  simp only [activate, run, beginActivation, authorized, advance, serves.lookUp, again.lookUp, free,
    sponsored, written]
  rfl

end Registrar

namespace Office

theorem step_present (office : Office) (desk : Nat) {now : Instant}
    {token fingerprint : String} {claims : Claims}
    (authorized : (office.desk desk).authorize now token fingerprint = .ok claims) :
    office.step (.present desk now token fingerprint) =
      office.welcome desk (.lookingUpAddress claims, office.desk desk) := by
  simp only [step, Registrar.beginActivation, authorized]

theorem result?_present (office : Office) (desk : Nat) (draw : Draw)
    {token fingerprint : String} {claims : Claims} {table : Table}
    (authorized : (office.desk desk).authorize draw.now token fingerprint = .ok claims)
    (serves : office.store.Serves table) (free : table.contains claims.address = false)
    (sponsored : table.contains claims.sponsor = true) :
    (office.run (.present desk draw.now token fingerprint ::
        List.replicate 4 (.advance office.calls.length draw))).result? office.calls.length =
      some (.ok (Participant.ofClaims claims (Uuid.random draw.entropy) draw.now)) := by
  have succeeded := Registrar.activate_authorized draw authorized serves free sponsored
  rw [run_uninterrupted, succeeded]
  simp [result?, welcome, Registrar.Activation.result?]

def founders : Table where
  rows := [⟨1, "root", "", Uuid.ofNat 0, Instant.ofMillis 0, ""⟩]
  nextId := 2

def foundation : Store where
  cipher := ⟨List.replicate 32 0, by decide⟩
  table := some founders

def frontDesk : Registrar where
  tokens := { algorithm := .hs256, key := .shared .sha256 [7] }
  base := default
  store := foundation

def frontOffice : Office := opened foundation fun _ => frontDesk

def newcomer : Claims := ⟨"ann", "ann@example.org", "root"⟩

def enrolledAt : Instant := Instant.ofMillis 0

def activatedAt : Instant := Instant.ofMillis 599999

def newcomerToken : String := frontDesk.tokens.create [] newcomer enrolledAt

def newParticipant : Participant := Participant.ofClaims newcomer (Uuid.random []) activatedAt

def registered : Office := frontOffice.step (.register 0 ⟨enrolledAt, []⟩ newcomer)

def enrolment : List Event :=
  .register 0 ⟨enrolledAt, []⟩ newcomer ::
    .present 0 activatedAt newcomerToken (Token.fingerprint newcomerToken) ::
      List.replicate 4 (.advance 0 ⟨activatedAt, []⟩)

theorem authorize_newcomer (office : Office) (desk : Nat)
    (tokens : (office.desk desk).tokens = frontDesk.tokens) :
    (office.desk desk).authorize activatedAt newcomerToken (Token.fingerprint newcomerToken) =
      .ok newcomer := by
  have authorized := (office.desk desk).authorize_create [] newcomer enrolledAt activatedAt
    (by decide) (by rw [tokens]; decide)
    (by rw [tokens]; rintro scheme pair ⟨⟩) (by decide)
    (by rw [tokens]; unfold TokenService.IsLive; decide)
  rwa [tokens] at authorized

theorem registered_tokens : (registered.desk 0).tokens = frontDesk.tokens :=
  (frontOffice.keeps_step _).tokens 0

theorem registered_serves : registered.store.Serves founders := by
  have store : registered.store = foundation :=
    ((frontOffice.desk 0).register_keeps ⟨enrolledAt, []⟩ newcomer).2
  rw [store]
  exact ⟨rfl, rfl, rfl, rfl⟩

theorem draw_of_mem_enrolment {desk : Nat} {draw : Draw} {claims : Claims}
    (member : .register desk draw claims ∈ enrolment) : draw = ⟨enrolledAt, []⟩ := by
  simp only [enrolment, List.mem_cons, List.mem_replicate, Event.register.injEq, reduceCtorEq,
    and_false, or_false] at member
  exact member.2.1

theorem result?_enrolment : (frontOffice.run enrolment).result? 0 = some (.ok newParticipant) := by
  have calls : registered.calls.length = 0 := rfl
  have result := registered.result?_present 0 ⟨activatedAt, []⟩
    (authorize_newcomer registered 0 registered_tokens) registered_serves (by decide) (by decide)
  rw [calls] at result
  rw [enrolment, run, List.foldl_cons]
  exact result

end Office

end Enrolment
