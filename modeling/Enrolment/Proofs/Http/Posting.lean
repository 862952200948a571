import Enrolment.Proofs.Http.Reception

set_option autoImplicit false

namespace Enrolment

namespace Outbox

def Grows (before after : Outbox) : Prop :=
  ∃ added, after = { before with pending := before.pending ++ added }

theorem Grows.refl (outbox : Outbox) : outbox.Grows outbox :=
  ⟨[], by rw [List.append_nil]⟩

theorem grows_post (outbox : Outbox) (notification : Notification) :
    outbox.Grows (outbox.post notification) :=
  ⟨[notification], rfl⟩

end Outbox

namespace Registrar

theorem grows_register (registrar : Registrar) (draw : Draw) (claims : Claims) :
    registrar.outbox.Grows (registrar.register draw claims).2.outbox := by
  unfold register
  split
  · split
    · exact registrar.outbox.grows_post _
    · exact .refl _
  · exact .refl _

theorem grows_beginActivation (registrar : Registrar) (now : Instant)
    (token fingerprint : String) :
    registrar.outbox.Grows (registrar.beginActivation now token fingerprint).2.outbox := by
  unfold beginActivation
  split <;> exact .refl _

theorem grows_advance (registrar : Registrar) (draw : Draw) (activation : Activation) :
    registrar.outbox.Grows (registrar.advance draw activation).2.outbox := by
  cases activation with
  | inserted participant => exact registrar.outbox.grows_post _
  | finished => exact .refl _
  | lookingUpAddress | lookingUpSponsor | inserting =>
    simp only [advance]
    split <;> exact .refl _

end Registrar

namespace App

def outbox (app : App) : Outbox := app.registrar.outbox

variable (app : App) (draw : Draw) (request : Request)

theorem grows_receive (clock : Nat) :
    app.outbox.Grows (app.receive draw clock request).2.outbox := by
  have taken := app.receive_takes draw request clock
  unfold outbox
  generalize (app.receive draw clock request).1.activation? = begun,
    (app.receive draw clock request).2.registrar = registrar at taken ⊢
  cases taken with
  | nothing | rejection => exact .refl _
  | registration claims => exact app.registrar.grows_register draw claims
  | activation token fingerprint => exact app.registrar.grows_beginActivation draw.now _ _

theorem grows_advance (handling : Handling) :
    app.outbox.Grows (app.advance draw handling).2.outbox := by
  cases handling with
  | activating activation => exact app.registrar.grows_advance draw activation
  | findingPage | loadingPage =>
    simp only [advance]
    split <;> exact .refl _
  | pinging | answered => exact .refl _

end App

end Enrolment
