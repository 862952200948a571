import Enrolment.Proofs.Activation.Outcomes

set_option autoImplicit false

namespace Enrolment.Registrar

def Agree (left right : Registrar) : Prop := { left with outbox := right.outbox } = right

structure Alike {α : Type} (left right : α × Registrar) : Prop where
  result : left.1 = right.1
  agree : left.2.Agree right.2

theorem Agree.symm {left right : Registrar} (agree : left.Agree right) : right.Agree left := by
  rw [← agree]
  rfl

theorem Agree.trans {left middle right : Registrar} (first : left.Agree middle)
    (second : middle.Agree right) : left.Agree right := by
  rw [← second, ← first]
  rfl

section Agreement

variable {left right : Registrar} (agree : left.Agree right) (draw : Draw)
include agree

theorem Agree.register (claims : Claims) :
    Alike (left.register draw claims) (right.register draw claims) := by
  rw [← agree]
  simp only [Registrar.register]
  split
  · split <;> exact ⟨rfl, rfl⟩
  · exact ⟨rfl, rfl⟩

theorem Agree.beginActivation (now : Instant) (token fingerprint : String) :
    Alike (left.beginActivation now token fingerprint)
      (right.beginActivation now token fingerprint) := by
  rw [← agree]
  have authorized : Registrar.authorize { left with outbox := right.outbox } now token fingerprint =
      left.authorize now token fingerprint := rfl
  simp only [Registrar.beginActivation, authorized]
  split <;> exact ⟨rfl, rfl⟩

theorem Agree.advance (activation : Activation) :
    Alike (left.advance draw activation) (right.advance draw activation) := by
  rw [← agree]
  cases activation with
  | lookingUpAddress claims | lookingUpSponsor claims | inserting participant =>
    simp only [Registrar.advance]
    split <;> exact ⟨rfl, rfl⟩
  | inserted participant => exact ⟨rfl, rfl⟩
  | finished result => exact ⟨rfl, rfl⟩

theorem Agree.under (weather : Weather) :
    Agree { left with store := left.store.under weather }
      { right with store := right.store.under weather } := by
  rw [← agree]
  rfl

end Agreement

section Likeness

variable {left right : Activation × Registrar} (alike : Alike left right)
include alike

theorem Alike.advance (draw : Draw) :
    Alike (left.2.advance draw left.1) (right.2.advance draw right.1) := by
  rw [alike.result]
  exact alike.agree.advance draw right.1

theorem Alike.advanceUnder (weather : Weather) (draw : Draw) :
    Alike (advanceUnder weather draw left) (advanceUnder weather draw right) := by
  have own : left.2.store.weather = right.2.store.weather := by rw [← alike.agree]
  have below : Alike (left.1, { left.2 with store := left.2.store.under weather })
      (right.1, { right.2 with store := right.2.store.under weather }) :=
    ⟨alike.result, alike.agree.under weather⟩
  have stepped := below.advance draw
  refine ⟨stepped.result, ?_⟩
  -- The weather that is restored is the same.
  simp only [Registrar.advanceUnder, own]
  exact stepped.agree.under right.2.store.weather

theorem Alike.answer : Alike (answer left) (answer right) := by
  obtain ⟨activation, left⟩ := left
  obtain ⟨other, right⟩ := right
  obtain ⟨rfl, agree⟩ := alike
  cases activation <;> exact ⟨rfl, agree⟩

end Likeness

theorem Agree.activateUnder {left right : Registrar} (agree : left.Agree right) (course : Course)
    (draw : Draw) (token fingerprint : String) :
    Alike (left.activateUnder course draw token fingerprint)
      (right.activateUnder course draw token fingerprint) := by
  have begun := agree.beginActivation draw.now token fingerprint
  have inserted := ((begun.advanceUnder course.addressLookup draw).advanceUnder
    course.sponsorLookup draw).advanceUnder course.insertion draw
  exact (inserted.advance draw).answer

end Enrolment.Registrar
