import Enrolment.Idna.CompositionTable
import Enrolment.Idna.MappingTable
import Enrolment.Proofs.Text.Tables

set_option autoImplicit false

namespace Enrolment.Idna

def strayRanges : List (Nat × Nat) :=
  [(0x80, 0xA0), (0x1680, 0x1680), (0x2000, 0x200A), (0x2028, 0x2029), (0x202F, 0x202F),
    (0x205F, 0x205F), (0x3000, 0x3000)]

def sparesStrays (first last : Nat) : Bool :=
  strayRanges.all fun stray => last < stray.1 || stray.2 < first

-- Such a row takes all its characters to the blank.
def isBlankRow (row : CodeRow) : Bool :=
  row.target = [0x20] && (row.step = .constant || row.first = row.last)

theorem sparesStrays_kept : ∀ range ∈ kept.get.bounds, sparesStrays range.1 range.2 = true := by
  apply CodeRanges.forall_mem_parse
  case spells =>
    dsimp only
    repeat first | exact .nil | apply Spells.cons rfl
  case checked => decide +kernel

theorem sparesStrays_dropped : ∀ range ∈ dropped.get.bounds, sparesStrays range.1 range.2 = true := by
  apply CodeRanges.forall_mem_parse
  case spells => repeat first | exact .nil | apply Spells.cons rfl
  case checked => decide +kernel

theorem spares_or_blank_replacements :
    ∀ row ∈ replacements.get.rows, (sparesStrays row.first row.last || isBlankRow row) = true := by
  apply CodeTable.forall_mem_parse
  case spells =>
    dsimp only
    repeat first | exact .nil | apply Spells.cons rfl
  case checked => decide +kernel

def standsApart (row : CodeRow) : Bool :=
  128 ≤ row.first && row.target.all fun code => 0x3B ≤ code && code ≠ 0x7F

theorem standsApart_decompositions :
    ∀ row ∈ decompositions.get.rows, standsApart row = true := by
  apply CodeTable.forall_mem_parse
  case spells =>
    dsimp only
    repeat first | exact .nil | apply Spells.cons rfl
  case checked => decide +kernel

end Enrolment.Idna
