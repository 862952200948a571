import Enrolment.Text.CodeTable

set_option autoImplicit false

namespace Enrolment

inductive Spells : List String → List (List Char) → Prop
  | nil : Spells [] []
  | cons {line : String} {chars : List Char} {lines : List String} {spelt : List (List Char)}
      (same : line = String.ofList chars) (rest : Spells lines spelt) :
      Spells (line :: lines) (chars :: spelt)

variable {lines : List String} {spelt : List (List Char)}

theorem Spells.exists_of_mem (spells : Spells lines spelt) {line : String} (member : line ∈ lines) :
    ∃ chars ∈ spelt, line = String.ofList chars := by
  induction spells with
  | nil => cases member
  | cons same spells ih =>
    rcases List.mem_cons.mp member with rfl | member
    · exact ⟨_, List.mem_cons_self, same⟩
    · obtain ⟨chars, spelt, same⟩ := ih member
      exact ⟨chars, List.mem_cons_of_mem _ spelt, same⟩

namespace CodeRanges

def readChars (chars : List Char) : List (Nat × Nat) :=
  (chars.foldl Draft.add {}).finish.ranges.toList

theorem readLine_ofList (chars : List Char) : readLine (String.ofList chars) = readChars chars := by
  rw [readLine, String.foldl_eq_foldl_toList, String.toList_ofList, readChars]

theorem forall_mem_parse (spells : Spells lines spelt) {holds : Nat × Nat → Bool}
    (checked : (spelt.all fun chars => (readChars chars).all holds) = true) :
    ∀ range ∈ (parse lines).bounds, holds range = true := by
  intro range member
  simp only [parse, List.mem_toArray, List.mem_flatMap] at member
  obtain ⟨line, written, member⟩ := member
  obtain ⟨chars, known, rfl⟩ := spells.exists_of_mem written
  rw [readLine_ofList] at member
  exact List.all_eq_true.mp (List.all_eq_true.mp checked chars known) range member

theorem search_sound {bounds : Array (Nat × Nat)} {code fuel low high : Nat}
    (within : high ≤ bounds.size) (found : search bounds code fuel low high = true) :
    ∃ range ∈ bounds, range.1 ≤ code ∧ code ≤ range.2 := by
  induction fuel generalizing low high with
  | zero => cases found
  | succ fuel ih =>
    by_cases space : low < high
    · rw [search, if_pos space] at found
      have inside : (low + high) / 2 < bounds.size := by omega
      have member : bounds.getInternal _ inside ∈ bounds := Array.getElem_mem inside
      dsimp only at found
      rw [dif_pos inside] at found
      generalize bounds.getInternal _ inside = range at found member
      split at found
      · exact ih (by omega) found
      · split at found
        · exact ih within found
        · exact ⟨range, member, by omega, by omega⟩
    · rw [search, if_neg space] at found
      cases found

theorem exists_of_contains {set : CodeRanges} {code : Nat} (found : set.contains code = true) :
    ∃ range ∈ set.bounds, range.1 ≤ code ∧ code ≤ range.2 :=
  search_sound (Nat.le_refl _) found

end CodeRanges

namespace CodeTable

def readChars (chars : List Char) : List CodeRow := (chars.foldl Draft.add {}).finish.rows.toList

theorem readLine_ofList (chars : List Char) : readLine (String.ofList chars) = readChars chars := by
  rw [readLine, String.foldl_eq_foldl_toList, String.toList_ofList, readChars]

theorem forall_mem_parse (spells : Spells lines spelt) {holds : CodeRow → Bool}
    (checked : (spelt.all fun chars => (readChars chars).all holds) = true) :
    ∀ row ∈ (parse lines).rows, holds row = true := by
  intro row member
  simp only [parse, List.mem_toArray, List.mem_flatMap] at member
  obtain ⟨line, written, member⟩ := member
  obtain ⟨chars, known, rfl⟩ := spells.exists_of_mem written
  rw [readLine_ofList] at member
  exact List.all_eq_true.mp (List.all_eq_true.mp checked chars known) row member

theorem search_sound {rows : Array CodeRow} {code fuel low high : Nat} {row : CodeRow}
    (found : search rows code fuel low high = some row) :
    row ∈ rows ∧ row.first ≤ code ∧ code ≤ row.last := by
  induction fuel generalizing low high with
  | zero => cases found
  | succ fuel ih =>
    by_cases space : low < high
    · rw [search, if_pos space] at found
      dsimp only at found
      split at found
      · cases found
      next other taken =>
      split at found
      · exact ih found
      · split at found
        · exact ih found
        · cases found
          exact ⟨Array.mem_of_getElem? taken, by omega, by omega⟩
    · rw [search, if_neg space] at found
      cases found

theorem exists_of_lookup {table : CodeTable} {code : Nat} {value : List Nat}
    (found : table.lookup code = some value) :
    ∃ row ∈ table.rows, row.first ≤ code ∧ code ≤ row.last ∧ CodeRow.value? row code = some value := by
  obtain ⟨row, taken, valued⟩ := Option.bind_eq_some_iff.mp found
  obtain ⟨member, lower, upper⟩ := search_sound taken
  exact ⟨row, member, lower, upper, valued⟩

end CodeTable

end Enrolment
