import Enrolment.Settings.Tree

set_option autoImplicit false

namespace Enrolment.SettingTree

def IsScalar : SettingTree → Prop
  | table _ => False
  | _ => True

def Has (tree : SettingTree) (place field : String) (value : SettingTree) : Prop :=
  ∃ fields, tree.entry? place = some (table fields) ∧ fields.lookup field = some value

def stepsOf (key : String) : List Step := (steps? key.toList).getD [.name key]

def StepsSpare (place field : String) : List Step → Prop
  | [] | .index _ :: _ => False
  | .name first :: .name second :: _ => first ≠ place ∨ second ≠ field
  | .name first :: _ => first ≠ place

def Spares (place field key : String) : Prop := StepsSpare place field (stepsOf key)

instance (place field : String) : (steps : List Step) → Decidable (StepsSpare place field steps)
  | [] | .index _ :: _ => inferInstanceAs (Decidable False)
  | [.name first] | .name first :: .index _ :: _ => inferInstanceAs (Decidable (first ≠ place))
  | .name first :: .name second :: _ =>
    inferInstanceAs (Decidable (first ≠ place ∨ second ≠ field))

instance (place field key : String) : Decidable (Spares place field key) :=
  inferInstanceAs (Decidable (StepsSpare place field (stepsOf key)))

variable {place field : String} {value incoming tree : SettingTree}

theorem lookup_cons_ite (first : String × SettingTree) (rest : List (String × SettingTree))
    (other : String) :
    (first :: rest).lookup other = if other = first.1 then some first.2 else rest.lookup other := by
  rw [List.lookup_cons]
  by_cases same : other = first.1
  · simp [same]
  · simp [same, beq_false_of_ne same]

theorem lookup_put (name : String) (value : SettingTree) (entries : List (String × SettingTree))
    (other : String) :
    (put name value entries).lookup other =
      if other = name then some value else entries.lookup other := by
  induction entries with
  | nil => exact lookup_cons_ite _ _ _
  | cons first rest ih =>
    unfold put
    by_cases taken : first.1 = name
    · rw [if_pos taken, lookup_cons_ite, lookup_cons_ite, taken]
      split <;> rfl
    · rw [if_neg taken, lookup_cons_ite, lookup_cons_ite, ih]
      by_cases here : other = first.1
      · rw [if_pos here, if_pos here, if_neg (here ▸ taken)]
      · rw [if_neg here, if_neg here]

theorem entry?_put (name : String) (value : SettingTree) (entries : List (String × SettingTree))
    (other : String) :
    entry? (table (put name value entries)) other =
      if other = name then some value else entries.lookup other :=
  lookup_put name value entries other

theorem assign_scalar (name : String) (tree : SettingTree) (scalar : value.IsScalar) :
    assign name tree value = table (put name value tree.entries) := by
  cases value with
  | table => cases scalar
  | empty | boolean | integer | real | text | list =>
    rw [assign]
    rintro entries ⟨⟩

theorem Has.put_elsewhere (has : tree.Has place field value) {name : String} (apart : name ≠ place)
    (other : SettingTree) : (table (put name other tree.entries)).Has place field value := by
  obtain ⟨fields, placed, held⟩ := has
  exact ⟨fields, by rwa [entry?_put, if_neg apart.symm], held⟩

theorem Has.put_beside (has : tree.Has place field value) {name : String} (apart : name ≠ field)
    (other : SettingTree) {fields : List (String × SettingTree)}
    (kept : tree.entry? place = some (table fields)) :
    (table (put place (table (put name other fields)) tree.entries)).Has place field value := by
  obtain ⟨same, placed, held⟩ := has
  obtain rfl : same = fields := by simpa using placed.symm.trans kept
  refine ⟨put name other same, ?_, ?_⟩
  · rw [entry?_put, if_pos rfl]
  · rwa [lookup_put, if_neg apart.symm]

theorem setAt_deep (first : String) (second : Step) (deeper : List Step)
    (scalar : incoming.IsScalar) (tree : SettingTree) :
    ∃ inner : SettingTree → SettingTree,
      setAt (.name first :: second :: deeper) incoming tree =
          table (put first (inner ((tree.entry? first).getD empty)) tree.entries) ∧
        ∀ name, second = .name name →
          ∀ parent, ∃ new, inner parent = table (put name new parent.entries) := by
  cases last : (second :: deeper).getLast? with
  | none => simp at last
  | some step =>
    have whole : (.name first :: second :: deeper : List Step).getLast? = some step := by
      rwa [List.getLast?_cons_cons]
    cases step with
    | index index =>
      refine ⟨changeAt (fun _ => incoming) (second :: deeper), ?_, ?_⟩
      · rw [setAt, whole]
        rfl
      · rintro name rfl parent
        exact ⟨_, rfl⟩
    | name final =>
      refine ⟨changeAt (fun parent => assign final parent incoming) (second :: deeper).dropLast,
        ?_, ?_⟩
      · rw [setAt, whole]
        rfl
      · rintro name rfl parent
        cases deeper with
        | nil =>
          obtain rfl : name = final := by simpa using last
          exact ⟨incoming, assign_scalar name parent scalar⟩
        | cons => exact ⟨_, rfl⟩

theorem has_setAt_own (scalar : value.IsScalar) (tree : SettingTree) :
    (setAt [.name place, .name field] value tree).Has place field value := by
  have shape : setAt [.name place, .name field] value tree =
      table (put place (assign field ((tree.entry? place).getD empty) value) tree.entries) := rfl
  rw [shape, assign_scalar field _ scalar]
  refine ⟨put field value ((tree.entry? place).getD empty).entries, ?_, ?_⟩
  · rw [entry?_put, if_pos rfl]
  · rw [lookup_put, if_pos rfl]

theorem has_setAt_spared (has : tree.Has place field value) {steps : List Step}
    (spares : StepsSpare place field steps) (scalar : incoming.IsScalar) :
    (setAt steps incoming tree).Has place field value := by
  match steps, spares with
  | [.name first], apart =>
    have shape : setAt [.name first] incoming tree = assign first tree incoming := rfl
    rw [shape, assign_scalar first tree scalar]
    exact has.put_elsewhere apart incoming
  | .name first :: .index position :: deeper, apart =>
    obtain ⟨inner, shape, -⟩ := setAt_deep first (.index position) deeper scalar tree
    rw [shape]
    exact has.put_elsewhere apart _
  | .name first :: .name second :: deeper, apart =>
    obtain ⟨inner, shape, beside⟩ := setAt_deep first (.name second) deeper scalar tree
    rw [shape]
    by_cases elsewhere : first = place
    case neg => exact has.put_elsewhere elsewhere _
    subst elsewhere
    obtain ⟨fields, placed, held⟩ := has
    obtain ⟨new, changed⟩ := beside second rfl (table fields)
    rw [placed, Option.getD_some, changed]
    exact Has.put_beside ⟨fields, placed, held⟩ (apart.resolve_left (· rfl)) new placed

theorem set_eq_setAt (key : String) (value tree : SettingTree) :
    set key value tree = setAt (stepsOf key) value tree := by
  unfold set stepsOf
  cases steps? key.toList <;> rfl

theorem has_set_spared (has : tree.Has place field value) {key : String}
    (spares : Spares place field key) (scalar : incoming.IsScalar) :
    (set key incoming tree).Has place field value := by
  rw [set_eq_setAt]
  exact has_setAt_spared has spares scalar

theorem has_overlay_spared (has : tree.Has place field value)
    {entries : List (String × SettingTree)}
    (spared : ∀ entry ∈ entries, Spares place field entry.1 ∧ entry.2.IsScalar) :
    (overlay entries tree).Has place field value := by
  unfold overlay
  induction entries generalizing tree with
  | nil => exact has
  | cons entry entries ih =>
    obtain ⟨spares, scalar⟩ := spared entry List.mem_cons_self
    exact ih (has_set_spared has spares scalar) fun other member =>
      spared other (List.mem_cons_of_mem _ member)

theorem has_overlay (before after : List (String × SettingTree)) {key : String}
    (leads : stepsOf key = [.name place, .name field]) (scalar : value.IsScalar)
    (spared : ∀ entry ∈ after, Spares place field entry.1 ∧ entry.2.IsScalar)
    (tree : SettingTree) :
    (overlay (before ++ (key, value) :: after) tree).Has place field value := by
  have own (tree : SettingTree) : (set key value tree).Has place field value := by
    rw [set_eq_setAt, leads]
    exact has_setAt_own scalar tree
  rw [overlay, List.foldl_append, List.foldl_cons]
  exact has_overlay_spared (own _) spared

end Enrolment.SettingTree
