import StatTable.Proofs.Lists

set_option autoImplicit false

namespace StatTable

theorem bind_ok {ε α β : Type} (result : Except ε α) (next : α → Except ε β) (b : β) :
    (result >>= next) = .ok b ↔ ∃ a, result = .ok a ∧ next a = .ok b := by
  cases result <;> simp [bind, Except.bind]

theorem map_ok {ε α β : Type} (result : Except ε α) (f : α → β) (b : β) :
    result.map f = .ok b ↔ ∃ a, result = .ok a ∧ f a = b := by
  cases result <;> simp [Except.map]

theorem map_error_ok {ε δ α : Type} (result : Except ε α) (f : ε → δ) (a : α) :
    result.mapError f = .ok a ↔ result = .ok a := by
  cases result <;> simp [Except.mapError]

theorem ok_of_is_ok {ε α : Type} (result : Except ε α) (other : α) (ok : result.isOk = true) :
    result = .ok (result.toOption.getD other) := by
  cases result with
  | error => simp [Except.isOk, Except.toBool] at ok
  | ok => rfl

theorem map_m_ok {ε α β : Type} (f : α → Except ε β) (items : List α) (results : List β)
    (ok : items.mapM f = .ok results) : List.Forall₂ (fun a b => f a = .ok b) items results := by
  induction items generalizing results with
  | nil =>
      have none : results = [] := by simpa [pure, Except.pure] using ok.symm
      exact none ▸ .nil
  | cons item rest ih =>
      rw [List.mapM_cons] at ok
      obtain ⟨b, first, ok⟩ := (bind_ok _ _ _).mp ok
      obtain ⟨others, further, ok⟩ := (bind_ok _ _ _).mp ok
      rw [← Except.ok.inj ok]
      exact .cons first (ih others further)

theorem map_m_of_related {ε α β : Type} (f : α → Except ε β) (items : List α) (results : List β)
    (related : List.Forall₂ (fun a b => f a = .ok b) items results) : items.mapM f = .ok results := by
  induction related with
  | nil => rfl
  | cons first _ ih => rw [List.mapM_cons, first, ih]; rfl

theorem map_m_each {ε α β : Type} (f : α → Except ε β) (items : List α)
    (each : ∀ a ∈ items, ∃ b, f a = .ok b) : ∃ results, items.mapM f = .ok results := by
  induction items with
  | nil => exact ⟨[], rfl⟩
  | cons item rest ih =>
      rw [List.forall_mem_cons] at each
      obtain ⟨b, first⟩ := each.1
      obtain ⟨others, further⟩ := ih each.2
      exact ⟨b :: others, by rw [List.mapM_cons, first, further]; rfl⟩

def failure? {ε α : Type} : Except ε α → Option ε
  | .ok _ => none
  | .error error => some error

theorem map_failure {ε α β : Type} (f : α → β) (result : Except ε α) :
    failure? (result.map f) = failure? result := by
  cases result <;> rfl

theorem both_failure {ε α β γ : Type} (f : α → β → γ) (first : Except ε α) (second : Except ε β) :
    failure? (do return f (← first) (← second)) = (failure? first).or (failure? second) := by
  cases first <;> cases second <;> rfl

theorem map_m_failure {ε α β : Type} (f : α → Except ε β) (items : List α) :
    failure? (items.mapM f) = items.findSome? fun item => failure? (f item) := by
  induction items with
  | nil => rfl
  | cons item rest ih =>
      rw [List.mapM_cons, List.findSome?_cons, ← ih]
      cases f item with
      | error error => rfl
      | ok b => cases rest.mapM f <;> rfl

theorem map_m_related {α β : Type} (f : α → Option β) (items : List α) (results : List β) :
    items.mapM f = some results ↔
      List.Forall₂ (fun item result => f item = some result) items results := by
  induction items generalizing results with
  | nil =>
      constructor
      · intro ok
        obtain rfl : [] = results := Option.some.inj ok
        exact .nil
      · intro related
        cases related
        rfl
  | cons item rest ih =>
      rw [List.mapM_cons]
      constructor
      · intro ok
        obtain ⟨first, firstOk, ok⟩ := Option.bind_eq_some_iff.mp ok
        obtain ⟨others, othersOk, ok⟩ := Option.bind_eq_some_iff.mp ok
        obtain rfl : first :: others = results := Option.some.inj ok
        exact .cons firstOk ((ih others).mp othersOk)
      · intro related
        cases related with
        | cons firstOk othersOk =>
            rw [firstOk, (ih _).mpr othersOk]
            rfl

theorem map_m_mem {α β : Type} (f : α → Option β) (items : List α) (results : List β)
    (ok : items.mapM f = some results) (b : β) : b ∈ results ↔ ∃ item ∈ items, f item = some b := by
  have related := (map_m_related f items results).mp ok
  constructor
  · exact fun member => forall_right _ _ _ related b member
  · rintro ⟨item, member, found⟩
    obtain ⟨other, otherMember, otherFound⟩ := forall_left _ _ _ related item member
    rw [found] at otherFound
    exact Option.some.inj otherFound ▸ otherMember

theorem map_m_some_iff {α β : Type} (f : α → Option β) (items : List α) :
    (∃ results, items.mapM f = some results) ↔ ∀ item ∈ items, ∃ b, f item = some b := by
  induction items with
  | nil => exact ⟨fun _ item member => absurd member List.not_mem_nil, fun _ => ⟨[], rfl⟩⟩
  | cons item rest ih =>
      rw [List.forall_mem_cons, ← ih]
      simp only [map_m_related]
      constructor
      · rintro ⟨results, related⟩
        cases related with
        | cons first others => exact ⟨⟨_, first⟩, ⟨_, others⟩⟩
      · rintro ⟨⟨first, firstOk⟩, ⟨others, othersOk⟩⟩
        exact ⟨first :: others, .cons firstOk othersOk⟩

theorem map_m_none_iff {α β : Type} (f : α → Option β) (items : List α) :
    items.mapM f = none ↔ ∃ item ∈ items, f item = none := by
  rw [← not_iff_not, ← ne_eq, Option.ne_none_iff_exists', map_m_some_iff]
  simp only [not_exists, not_and, ← ne_eq, Option.ne_none_iff_exists']

theorem map_m_some {α β : Type} (f : α → Option β) (items : List α) (results : List β)
    (some : items ≠ []) (ok : items.mapM f = .some results) : results ≠ [] := by
  cases items with
  | nil => exact absurd rfl some
  | cons first rest =>
      rw [List.mapM_cons] at ok
      obtain ⟨b, _, ok⟩ := Option.bind_eq_some_iff.mp ok
      obtain ⟨others, _, ok⟩ := Option.bind_eq_some_iff.mp ok
      rw [← Option.some.inj ok]
      exact List.cons_ne_nil b others

theorem related_none {α β : Type} (R : α → β → Prop) (found : Option β)
    (related : Option.Rel R none found) : found = none := by
  cases related
  rfl

theorem related_some {α β : Type} (R : α → β → Prop) (a : α) (found : Option β)
    (related : Option.Rel R (some a) found) : ∃ b, found = some b ∧ R a b := by
  cases related with
  | some own => exact ⟨_, rfl, own⟩

end StatTable
