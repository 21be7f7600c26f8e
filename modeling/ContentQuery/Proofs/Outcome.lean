/-
# Outcomes of steps in sequence

A sequence of steps that can fail succeeds exactly when each of its steps does. The inversions of
a compilation start from these facts.
-/

namespace ContentQuery.Outcome

variable {ε α β : Type}

/-- A sequence succeeds when its first step does and the rest does from there. -/
theorem bind_eq_ok {first : Except ε α} {rest : α → Except ε β} {result : β} :
    first >>= rest = .ok result ↔ ∃ value, first = .ok value ∧ rest value = .ok result := by
  cases first with
  | error error => simp [bind, Except.bind]
  | ok value => simp [bind, Except.bind]

/-- A mapped step succeeds when the step does. -/
theorem map_eq_ok {first : Except ε α} {f : α → β} {result : β} :
    f <$> first = .ok result ↔ ∃ value, first = .ok value ∧ f value = result := by
  cases first with
  | error error => simp [Functor.map, Except.map]
  | ok value => simp [Functor.map, Except.map]

/-- A walk over a list succeeds when each of its steps does. -/
theorem mapM_cons_eq_ok {f : α → Except ε β} {first : α} {rest : List α} {results : List β} :
    (first :: rest).mapM f = .ok results ↔
      ∃ result others, f first = .ok result ∧ rest.mapM f = .ok others ∧
        result :: others = results := by
  rw [List.mapM_cons, bind_eq_ok]
  refine exists_congr fun result => ?_
  rw [bind_eq_ok]
  constructor
  · rintro ⟨hresult, others, hothers, hcons⟩
    exact ⟨others, hresult, hothers, Except.ok.inj hcons⟩
  · rintro ⟨others, hresult, hothers, rfl⟩
    exact ⟨hresult, others, hothers, rfl⟩

end ContentQuery.Outcome
