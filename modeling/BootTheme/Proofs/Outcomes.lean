/-!
# Steps that may fail

A sequence of steps succeeds only if every step does, what is said about a failure changes no
success, and a success is told by anything that is seen of it.
-/

namespace BootTheme

variable {ε δ β γ : Type}

/-- The first of two steps that succeed has succeeded. -/
theorem exists_of_bind_eq_ok {first : Except ε β} {next : β → Except ε γ} {value : γ}
    (fine : first >>= next = .ok value) :
    ∃ middle, first = .ok middle ∧ next middle = .ok value := by
  cases first with
  | error fault => cases fine
  | ok middle => exact ⟨middle, rfl, fine⟩

/-- Another account of a failure changes no success. -/
theorem mapError_eq_ok {tell : ε → δ} {result : Except ε β} {value : β} :
    result.mapError tell = .ok value ↔ result = .ok value := by
  cases result with
  | error fault =>
      constructor
      · intro impossible
        cases impossible
      · intro impossible
        cases impossible
  | ok found =>
      constructor
      · intro fine
        cases fine
        rfl
      · intro fine
        cases fine
        rfl

/-- What a success is mapped to tells that there is one. -/
theorem exists_of_map_toOption {result : Except ε β} {view : β → γ} {value : γ}
    (seen : result.toOption.map view = some value) :
    ∃ found, result = .ok found ∧ view found = value := by
  cases result with
  | error fault => cases seen
  | ok found => exact ⟨found, rfl, Option.some.inj seen⟩

end BootTheme
