import Mathlib.Tactic.Common

/-! # Readings in a row

A reading made of steps succeeds when every step does, and fails with the fault of the
first step that fails.
-/

namespace CompactHttp

variable {ε α β : Type} {reading : Except ε α}

/-- Readings one after the other succeed if each of them does. -/
theorem bind_eq_ok_iff {next : α → Except ε β} {result : β} :
    reading >>= next = .ok result ↔ ∃ value, reading = .ok value ∧ next value = .ok result := by
  cases reading with
  | error fault => exact ⟨nofun, fun ⟨_, read, _⟩ => nomatch read⟩
  | ok value => exact ⟨fun read => ⟨value, rfl, read⟩, fun ⟨_, rfl, read⟩ => read⟩

/-- Readings one after the other fail with the first that does. -/
theorem bind_eq_error_iff {next : α → Except ε β} {fault : ε} :
    reading >>= next = .error fault ↔
      reading = .error fault ∨ ∃ value, reading = .ok value ∧ next value = .error fault := by
  cases reading with
  | error cause =>
    constructor
    · intro failed
      cases failed
      exact .inl rfl
    · rintro (failed | ⟨_, read, _⟩)
      · cases failed
        rfl
      · cases read
  | ok value =>
    refine ⟨fun failed => .inr ⟨value, rfl, failed⟩, ?_⟩
    rintro (failed | ⟨_, ⟨rfl⟩, failed⟩)
    · cases failed
    · exact failed

/-- A view of a result is there if the result is. -/
theorem map_eq_ok_iff {view : α → β} {result : β} :
    reading.map view = .ok result ↔ ∃ value, reading = .ok value ∧ view value = result := by
  cases reading with
  | error fault => exact ⟨nofun, fun ⟨_, read, _⟩ => nomatch read⟩
  | ok value =>
    refine ⟨fun read => ⟨value, rfl, Except.ok.inj read⟩, ?_⟩
    rintro ⟨_, ⟨rfl⟩, rfl⟩
    rfl

/-- A view of a result fails only with the reading of it. -/
theorem map_eq_error_iff {view : α → β} {fault : ε} :
    reading.map view = .error fault ↔ reading = .error fault := by
  cases reading with
  | error cause =>
    constructor
    · intro failed
      cases failed
      rfl
    · intro failed
      cases failed
      rfl
  | ok value => exact ⟨nofun, nofun⟩

end CompactHttp
