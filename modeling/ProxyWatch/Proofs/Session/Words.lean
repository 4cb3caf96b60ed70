import ProxyWatch.Proofs.Session.Told

/-! The words that the reported states of a session form. -/
namespace ProxyWatch

open RegularExpression

/-- The reports of an attempt before it is confirmed. -/
def startWord : RegularExpression SessionState := char .starting

/-- The reports of an attempt that was confirmed. -/
def runWord : RegularExpression SessionState := char .starting * char .running

/-- The reports of an attempt that goes on. -/
def attemptWord : RegularExpression SessionState := char .starting * (1 + char .running)

/-- The reports of an attempt that failed. -/
def failureWord : RegularExpression SessionState := attemptWord * char .retrying

/-- The reports of a whole session: failures, then an end. The session is stopped in or before an attempt, or
it finds no route, or it gives up right after a failure. -/
def sessionWord : RegularExpression SessionState :=
  failureWord.star * (attemptWord * char .stopped + char .stopped + char .starting * char .failed) +
    failureWord.star * (failureWord * char .failed)

/-- The reports of a session in a phase. -/
def Phase.word : Phase → RegularExpression SessionState
  | .fresh => 1
  | .launching _ | .confirming _ => failureWord.star * startWord
  | .running => failureWord.star * runWord
  | .ending _ | .killing => failureWord.star * attemptWord
  | .resting _ | .vanished => failureWord.star
  | .over => sessionWord

section
variable {w : List SessionState} {a b : SessionState} {p q : RegularExpression SessionState}

theorem concat_mem (h : w ∈ p.matches') : w ++ [a] ∈ (p * char a).matches' :=
  Language.append_mem_mul h rfl

theorem concat_starting (h : w ∈ failureWord.star.matches') :
    w ++ [.starting] ∈ (failureWord.star * startWord).matches' :=
  concat_mem h

theorem concat_running (h : w ∈ (failureWord.star * startWord).matches') :
    w ++ [.running] ∈ (failureWord.star * runWord).matches' := by
  simpa only [startWord, runWord, matches'_mul, mul_assoc] using concat_mem (a := .running) h

/-- A start is an attempt that goes on. -/
theorem starting_mem_attempt (h : w ∈ (p * startWord).matches') :
    w ∈ (p * attemptWord).matches' := by
  obtain ⟨u, hu, x, hx, rfl⟩ := h
  exact ⟨u, hu, x, ⟨x, hx, [], .inl rfl, by simp⟩, rfl⟩

/-- A confirmed start is an attempt that goes on. -/
theorem running_mem_attempt (h : w ∈ (p * runWord).matches') :
    w ∈ (p * attemptWord).matches' := by
  obtain ⟨u, hu, x, ⟨y, hy, z, hz, rfl⟩, rfl⟩ := h
  exact ⟨u, hu, _, ⟨y, hy, z, .inr hz, rfl⟩, rfl⟩

theorem concat_retrying (h : w ∈ (failureWord.star * attemptWord).matches') :
    w ++ [.retrying] ∈ (failureWord.star * failureWord).matches' := by
  simpa only [failureWord, matches'_mul, mul_assoc] using concat_mem (a := .retrying) h

/-- One more failure. -/
theorem failure_mem_star (h : w ∈ (failureWord.star * failureWord).matches') :
    w ∈ failureWord.star.matches' := by
  rw [matches'_mul, matches'_star] at h
  rw [matches'_star, ← Language.one_add_kstar_mul_self_eq_kstar]
  exact .inr h

theorem concat_stopped_of_attempt (h : w ∈ (failureWord.star * attemptWord).matches') :
    w ++ [.stopped] ∈ sessionWord.matches' := by
  obtain ⟨u, hu, x, hx, rfl⟩ := h
  exact .inl ⟨u, hu, _, .inl (.inl ⟨x, hx, _, rfl, rfl⟩), by simp⟩

theorem concat_stopped_of_star (h : w ∈ failureWord.star.matches') :
    w ++ [.stopped] ∈ sessionWord.matches' :=
  .inl ⟨w, h, _, .inl (.inr rfl), rfl⟩

theorem concat_refused (h : w ∈ failureWord.star.matches') :
    w ++ [.starting, .failed] ∈ sessionWord.matches' :=
  .inl ⟨w, h, _, .inr ⟨[.starting], rfl, [.failed], rfl, rfl⟩, rfl⟩

theorem concat_spent (h : w ∈ (failureWord.star * attemptWord).matches') :
    w ++ [.retrying, .failed] ∈ sessionWord.matches' := by
  obtain ⟨u, hu, x, hx, rfl⟩ := h
  exact .inr ⟨u, hu, _, ⟨_, ⟨x, hx, [.retrying], rfl, rfl⟩, [.failed], rfl, rfl⟩, by simp⟩

theorem nil_mem_star : [] ∈ failureWord.star.matches' := by
  rw [matches'_star]
  exact Language.nil_mem_kstar _

/-- What a session has reported so far can be completed. -/
theorem exists_append_mem_sessionWord {phase : Phase} (h : w ∈ phase.word.matches') :
    ∃ rest, w ++ rest ∈ sessionWord.matches' := by
  cases phase with
  | fresh =>
    obtain rfl : w = [] := h
    exact ⟨_, concat_stopped_of_star nil_mem_star⟩
  | launching _ | confirming _ => exact ⟨_, concat_stopped_of_attempt (starting_mem_attempt h)⟩
  | running => exact ⟨_, concat_stopped_of_attempt (running_mem_attempt h)⟩
  | ending _ | killing => exact ⟨_, concat_stopped_of_attempt h⟩
  | resting _ | vanished => exact ⟨_, concat_stopped_of_star h⟩
  | _ => exact ⟨[], by simpa [Phase.word] using h⟩

end
end ProxyWatch
