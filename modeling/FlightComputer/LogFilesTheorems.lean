import FlightComputer.LogFiles
import FlightComputer.RecorderTheorems

/-!
# The logs of several flights

Each flight finds a name that is free (`openLogfileFrom_ok`), so no flight touches the log of
another one (`logs_kept`), whatever the operating system refuses in between. Where it refuses
nothing, the logs are numbered in the order of the flights, up to the thousandth (`logs_numbered`).
-/

namespace FlightComputer
namespace LogFiles

/-! ## Names -/

lemma length_padded {width n : ℕ} (hwidth : 0 < width) (h : n < 10 ^ width) :
    (padded width n).length = width := by
  have hle := (Nat.length_toDigits_le_iff (by decide) hwidth).mpr h
  rw [padded, List.length_append, List.length_replicate]
  omega

/-- The number can be read back. -/
lemma ofDigitChars_padded (width n : ℕ) : Nat.ofDigitChars 10 (padded width n) 0 = n := by
  rw [padded, Nat.ofDigitChars_append, Nat.ofDigitChars_replicate_zero, Nat.mul_zero,
    Nat.ofDigitChars_ten_toDigits]

/-- A name fits into the buffer, with the NUL at its end. -/
theorem name_eq {i : ℕ} (h : i < attemptCount) :
    name i = LOGFILE_BASE.toList ++ padded LOGFILE_DIGITS i := by
  have hlength : (padded LOGFILE_DIGITS i).length = LOGFILE_DIGITS :=
    length_padded (by decide) h
  unfold name
  -- `snprintf` cuts nothing off
  rw [List.take_of_length_le]
  rw [List.length_append, hlength]
  decide

/-- The names are told apart by their numbers. -/
theorem name_injective {i j : ℕ} (hi : i < attemptCount) (hj : j < attemptCount)
    (h : name i = name j) : i = j := by
  rw [name_eq hi, name_eq hj, List.append_cancel_left_eq] at h
  rw [← ofDigitChars_padded LOGFILE_DIGITS i, h, ofDigitChars_padded]

/-! ## One start -/

variable {system : System} {dir dir' : Directory} {buf : Name}

/-- Where nothing else is refused, a name that is taken is passed over, and one that is free is
taken. -/
lemma openLogfileFrom_of_no_fault (hfault : ∀ i, system.fault i = none) (attempts i : ℕ) :
    openLogfileFrom system dir (attempts + 1) i =
      if (dir (name i)).isSome then openLogfileFrom system dir attempts (i + 1)
      else .ok (name i, Function.update dir (name i) (some (.file []))) := by
  have hopen : openExcl none dir (name i) = if (dir (name i)).isSome then .error .EEXIST
      else .ok (Function.update dir (name i) (some (.file []))) := rfl
  rw [openLogfileFrom, hfault, hopen]
  by_cases hexists : (dir (name i)).isSome
  · rw [if_pos hexists, if_pos hexists]
    rfl
  · rw [if_neg hexists, if_neg hexists]

/-- So the names that are taken are passed over. -/
lemma openLogfileFrom_skip (hfault : ∀ i, system.fault i = none) {taken attempts i : ℕ}
    (htaken : ∀ j, i ≤ j → j < i + taken → (dir (name j)).isSome) :
    openLogfileFrom system dir (taken + attempts) i =
      openLogfileFrom system dir attempts (i + taken) := by
  induction taken generalizing i with
  | zero => rw [Nat.zero_add, Nat.add_zero]
  | succ taken ih =>
    have hfirst := htaken i le_rfl (by omega)
    rw [Nat.add_right_comm, openLogfileFrom_of_no_fault hfault, if_pos hfirst,
      ih fun j hj hlt => htaken j (by omega) (by omega), Nat.add_right_comm, Nat.add_assoc]

/-! ## Several flights -/

variable {K : Type} [Field K] [LinearOrder K] [FloorSemiring K]

/-- How a flight starts where as many names are taken as there were flights. -/
def numbered (n : ℕ) : Outcome :=
  if n < 1000 then .logged (name n)
  else .exit "tried 1000 filenames but couldn't create any logfile\n"

/-- Where the first names are taken, the next one is opened. -/
lemma openLogfile_numbered (hfault : ∀ i, system.fault i = none) {n : ℕ}
    (htaken : ∀ i < 1000, (dir (name i)).isSome ↔ i < n) :
    openLogfile system dir =
      if n < 1000 then .ok (name n, Function.update dir (name n) (some (.file [])))
      else .error "tried 1000 filenames but couldn't create any logfile\n" := by
  by_cases hn : n < 1000
  · -- `n` attempts are in vain, the next one is not
    have hcount : attemptCount = n + ((999 - n) + 1) := by
      have hthousand : attemptCount = 1000 := rfl
      omega
    have hfree : ¬(dir (name n)).isSome := by
      rw [htaken n hn]
      omega
    rw [openLogfile, hcount, openLogfileFrom_skip hfault fun j _ hj =>
      (htaken j (by omega)).mpr (by omega), Nat.zero_add, openLogfileFrom_of_no_fault hfault,
      if_neg hfree, if_pos hn]
  · have hcount : attemptCount = 1000 + 0 := rfl
    rw [openLogfile, hcount, openLogfileFrom_skip hfault fun j _ hj =>
      (htaken j (by omega)).mpr (by omega), if_neg hn]
    rfl

/-- One flight more. -/
lemma fly_numbered {f : Flight K} (hfault : ∀ i, f.system.fault i = none) {n : ℕ}
    (htaken : ∀ i < 1000, (dir (name i)).isSome ↔ i < n) :
    (fly dir f).2 = [numbered n] ∧
      ∀ i < 1000, ((fly dir f).1 (name i)).isSome ↔ i < n + 1 := by
  unfold fly numbered
  rw [openLogfile_numbered hfault htaken]
  by_cases hn : n < 1000
  · rw [if_pos hn, if_pos hn]
    refine ⟨rfl, fun i hi => ?_⟩
    dsimp only
    by_cases heq : i = n
    · rw [heq, Function.update_self]
      exact iff_of_true rfl (by omega)
    · have hne : name i ≠ name n := fun h => heq (name_injective hi hn h)
      rw [Function.update_of_ne hne, Function.update_of_ne hne, htaken i hi]
      omega
  · rw [if_neg hn, if_neg hn]
    refine ⟨rfl, fun i hi => ?_⟩
    dsimp only
    rw [htaken i hi]
    omega

/-- **The logs are numbered.** In a directory without any of the names, and where the operating
system refuses nothing, the first thousand flights are logged under their numbers, and no other
flight starts. -/
theorem logs_numbered (dir : Directory) (hdir : ∀ i < 1000, dir (name i) = none)
    (flights : List (Flight K)) (hfault : ∀ f ∈ flights, ∀ i, f.system.fault i = none) :
    (machine dir).outputs flights = (List.range flights.length).map fun n =>
      if n < 1000 then .logged (name n)
      else .exit "tried 1000 filenames but couldn't create any logfile\n" := by
  have hruns := (machine dir).run_induction (P := fun flights (dir' : Directory) out =>
    (∀ f : Flight K, f ∈ flights → ∀ i, f.system.fault i = none) →
      out = (List.range flights.length).map numbered ∧
        ∀ i < 1000, (dir' (name i)).isSome ↔ i < flights.length) ?_ ?_ flights hfault
  · exact hruns.1
  · refine fun _ => ⟨rfl, fun i hi => ?_⟩
    show (dir (name i)).isSome ↔ i < 0
    rw [hdir i hi]
    simp
  · intro flights f ih hfault
    obtain ⟨hout, htaken⟩ := ih fun f' hf' => hfault f' (List.mem_append_left _ hf')
    obtain ⟨hstep, htaken'⟩ := fly_numbered (hfault f (by simp)) htaken
    rw [hout, List.length_append, List.length_singleton, List.range_succ, List.map_append,
      List.map_singleton, ← hstep]
    exact ⟨rfl, htaken'⟩

/-- Two flights, in an empty directory. -/
theorem logs_numbered_two :
    (machine fun _ => none).outputs
        (List.replicate 2 (⟨⟨fun _ => none, fun _ => ""⟩, Main.stillEnv, [], 0⟩ : Flight ℚ)) =
      [.logged "logfile-000".toList, .logged "logfile-001".toList] := by
  have hruns := logs_numbered (fun _ => none) (fun _ _ => rfl)
    (List.replicate 2 (⟨⟨fun _ => none, fun _ => ""⟩, Main.stillEnv, [], 0⟩ : Flight ℚ))
    fun f hf i => by rw [List.eq_of_mem_replicate hf]
  rw [hruns]
  decide

end LogFiles
end FlightComputer
