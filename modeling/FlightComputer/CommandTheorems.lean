import FlightComputer.ArmTheorems
import FlightComputer.RollControl
import FlightComputer.Utils.Keywords

/-!
# Which datagrams are commands

`COMPARE_BUFFER_TO_CMD` compares at most as many characters as the datagram has, so a
datagram that breaks off within a command passes for it (`compareBufferToCmd_iff`). Both
command handlers look a datagram up in a table of commands with that test, and do what the
command found says; they recognise complete commands only, but for the datagrams that break
off (`commands_exact_iff`).
-/

namespace FlightComputer

/-! ## Comparing a buffer with a command -/

/-- The comparison of a buffer with a word, terminator included, over the length of the
buffer. -/
theorem strncmp_word_eq_zero_iff {w : Bytes} (hw : 0 ∉ w) (a : Bytes) :
    strncmp a (w ++ [0]) (min a.length (w.length + 1)) = 0 ↔ a <+: w ∨ w ++ [0] <+: a := by
  induction w generalizing a with
  | nil =>
    cases a with
    | nil => simp [strncmp]
    | cons b a =>
      have hlen : min (b :: a).length (([] : Bytes).length + 1) = 0 + 1 := by
        rw [List.length_cons, List.length_nil]
        omega
      rw [hlen, strncmp]
      by_cases hb : b = 0
      · simp [hb]
      · have hb' : (0 : UInt8) ≠ b := fun h => hb h.symm
        have hval : b.toNat ≠ 0 := fun h => hb (UInt8.toNat_inj.mp h)
        simp [hb, hb', hval]
  | cons c w ih =>
    rw [List.mem_cons, not_or] at hw
    cases a with
    | nil => simp [strncmp]
    | cons b a =>
      have hlen : min (b :: a).length ((c :: w).length + 1) = min a.length (w.length + 1) + 1 := by
        rw [List.length_cons, List.length_cons]
        omega
      rw [hlen, strncmp, List.cons_append, List.headD_cons, List.headD_cons, List.tail_cons,
        List.tail_cons, List.cons_prefix_cons, List.cons_prefix_cons]
      by_cases hbc : b = c
      · subst hbc
        rw [if_neg (not_not.mpr rfl), if_neg (Ne.symm hw.1), ih hw.2]
        simp
      · have hcb : ¬c = b := fun h => hbc h.symm
        have hval : b.toNat ≠ c.toNat := fun h => hbc (UInt8.toNat_inj.mp h)
        rw [if_pos hbc]
        simp only [hbc, hcb, false_and, or_self, iff_false]
        omega

/-- **The test for a command.** The buffer is the start of the command, or the command
followed by a terminator. -/
theorem compareBufferToCmd_iff {cmd : String} (hcmd : 0 ∉ ascii cmd) (a : Bytes) :
    compareBufferToCmd a cmd = true ↔ a <+: ascii cmd ∨ ascii cmd ++ [0] <+: a := by
  have hlen : (if (literal cmd).length > a.length then a.length else (literal cmd).length) =
      min a.length ((ascii cmd).length + 1) := by
    have hliteral : (literal cmd).length = (ascii cmd).length + 1 := by
      rw [literal, List.length_append, List.length_singleton]
    split_ifs with h
    · omega
    · omega
  unfold compareBufferToCmd
  rw [hlen, decide_eq_true_eq]
  exact strncmp_word_eq_zero_iff hcmd a

/-! ## Tables of commands -/

/-- The first command of a table the buffer passes for. -/
def lookup (table : List String) (a : Bytes) : Option String :=
  table.find? (compareBufferToCmd a)

/-- A handler does what a command says on complete commands, and on nothing else: the command
is what the buffer holds up to its first NUL or its end. -/
def ExactCommands {τ : Type} (table : List String) (handle : Bytes → τ) (unknown : τ)
    (a : Bytes) : Prop :=
  (∀ cmd ∈ table, handle a = handle (ascii cmd) ↔ upTo 0 a = ascii cmd) ∧
    ((∀ cmd ∈ table, upTo 0 a ≠ ascii cmd) → handle a = unknown)

/-- A handler that looks the command up is exact but for the buffers that break off. -/
theorem exactCommands_iff {τ : Type} {table : List String} {handle : Bytes → τ} {unknown : τ}
    (hnul : ∀ cmd ∈ table, 0 ∉ ascii cmd)
    (hfree : ∀ cmd ∈ table, ∀ cmd' ∈ table, ascii cmd <+: ascii cmd' → cmd = cmd')
    (hself : ∀ cmd ∈ table, lookup table (ascii cmd) = some cmd)
    (hhandle : ∀ a b, handle a = handle b ↔ lookup table a = lookup table b)
    (hunknown : ∀ a, handle a = unknown ↔ lookup table a = none) (a : Bytes) :
    ExactCommands table handle unknown a ↔
      ∀ cmd ∈ table, ¬(a <+: ascii cmd ∧ a ≠ ascii cmd) := by
  have htest : ∀ cmd ∈ table, compareBufferToCmd a cmd = true ↔
      a <+: ascii cmd ∨ ascii cmd ++ [0] <+: a :=
    fun cmd hcmd => compareBufferToCmd_iff (hnul cmd hcmd) a
  have hlookup : ∀ cmd ∈ table, handle a = handle (ascii cmd) ↔ lookup table a = some cmd := by
    intro cmd hcmd
    rw [hhandle, hself cmd hcmd]
  rw [← find_exact_iff hnul hfree htest]
  unfold ExactCommands
  rw [hunknown]
  refine and_congr_left fun _ => ?_
  refine forall₂_congr fun cmd hcmd => ?_
  rw [hlookup cmd hcmd]
  rfl

/-! ## The commands of `arm.c` -/

namespace Arm

/-- The commands, in the order they are compared in. -/
def armCommands : List String := ["#YOLO", "#SAFE", "EN_SLOCK", "DI_SLOCK"]

/-- What a command stands for. -/
def commandOf : Option String → Command
  | none => .unknown
  | some cmd =>
    if cmd = "#YOLO" then .arm
    else if cmd = "#SAFE" then .safe
    else if cmd = "EN_SLOCK" then .enSlock
    else if cmd = "DI_SLOCK" then .diSlock
    else .unknown

theorem recognise_eq_lookup (a : Bytes) : recognise a = commandOf (lookup armCommands a) := by
  unfold recognise lookup armCommands
  simp only [List.find?_cons, List.find?_nil]
  by_cases harm : compareBufferToCmd a "#YOLO" = true
  · simp [harm, commandOf]
  · by_cases hsafe : compareBufferToCmd a "#SAFE" = true
    · simp [harm, hsafe, commandOf]
    · by_cases hen : compareBufferToCmd a "EN_SLOCK" = true
      · simp [harm, hsafe, hen, commandOf]
      · by_cases hdi : compareBufferToCmd a "DI_SLOCK" = true
        · simp [harm, hsafe, hen, hdi, commandOf]
        · simp [harm, hsafe, hen, hdi, commandOf]

theorem lookup_armCommands_cases (a : Bytes) :
    lookup armCommands a = none ∨ ∃ cmd ∈ armCommands, lookup armCommands a = some cmd := by
  cases h : lookup armCommands a with
  | none => exact Or.inl rfl
  | some cmd => exact Or.inr ⟨cmd, List.mem_of_find?_eq_some h, rfl⟩

/-- Commands are told apart. -/
theorem recognise_eq_iff (a b : Bytes) :
    recognise a = recognise b ↔ lookup armCommands a = lookup armCommands b := by
  have hinj : ∀ cmd ∈ armCommands, ∀ cmd' ∈ armCommands,
      commandOf (some cmd) = commandOf (some cmd') → cmd = cmd' := by decide
  have hknown : ∀ cmd ∈ armCommands, commandOf (some cmd) ≠ .unknown := by decide
  rw [recognise_eq_lookup, recognise_eq_lookup]
  constructor
  · intro h
    rcases lookup_armCommands_cases a with ha | ⟨cmd, hcmd, ha⟩
    · rcases lookup_armCommands_cases b with hb | ⟨cmd', hcmd', hb⟩
      · rw [ha, hb]
      · rw [ha, hb] at h
        exact absurd h.symm (hknown cmd' hcmd')
    · rcases lookup_armCommands_cases b with hb | ⟨cmd', hcmd', hb⟩
      · rw [ha, hb] at h
        exact absurd h (hknown cmd hcmd)
      · rw [ha, hb] at h ⊢
        rw [hinj cmd hcmd cmd' hcmd' h]
  · intro h
    rw [h]

theorem recognise_eq_unknown_iff (a : Bytes) :
    recognise a = .unknown ↔ lookup armCommands a = none := by
  have hnone : recognise [0] = .unknown := by decide
  have hlookup : lookup armCommands [0] = none := by decide
  rw [← hnone, recognise_eq_iff, hlookup]

/-- The command an answer is to. -/
def commandAnswered (out : List Output) : Command :=
  match out.getLast? with
  | some (.sendArmResponse "successful ARM") => .arm
  | some (.sendArmResponse "ARM failed due to sensor lock") => .arm
  | some (.sendArmResponse "successful SAFE") => .safe
  | some (.sendArmResponse "successful EN_SLOCK") => .enSlock
  | some (.sendArmResponse "Sensor Lock Overridden") => .diSlock
  | _ => .unknown

/-- Every command has answers of its own. -/
theorem commandAnswered_armRawIn (a : Bytes) (s : State) :
    commandAnswered (armRawIn a s).2 = recognise a := by
  unfold armRawIn
  cases recognise a with
  | arm =>
    dsimp only
    split_ifs
    · rfl
    · rfl
  | safe => rfl
  | enSlock => rfl
  | diSlock => rfl
  | unknown => rfl

theorem armRawIn_eq_iff (a b : Bytes) (s : State) :
    armRawIn a s = armRawIn b s ↔ recognise a = recognise b := by
  constructor
  · intro h
    rw [← commandAnswered_armRawIn a s, ← commandAnswered_armRawIn b s, h]
  · intro h
    unfold armRawIn
    rw [h]

theorem armRawIn_eq_unknown_iff (a : Bytes) (s : State) :
    armRawIn a s = (s, [.sendArmResponse "UNKNOWN COMMAND"]) ↔ recognise a = .unknown := by
  have hnone : armRawIn [0] s = (s, [.sendArmResponse "UNKNOWN COMMAND"]) := rfl
  have hunknown : recognise [0] = .unknown := by decide
  rw [← hnone, armRawIn_eq_iff, hunknown]

end Arm

/-! ## The commands of `rollcontrol.c` -/

namespace RollControl

variable {K : Type} [Field K] [LinearOrder K]

/-- The commands, in the order they are compared in. -/
def servoCommands : List String := ["ENABLE", "DISABLE"]

/-- What is done on a command while not armed. -/
def servoCommand (clock : Timestamp) (s : State K) : Option String → State K × List (Output K)
  | some "ENABLE" =>
    (setServoEnable true s, [.sendServoResponse "Roll control servos enabled"])
  | some "DISABLE" =>
    (setServoEnable false s, setCanardAngle clock 0 (setServoEnable false s) ++
      [.sendServoResponse "Roll control servos disabled"])
  | _ => (s, [.sendServoResponse "Unknown servo command"])

theorem lookup_servoCommands (a : Bytes) :
    lookup servoCommands a =
      if compareBufferToCmd a "ENABLE" = true then some "ENABLE"
      else if compareBufferToCmd a "DISABLE" = true then some "DISABLE"
      else none := by
  unfold lookup servoCommands
  simp only [List.find?_cons, List.find?_nil]
  by_cases hen : compareBufferToCmd a "ENABLE" = true
  · simp [hen]
  · by_cases hdis : compareBufferToCmd a "DISABLE" = true
    · simp [hen, hdis]
    · simp [hen, hdis]

/-- While not armed, a test command does what the command found says. -/
theorem rcRawTestrc_eq_servoCommand (clock : Timestamp) (a : Bytes) {s : State K}
    (h : s.armed = false) :
    rcRawTestrc clock a s = servoCommand clock s (lookup servoCommands a) := by
  rw [lookup_servoCommands]
  unfold rcRawTestrc
  rw [if_pos (by rw [h]; rfl)]
  split_ifs
  · rfl
  · rfl
  · rfl

/-- The command an answer is to. -/
def commandAnswered (out : List (Output K)) : Option String :=
  match out.getLast? with
  | some (.sendServoResponse "Roll control servos enabled") => some "ENABLE"
  | some (.sendServoResponse "Roll control servos disabled") => some "DISABLE"
  | _ => none

theorem commandAnswered_rcRawTestrc (clock : Timestamp) (a : Bytes) {s : State K}
    (h : s.armed = false) :
    commandAnswered (rcRawTestrc clock a s).2 = lookup servoCommands a := by
  rw [rcRawTestrc_eq_servoCommand clock a h, lookup_servoCommands]
  split_ifs
  · rfl
  · rfl
  · rfl

theorem rcRawTestrc_eq_iff (clock : Timestamp) (a b : Bytes) {s : State K}
    (h : s.armed = false) :
    rcRawTestrc clock a s = rcRawTestrc clock b s ↔
      lookup servoCommands a = lookup servoCommands b := by
  constructor
  · intro heq
    rw [← commandAnswered_rcRawTestrc clock a h, ← commandAnswered_rcRawTestrc clock b h, heq]
  · intro heq
    rw [rcRawTestrc_eq_servoCommand clock a h, rcRawTestrc_eq_servoCommand clock b h, heq]

theorem rcRawTestrc_eq_unknown_iff (clock : Timestamp) (a : Bytes) {s : State K}
    (h : s.armed = false) :
    rcRawTestrc clock a s = (s, [.sendServoResponse "Unknown servo command"]) ↔
      lookup servoCommands a = none := by
  have hnone : lookup servoCommands [0] = none := by decide
  have hunknown : rcRawTestrc clock [0] s =
      (s, [.sendServoResponse "Unknown servo command"]) := by
    rw [rcRawTestrc_eq_servoCommand clock [0] h, hnone]
    rfl
  rw [← hunknown, rcRawTestrc_eq_iff clock a [0] h, hnone]

end RollControl

/-! ## Complete commands -/

section

open Arm RollControl

variable {K : Type} [Field K] [LinearOrder K]

/-- **Complete commands.** In every state, a datagram for `arm.c`, or, while not armed, for
`rollcontrol.c`, does what a command says exactly if it holds that command, and is answered as
unknown otherwise: this holds exactly if the datagram does not break off within a command. -/
theorem commands_exact_iff (a : Bytes) :
    ((∀ s, ExactCommands armCommands (fun a => armRawIn a s)
          (s, [.sendArmResponse "UNKNOWN COMMAND"]) a) ↔
        ∀ cmd ∈ armCommands, ¬(a <+: ascii cmd ∧ a ≠ ascii cmd)) ∧
      ((∀ clock, ∀ s : RollControl.State K, s.armed = false →
          ExactCommands servoCommands (fun a => rcRawTestrc clock a s)
            (s, [.sendServoResponse "Unknown servo command"]) a) ↔
        ∀ cmd ∈ servoCommands, ¬(a <+: ascii cmd ∧ a ≠ ascii cmd)) := by
  have harm : ∀ s, ExactCommands armCommands (fun a => armRawIn a s)
        (s, [.sendArmResponse "UNKNOWN COMMAND"]) a ↔
      ∀ cmd ∈ armCommands, ¬(a <+: ascii cmd ∧ a ≠ ascii cmd) := by
    intro s
    apply exactCommands_iff
    · decide
    · decide
    · decide
    · intro a b
      rw [armRawIn_eq_iff, recognise_eq_iff]
    · intro a
      rw [armRawIn_eq_unknown_iff, recognise_eq_unknown_iff]
  have hservo : ∀ clock, ∀ s : RollControl.State K, s.armed = false →
      (ExactCommands servoCommands (fun a => rcRawTestrc clock a s)
          (s, [.sendServoResponse "Unknown servo command"]) a ↔
        ∀ cmd ∈ servoCommands, ¬(a <+: ascii cmd ∧ a ≠ ascii cmd)) := by
    intro clock s hs
    apply exactCommands_iff
    · decide
    · decide
    · decide
    · exact fun a b => rcRawTestrc_eq_iff clock a b hs
    · exact fun a => rcRawTestrc_eq_unknown_iff clock a hs
  refine ⟨⟨fun h => (harm armInit).mp (h armInit), fun h s => (harm s).mpr h⟩, ?_, ?_⟩
  · intro h
    exact (hservo (Vector.replicate 6 0) rollcontrolInit rfl).mp (h _ rollcontrolInit rfl)
  · intro h clock s hs
    exact (hservo clock s hs).mpr h

/-- A single `#` arms the rocket, and an `E` enables the servo. -/
theorem commands_break_off :
    ¬ExactCommands armCommands
        (fun a => armRawIn a { slockEnable := false, gpsLocked := false, upright := 0 })
        ({ slockEnable := false, gpsLocked := false, upright := 0 },
          [.sendArmResponse "UNKNOWN COMMAND"]) (ascii "#") ∧
      armRawIn (ascii "#") { slockEnable := false, gpsLocked := false, upright := 0 } =
        ({ slockEnable := false, gpsLocked := false, upright := 0 },
          [.armSendSignal "ARM", .sendArmResponse "successful ARM"]) ∧
      (rcRawTestrc (Vector.replicate 6 0) (ascii "E")
        (rollcontrolInit : RollControl.State ℚ)).1.enableServo = true := by
  refine ⟨?_, by decide, by decide⟩
  unfold ExactCommands
  decide

end

end FlightComputer
