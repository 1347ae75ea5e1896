import ComputeMonitor.Proofs.Calendar.Year
import ComputeMonitor.Proofs.Simulation.FakeClient
import ComputeMonitor.Simulation.Demo

/-!
The log of the simulated client.

Every message gets the next number, and the oldest are dropped, so the numbers that are held are consecutive
and end just below the next one. Writing changes nothing else but the numbers to be drawn. A message that is
later than the calendar goes is not written: the simulation crashes there and leaves everything as it is.
-/

set_option autoImplicit false

namespace ComputeMonitor.Simulation

open ComputeMonitor.Calendar (Timestamp startOfRange endOfRange)
open ComputeMonitor.Client

namespace Demo

section Standing

variable {demo : Demo} {result : Except Demo Demo} {next : Demo → Except Demo Demo}

@[simp]
theorem standing_ok : standing (.ok demo) = demo := rfl

theorem standing_bind {P : Demo → Prop} (stands : P (standing result))
    (onward : ∀ demo, P demo → P (standing (next demo))) : P (standing (result >>= next)) := by
  cases result with
  | error left => exact stands
  | ok demo => exact onward demo stands

end Standing

section Draws

variable {α : Type} (demo : Demo)

theorem draw_eq (drawn : Draw α) :
    demo.draw drawn = ((demo.draw drawn).1, { demo with random := (demo.draw drawn).2.random }) := rfl

theorem draw_yields {P : α → Prop} {drawn : Draw α} (yields : Yields drawn P) : P (demo.draw drawn).1 :=
  yields demo.random

end Draws

section Stamps

/-- The number of the last message that can be dated. -/
def lastDated : Nat := 35947867885

theorem toInt_toInt64_of_lt {seqno : UInt64} (small : seqno.toNat < 2 ^ 63) :
    seqno.toInt64.toInt = seqno.toNat :=
  BitVec.toInt_eq_toNat_of_lt (by change 2 * seqno.toNat < 2 ^ 64; omega)

theorem stamp?_eq_none_iff {seqno : UInt64} (small : seqno.toNat < 2 ^ 63) :
    stamp? seqno = none ↔ lastDated < seqno.toNat := by
  have reference : referenceTime.unixSeconds = 1767225600 := by decide
  have begins : startOfRange = -377705116800 := by decide
  have ends : endOfRange = 253402300800 := by decide
  have inRange := Timestamp.yearInRange_iff (referenceTime.unixSeconds + seqno.toInt64.toInt * 7) 0
  rw [toInt_toInt64_of_lt small, reference, begins, ends] at inRange
  rw [stamp?, Timestamp.ofUnixSeconds?, toInt_toInt64_of_lt small, reference, lastDated]
  split
  next dated =>
    have bounds := inRange.1 dated
    simp only [reduceCtorEq, false_iff]
    omega
  next undated =>
    have beyond := mt inRange.2 undated
    simp only [true_iff]
    omega

theorem makeMessage_yields (seqno : UInt64) (projectName : String) :
    Yields (makeMessage seqno projectName) fun drawn =>
      (drawn = none ↔ stamp? seqno = none) ∧ ∀ message, drawn = some message → message.seqno = seqno := by
  unfold makeMessage
  cases dated : stamp? seqno with
  | none => exact yields_bind fun _ => yields_pure (by simp)
  | some timestamp => exact yields_bind fun _ => yields_bind fun _ => yields_pure (by simp)

end Stamps

section Log

/-- The log ends just below the next number, without gaps, and no number is beyond the first that cannot be
dated. -/
structure LogSound (demo : Demo) : Prop where
  length : demo.document.messages.length ≤ messageLimit
  numbers : ∃ first, 1 ≤ first ∧ first + demo.document.messages.length = demo.nextSeqno.toNat ∧
    demo.document.messages.map (·.seqno.toNat) = List.range' first demo.document.messages.length
  early : demo.nextSeqno.toNat ≤ lastDated + 1

theorem LogSound.of_same {before after : Demo} (sound : before.LogSound)
    (sameMessages : after.document.messages = before.document.messages)
    (sameNumber : after.nextSeqno = before.nextSeqno) : after.LogSound where
  length := sameMessages ▸ sound.length
  numbers := by
    rw [sameMessages, sameNumber]
    exact sound.numbers
  early := sameNumber ▸ sound.early

theorem LogSound.lastSeqno_lt {demo : Demo} (sound : demo.LogSound) :
    demo.document.lastSeqno < demo.nextSeqno := by
  obtain ⟨first, positive, ends, numbers⟩ := sound.numbers
  rw [UInt64.lt_iff_toNat_lt, ← ends]
  unfold Document.lastSeqno
  split
  next last isLast =>
    have isNumber : last.seqno.toNat ∈ List.range' first demo.document.messages.length :=
      numbers ▸ List.mem_map_of_mem (List.mem_of_getLast? isLast)
    exact (List.mem_range'_1.1 isNumber).2
  next => exact Nat.lt_of_lt_of_le Nat.zero_lt_one (Nat.le_add_right_of_le positive)

theorem LogSound.stamp?_eq_none_iff {demo : Demo} (sound : demo.LogSound) :
    stamp? demo.nextSeqno = none ↔ demo.nextSeqno.toNat = lastDated + 1 := by
  have early := sound.early
  rw [Demo.stamp?_eq_none_iff (by rw [lastDated] at early; omega)]
  omega

section Write

variable {demo : Demo} {message : Message}

theorem write_state (demo : Demo) (message : Message) :
    (demo.write message).document.state = demo.document.state := by
  unfold write Document.appendMessages
  rfl

theorem LogSound.toNat_nextSeqno_write (sound : demo.LogSound) :
    (demo.write message).nextSeqno.toNat = demo.nextSeqno.toNat + 1 := by
  have early := sound.early
  rw [lastDated] at early
  rw [write, UInt64.toNat_add, UInt64.toNat_one, Nat.mod_eq_of_lt (by omega)]

/-- The next number is above all that are held, so that its message is taken. -/
theorem LogSound.write_messages (sound : demo.LogSound) (number : message.seqno = demo.nextSeqno) :
    (demo.write message).document.messages = newest messageLimit (demo.document.messages ++ [message]) := by
  have newer : demo.document.lastSeqno < message.seqno := number ▸ sound.lastSeqno_lt
  unfold write Document.appendMessages
  dsimp only
  rw [newerThan, if_pos newer, newerThan]

theorem LogSound.write (sound : demo.LogSound) (number : message.seqno = demo.nextSeqno)
    (room : demo.nextSeqno.toNat ≤ lastDated) : (demo.write message).LogSound := by
  have messages := sound.write_messages number
  have nextNumber : (demo.write message).nextSeqno.toNat = demo.nextSeqno.toNat + 1 :=
    sound.toNat_nextSeqno_write
  obtain ⟨first, positive, ends, numbers⟩ := sound.numbers
  refine ⟨?_, ?_, by omega⟩
  · rw [messages, newest, List.length_drop]
    omega
  · -- The numbers have no gap with the new one, and get none where the oldest are dropped.
    have whole : (demo.document.messages ++ [message]).map (·.seqno.toNat) =
        List.range' first (demo.document.messages.length + 1) := by
      rw [List.map_append, numbers, List.range'_1_concat, List.map_singleton, number, ends]
    refine ⟨first + (demo.document.messages.length + 1 - messageLimit), by omega, ?_, ?_⟩
    · rw [messages, nextNumber, newest, List.length_drop, List.length_append, List.length_singleton]
      omega
    · rw [messages, newest, List.map_drop, whole, List.drop_range', List.length_drop, List.length_append,
        List.length_singleton, Nat.mul_one]

end Write

/-- Everything that writing a message can do: it is written, or it cannot be dated and only numbers have been
drawn. -/
inductive LogCourse (demo : Demo) : Except Demo Demo → Prop where
  | written {random : Random} {message : Message} (dated : stamp? demo.nextSeqno ≠ none)
      (number : message.seqno = demo.nextSeqno) : LogCourse demo (.ok ({ demo with random }.write message))
  | crashed {random : Random} (undated : stamp? demo.nextSeqno = none) :
      LogCourse demo (.error { demo with random })

theorem log_course (demo : Demo) (projectName body : String) : LogCourse demo (demo.log projectName body) := by
  have yields := demo.draw_yields (makeMessage_yields demo.nextSeqno projectName)
  unfold log
  rw [draw_eq]
  generalize (demo.draw (makeMessage demo.nextSeqno projectName)).1 = drawn at yields ⊢
  obtain ⟨none_iff, number⟩ := yields
  cases drawn with
  | none => exact .crashed (none_iff.1 rfl)
  | some message => exact .written (mt none_iff.2 nofun) (number message rfl)

/-- At most so many messages are written, and the log stays sound. Only a message that cannot be dated
crashes. -/
def Writes (most : Nat) (before : Demo) (after : Except Demo Demo) : Prop :=
  before.LogSound → (standing after).LogSound ∧
    (standing after).nextSeqno.toNat ≤ before.nextSeqno.toNat + most ∧
    ∀ left, after = .error left → stamp? left.nextSeqno = none

theorem Writes.of_same {before after : Demo} (sameMessages : after.document.messages = before.document.messages)
    (sameNumber : after.nextSeqno = before.nextSeqno) : Writes 0 before (.ok after) :=
  fun sound => ⟨sound.of_same sameMessages sameNumber, sameNumber ▸ Nat.le_refl _, nofun⟩

theorem Writes.of_begun {before begun : Demo} {after : Except Demo Demo} {most : Nat}
    (writes : Writes most begun after) (sameMessages : begun.document.messages = before.document.messages)
    (sameNumber : begun.nextSeqno = before.nextSeqno) : Writes most before after :=
  fun sound => sameNumber ▸ writes (sound.of_same sameMessages sameNumber)

theorem Writes.bind {before : Demo} {result : Except Demo Demo} {next : Demo → Except Demo Demo}
    {first second : Nat} (begins : Writes first before result)
    (onward : ∀ middle, result = .ok middle → Writes second middle (next middle)) :
    Writes (first + second) before (result >>= next) := by
  intro sound
  obtain ⟨middleSound, atMost, undated⟩ := begins sound
  cases result with
  | error left => exact ⟨middleSound, atMost.trans (by omega), undated⟩
  | ok middle =>
    obtain ⟨afterSound, atMostAfter, crashes⟩ := onward middle rfl middleSound
    rw [standing_ok] at atMost
    exact ⟨afterSound, atMostAfter.trans (by omega), crashes⟩

theorem Writes.mono {before : Demo} {after : Except Demo Demo} {most more : Nat}
    (writes : Writes most before after) (le : most ≤ more) : Writes more before after := by
  intro sound
  obtain ⟨afterSound, atMost, undated⟩ := writes sound
  exact ⟨afterSound, by omega, undated⟩

structure Logs (most : Nat) (before : Demo) (after : Except Demo Demo) : Prop where
  state : (standing after).document.state = before.document.state
  nextTask : (standing after).nextTask = before.nextTask
  nextTransfer : (standing after).nextTransfer = before.nextTransfer
  writes : Writes most before after

theorem log_logs (demo : Demo) (projectName body : String) : Logs 1 demo (demo.log projectName body) := by
  have course := demo.log_course projectName body
  generalize demo.log projectName body = logged at course ⊢
  cases course with
  | crashed undated =>
    exact ⟨rfl, rfl, rfl, fun sound => ⟨sound.of_same rfl rfl, Nat.le_succ _, by rintro _ ⟨⟩; exact undated⟩⟩
  | @written random message dated number =>
    refine ⟨write_state _ message, rfl, rfl, fun sound => ?_⟩
    have drawn : ({ demo with random } : Demo).LogSound := sound.of_same rfl rfl
    have notLast := mt drawn.stamp?_eq_none_iff.2 dated
    have early := drawn.early
    exact ⟨drawn.write number (by omega), Nat.le_of_eq drawn.toNat_nextSeqno_write, nofun⟩

theorem logs_refl (demo : Demo) : Logs 0 demo (.ok demo) := ⟨rfl, rfl, rfl, .of_same rfl rfl⟩

theorem Logs.bind {before : Demo} {result : Except Demo Demo} {next : Demo → Except Demo Demo}
    {first second : Nat} (begins : Logs first before result)
    (onward : ∀ middle, Logs second middle (next middle)) : Logs (first + second) before (result >>= next) where
  state := standing_bind begins.state fun middle same => (onward middle).state.trans same
  nextTask := standing_bind begins.nextTask fun middle same => (onward middle).nextTask.trans same
  nextTransfer := standing_bind begins.nextTransfer fun middle same => (onward middle).nextTransfer.trans same
  writes := begins.writes.bind fun middle _ => (onward middle).writes

theorem Logs.mono {before : Demo} {after : Except Demo Demo} {most more : Nat} (logs : Logs most before after)
    (le : most ≤ more) : Logs more before after :=
  ⟨logs.state, logs.nextTask, logs.nextTransfer, logs.writes.mono le⟩

theorem foldlM_logs {α : Type} {write : Demo → α → Except Demo Demo}
    (writes : ∀ demo entry, Logs 1 demo (write demo entry)) (entries : List α) (demo : Demo) :
    Logs entries.length demo (entries.foldlM write demo) := by
  induction entries generalizing demo with
  | nil => exact logs_refl demo
  | cons entry rest ih =>
    rw [List.foldlM_cons, List.length_cons, Nat.add_comm]
    exact (writes demo entry).bind ih

end Log

end Demo
end ComputeMonitor.Simulation
