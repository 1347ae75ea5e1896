import ComputeMonitor.Proofs.Client.Tables

/-!
The log of messages as it is gathered from batches.

A message is taken from a batch if its number is above that of the last one held and above the numbers
taken before it. The last one is never dropped, however low the limit, so that cutting a batch in two makes
no difference, a batch taken again adds nothing, and numbers rise in every log gathered from an empty one.
-/

set_option autoImplicit false

namespace ComputeMonitor.Client

theorem lt_of_mem_newerThan {batch : List Message} {last : UInt64} {message : Message}
    (member : message ∈ newerThan last batch) : last < message.seqno := by
  induction batch generalizing last with
  | nil => cases member
  | cons first rest ih =>
    unfold newerThan at member
    split at member
    next newer =>
      rcases List.mem_cons.1 member with rfl | later
      · exact newer
      · exact UInt64.lt_trans newer (ih later)
    next => exact ih member

theorem ascending_newerThan (last : UInt64) (batch : List Message) :
    Ascending (newerThan last batch) := by
  induction batch generalizing last with
  | nil => exact .nil
  | cons first rest ih =>
    unfold newerThan
    split
    next => exact List.pairwise_cons.2 ⟨fun message member => lt_of_mem_newerThan member, ih first.seqno⟩
    next => exact ih last

theorem newerThan_subset (last : UInt64) (batch : List Message) : newerThan last batch ⊆ batch := by
  induction batch generalizing last with
  | nil => exact List.Subset.refl []
  | cons first rest ih =>
    unfold newerThan
    split
    next => exact List.cons_subset_cons first (ih _)
    next => exact List.subset_cons_of_subset first (ih _)

theorem newerThan_of_ascending {last : UInt64} {batch : List Message} (ascending : Ascending batch)
    (above : ∀ message ∈ batch, last < message.seqno) : newerThan last batch = batch := by
  induction batch generalizing last with
  | nil => rfl
  | cons first rest ih =>
    obtain ⟨firstBelow, restAscending⟩ := List.pairwise_cons.1 ascending
    rw [newerThan, if_pos (above first List.mem_cons_self), ih restAscending firstBelow]

theorem newest_nil {α : Type} (limit : Nat) : newest limit ([] : List α) = [] := List.drop_nil

theorem length_newest {α : Type} (limit : Nat) (entries : List α) :
    (newest limit entries).length = min limit entries.length := by
  rw [newest, List.length_drop]
  omega

theorem newest_newest_append {α : Type} (limit : Nat) (entries more : List α) :
    newest limit (newest limit entries ++ more) = newest limit (entries ++ more) := by
  have front : newest limit entries ++ more =
      (entries ++ more).drop (entries.length - limit) := by
    rw [newest, List.drop_append_of_le_length (by omega)]
  rw [front, newest, newest, List.drop_drop, List.length_drop, List.length_append]
  congr 1
  omega

theorem getLast?_newest {α : Type} {limit : Nat} (positive : 1 ≤ limit) (entries : List α) :
    (newest limit entries).getLast? = entries.getLast? := by
  rw [newest, List.getLast?_drop]
  split
  next short =>
    have empty : entries = [] := List.length_eq_zero_iff.1 (by omega)
    rw [empty]
    rfl
  next => rfl

theorem lastSeqno_newest {limit : Nat} (positive : 1 ≤ limit) (state : State) (log : List Message) :
    (Document.mk state (newest limit log)).lastSeqno = (Document.mk state log).lastSeqno := by
  unfold Document.lastSeqno
  dsimp only
  rw [getLast?_newest positive]

/-- The messages of a document are the newest of a log of rising numbers, and none only if the log is
empty. -/
structure Document.Gathers (log : List Message) (document : Document) : Prop where
  ascending : Ascending log
  newest : document.messages <:+ log
  kept : document.messages = [] → log = []

namespace Document

variable {log : List Message} {document : Document}

theorem Gathers.mem_log (gathers : document.Gathers log) {message : Message}
    (member : message ∈ document.messages) : message ∈ log := gathers.newest.subset member

theorem gathers_nil (empty : document.messages = []) : document.Gathers [] where
  ascending := .nil
  newest := empty ▸ List.suffix_rfl
  kept _ := rfl

/-- The last number held is the highest of the log, although the document may have dropped others. -/
theorem Gathers.le_lastSeqno (gathers : document.Gathers log) {message : Message}
    (member : message ∈ log) : message.seqno ≤ document.lastSeqno := by
  rcases List.eq_nil_or_concat document.messages with empty | ⟨front, last, same⟩
  · rw [gathers.kept empty] at member
    cases member
  · rw [List.concat_eq_append] at same
    have isLast : document.lastSeqno = last.seqno := by rw [lastSeqno, same, List.getLast?_concat]
    obtain ⟨dropped, whole⟩ := gathers.newest
    have logIs : log = (dropped ++ front) ++ [last] := by rw [← whole, same, List.append_assoc]
    have ascending := gathers.ascending
    -- The document ends where the log ends, whatever it has dropped at the start.
    rw [isLast]
    rw [logIs] at member ascending
    rcases List.mem_append.1 member with earlier | isIt
    · exact UInt64.le_of_lt ((List.pairwise_append.1 ascending).2.2 message earlier last List.mem_cons_self)
    · rw [List.mem_singleton.1 isIt]
      exact UInt64.le_refl _

theorem newest_suffix {α : Type} (limit : Nat) (entries : List α) : newest limit entries <:+ entries :=
  List.drop_suffix _ _

theorem newest_eq_nil {α : Type} {limit : Nat} (positive : 1 ≤ limit) {entries : List α}
    (empty : newest limit entries = []) : entries = [] := by
  have short := List.drop_eq_nil_iff.1 empty
  exact List.length_eq_zero_iff.1 (by omega)

theorem Gathers.ascending_append (gathers : document.Gathers log) (batch : List Message) :
    Ascending (log ++ newerThan document.lastSeqno batch) := by
  refine List.pairwise_append.2 ⟨gathers.ascending, ascending_newerThan _ _, ?_⟩
  intro old oldMember new newMember
  exact UInt64.lt_of_le_of_lt (gathers.le_lastSeqno oldMember) (lt_of_mem_newerThan newMember)

/-- Messages that are appended extend the log, whatever batch they are taken from. -/
theorem Gathers.append (gathers : document.Gathers log) (batch : List Message) {limit : Nat}
    (positive : 1 ≤ limit) :
    ∃ more, (document.appendMessages batch limit).1.Gathers (log ++ more) := by
  refine ⟨newerThan document.lastSeqno batch, gathers.ascending_append batch, ?_, fun empty => ?_⟩
  · obtain ⟨dropped, whole⟩ := gathers.newest
    refine (newest_suffix limit _).trans ⟨dropped, ?_⟩
    rw [← List.append_assoc, whole]
  · -- A limit of one at least never empties a document that has taken in a message.
    have nothing : document.messages ++ newerThan document.lastSeqno batch = [] := newest_eq_nil positive empty
    obtain ⟨noMessages, noneAccepted⟩ := List.append_eq_nil_iff.1 nothing
    rw [gathers.kept noMessages, noneAccepted]
    rfl

end Document

section Batches

def lastOf (known : UInt64) (messages : List Message) : UInt64 :=
  (messages.getLast?.map Message.seqno).getD known

theorem Document.lastSeqno_eq (document : Document) : document.lastSeqno = lastOf 0 document.messages := by
  unfold lastSeqno lastOf
  cases document.messages.getLast? <;> rfl

theorem lastOf_append (known : UInt64) (first second : List Message) :
    lastOf known (first ++ second) = lastOf (lastOf known first) second := by
  unfold lastOf
  rw [List.getLast?_append]
  cases second.getLast? <;> rfl

theorem lastOf_cons (known : UInt64) (message : Message) (rest : List Message) :
    lastOf known (message :: rest) = lastOf message.seqno rest := lastOf_append known [message] rest

theorem lastOf_eq (known : UInt64) (messages : List Message) :
    lastOf known messages = known ∨ ∃ message ∈ messages, lastOf known messages = message.seqno := by
  unfold lastOf
  cases isLast : messages.getLast? with
  | none => exact .inl rfl
  | some message => exact .inr ⟨message, List.mem_of_getLast? isLast, rfl⟩

variable (last : UInt64)

theorem newerThan_append (first second : List Message) : newerThan last (first ++ second) =
    newerThan last first ++ newerThan (lastOf last (newerThan last first)) second := by
  induction first generalizing last with
  | nil => rfl
  | cons message rest ih =>
    rw [List.cons_append, newerThan, newerThan]
    by_cases newer : last < message.seqno
    · rw [if_pos newer, if_pos newer, lastOf_cons, List.cons_append, ih]
    · rw [if_neg newer, if_neg newer, ih]

theorem le_lastOf_newerThan (batch : List Message) : last ≤ lastOf last (newerThan last batch) ∧
    ∀ message ∈ batch, message.seqno ≤ lastOf last (newerThan last batch) := by
  induction batch generalizing last with
  | nil => exact ⟨UInt64.le_refl last, fun _ member => nomatch member⟩
  | cons first rest ih =>
    rw [newerThan, List.forall_mem_cons]
    by_cases newer : last < first.seqno
    · rw [if_pos newer, lastOf_cons]
      have ⟨firstBelow, restBelow⟩ := ih first.seqno
      exact ⟨UInt64.le_trans (UInt64.le_of_lt newer) firstBelow, firstBelow, restBelow⟩
    · rw [if_neg newer]
      have ⟨lastBelow, restBelow⟩ := ih last
      exact ⟨lastBelow, UInt64.le_trans (UInt64.not_lt.1 newer) lastBelow, restBelow⟩

variable {last} in
theorem newerThan_eq_nil {batch : List Message} (known : ∀ message ∈ batch, message.seqno ≤ last) :
    newerThan last batch = [] := by
  induction batch with
  | nil => rfl
  | cons first rest ih =>
    have ⟨firstKnown, restKnown⟩ := List.forall_mem_cons.1 known
    rw [newerThan, if_neg (UInt64.not_lt.2 firstKnown), ih restKnown]

def takeRecord (taken : List Message) (message : Message) : List Message :=
  if last < message.seqno ∧ ∀ earlier ∈ taken, earlier.seqno < message.seqno then taken ++ [message]
  else taken

/-- The messages of a batch whose numbers are above a given one and above those of all messages taken
before. -/
def recordsAbove (batch : List Message) : List Message := batch.foldl (takeRecord last) []

theorem takeRecord_newerThan (before : List Message) (message : Message) :
    takeRecord last (newerThan last before) message = newerThan last (before ++ [message]) := by
  have ⟨lastBelow, below⟩ := le_lastOf_newerThan last before
  -- The last number taken is the highest, and the only one that has to be compared with.
  have isRecord : (last < message.seqno ∧
      ∀ earlier ∈ newerThan last before, earlier.seqno < message.seqno) ↔
        lastOf last (newerThan last before) < message.seqno := by
    constructor
    · rintro ⟨aboveLast, aboveTaken⟩
      rcases lastOf_eq last (newerThan last before) with isLast | ⟨taken, member, isTaken⟩
      · rwa [isLast]
      · rw [isTaken]
        exact aboveTaken taken member
    · intro above
      refine ⟨UInt64.lt_of_le_of_lt lastBelow above, fun earlier member => ?_⟩
      exact UInt64.lt_of_le_of_lt (below earlier (newerThan_subset last before member)) above
  rw [newerThan_append, takeRecord]
  simp only [isRecord, newerThan]
  split
  next => rfl
  next => exact (List.append_nil _).symm

theorem newerThan_eq_recordsAbove (batch : List Message) :
    newerThan last batch = recordsAbove last batch := by
  have gathered (before : List Message) :
      batch.foldl (takeRecord last) (newerThan last before) = newerThan last (before ++ batch) := by
    induction batch generalizing before with
    | nil => rw [List.foldl_nil, List.append_nil]
    | cons message rest ih => rw [List.foldl_cons, takeRecord_newerThan, ih, List.append_assoc]; rfl
  exact (gathered []).symm

end Batches

namespace Document

theorem lastSeqno_appendMessages (document : Document) (batch : List Message) {limit : Nat}
    (positive : 1 ≤ limit) : (document.appendMessages batch limit).1.lastSeqno =
      lastOf document.lastSeqno (newerThan document.lastSeqno batch) := by
  rw [lastSeqno_eq document, ← lastOf_append, lastSeqno_eq, lastOf, lastOf, appendMessages]
  dsimp only
  rw [getLast?_newest positive, lastSeqno_eq]

theorem appendMessages_append (document : Document) (first second : List Message) {limit : Nat}
    (positive : 1 ≤ limit) :
    let once := document.appendMessages first limit
    let twice := once.1.appendMessages second limit
    document.appendMessages (first ++ second) limit = (twice.1, once.2 + twice.2) := by
  intro once twice
  have goesOn := document.lastSeqno_appendMessages first positive
  have accepted := newerThan_append document.lastSeqno first second
  have isTwice : twice = once.1.appendMessages second limit := rfl
  rw [isTwice, appendMessages, appendMessages, goesOn, accepted]
  simp only [once, appendMessages, newest_newest_append, List.append_assoc, List.length_append]

theorem appendMessages_again (document : Document) (batch : List Message) {limit : Nat}
    (positive : 1 ≤ limit) :
    let once := document.appendMessages batch limit
    once.1.appendMessages batch limit = (once.1, 0) := by
  intro once
  have goesOn := document.lastSeqno_appendMessages batch positive
  have nothing : newerThan once.1.lastSeqno batch = [] := by
    rw [goesOn]
    exact newerThan_eq_nil (le_lastOf_newerThan document.lastSeqno batch).2
  have trimmed : newest limit once.1.messages = once.1.messages := by
    have twice := newest_newest_append limit (document.messages ++ newerThan document.lastSeqno batch) []
    rwa [List.append_nil, List.append_nil] at twice
  rw [appendMessages, nothing, List.append_nil, trimmed]
  rfl

inductive LogStep where
  | append (batch : List Message) (limit : Nat)
  | clear

def perform (document : Document) : LogStep → Document
  | .append batch limit => (document.appendMessages batch limit).1
  | .clear => document.clearMessages

def gathered (steps : List LogStep) : Document := steps.foldl perform {}

structure InSequence (log : List Message) : Prop where
  ascending : Ascending log
  positive : ∀ message ∈ log, 0 < message.seqno

theorem InSequence.suffix {part log : List Message} (inSequence : InSequence log) (isPart : part <:+ log) :
    InSequence part where
  ascending := inSequence.ascending.sublist isPart.sublist
  positive message member := inSequence.positive message (isPart.subset member)

theorem InSequence.perform {document : Document} (inSequence : InSequence document.messages)
    (step : LogStep) : InSequence (document.perform step).messages := by
  cases step with
  | clear => exact ⟨.nil, fun _ member => nomatch member⟩
  | append batch limit =>
    have gathers : document.Gathers document.messages := ⟨inSequence.ascending, List.suffix_rfl, id⟩
    refine InSequence.suffix ⟨gathers.ascending_append batch, fun message member => ?_⟩ (newest_suffix limit _)
    rcases List.mem_append.1 member with old | new
    · exact inSequence.positive message old
    · exact UInt64.lt_of_le_of_lt UInt64.zero_le (lt_of_mem_newerThan new)

theorem gathered_inSequence (steps : List LogStep) : InSequence (gathered steps).messages := by
  refine List.foldlRecOn steps Document.perform (motive := fun document => InSequence document.messages) ?_ ?_
  · exact ⟨.nil, fun _ member => nomatch member⟩
  · exact fun document inSequence step _ => inSequence.perform step

/-- Batches are one stream, wherever it is cut and whatever of it comes again, and what is held of it are the
last messages of those held before and the records of the batch. Whatever was appended to an empty log and
cleared, numbers are positive and rise, and no append leaves more than its limit. -/
theorem appendMessages_as_one_stream (document : Document) (first second : List Message) (limit : Nat)
    (positive : 1 ≤ limit) (steps : List LogStep) :
    let once := document.appendMessages first limit
    let twice := once.1.appendMessages second limit
    let whole := document.appendMessages (first ++ second) limit
    let records := recordsAbove document.lastSeqno first
    (whole.1 = twice.1 ∧ whole.2 = once.2 + twice.2) ∧
    once.1.appendMessages first limit = (once.1, 0) ∧
    (once.2 = records.length ∧ once.1.messages <:+ document.messages ++ records ∧
      once.1.messages.length = min limit (document.messages ++ records).length) ∧
    (gathered steps).messages.Pairwise (·.seqno < ·.seqno) ∧
    (∀ message ∈ (gathered steps).messages, 0 < message.seqno) ∧
    ∀ batch limit, (gathered (steps ++ [.append batch limit])).messages.length ≤ limit := by
  intro once twice whole records
  have isWhole : whole = (twice.1, once.2 + twice.2) := document.appendMessages_append first second positive
  have inSequence := gathered_inSequence steps
  have isRecords : newerThan document.lastSeqno first = records := newerThan_eq_recordsAbove _ first
  -- The records are all that is taken from a batch, wherever it stands among others.
  have isOnce : once = ({ document with messages := newest limit (document.messages ++ records) },
      records.length) := by
    rw [← isRecords]
    rfl
  refine ⟨by rw [isWhole]; exact ⟨rfl, rfl⟩, document.appendMessages_again first positive, ?_,
    inSequence.ascending, inSequence.positive, fun batch limit => ?_⟩
  · rw [isOnce]
    exact ⟨rfl, newest_suffix limit _, length_newest limit _⟩
  · rw [gathered, List.foldl_append]
    exact Nat.le_trans (Nat.le_of_eq (length_newest limit _)) (Nat.min_le_left _ _)

/-- Batches out of order, of which a log holds the last two messages, and a log that was cleared and begun
anew with lower numbers. -/
theorem unordered_batches_as_one_stream :
    let message (seqno : UInt64) : Message :=
      { seqno, body := "", timestamp := ⟨⟨⟨2026, 1, 1⟩, 0, 0, 0, 0⟩, 0⟩ }
    let document : Document := { messages := [message 9, message 3] }
    let first := [message 4, message 2, message 7, message 7, message 5, message 8]
    let second := [message 8, message 6, message 10, message 9]
    let once := document.appendMessages first 2
    let twice := once.1.appendMessages second 2
    let whole := document.appendMessages (first ++ second) 2
    let records := recordsAbove document.lastSeqno first
    let steps : List LogStep := [.append first 1, .clear, .append second 5]
    records = [message 4, message 7, message 8] ∧
      twice = ({ messages := [message 8, message 10] }, 1) ∧
      (gathered steps).messages = [message 8, message 10] ∧
    (whole.1 = twice.1 ∧ whole.2 = once.2 + twice.2) ∧
    once.1.appendMessages first 2 = (once.1, 0) ∧
    (once.2 = records.length ∧ once.1.messages <:+ document.messages ++ records ∧
      once.1.messages.length = min 2 (document.messages ++ records).length) ∧
    (gathered steps).messages.Pairwise (·.seqno < ·.seqno) ∧
    (∀ message ∈ (gathered steps).messages, 0 < message.seqno) ∧
    ∀ batch limit, (gathered (steps ++ [.append batch limit])).messages.length ≤ limit := by
  intro message document first second once twice whole records steps
  exact ⟨by decide, by decide, by decide,
    appendMessages_as_one_stream document first second 2 (by decide) steps⟩

end Document
end ComputeMonitor.Client
