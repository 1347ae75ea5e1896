import ComputeMonitor.Proofs.Client.Tables
import ComputeMonitor.Proofs.Number.WholeNumber
import ComputeMonitor.Proofs.Table.RepeatedFetch

/-!
The event log sorted by the numbers of its messages.

The numbers of messages are whole numbers of up to 64 binary digits, but cells are compared as the doubles
nearest to what they show. Rows are in the order of the numbers as far as these have different doubles, and
messages that share a double stay as they were shown. Up to two to the power 53 no two numbers share one.
-/

set_option autoImplicit false

namespace ComputeMonitor

open Cell (Direction readNumber?)
open Number (Binary64 readBinary64?_of_digits)
open Table (AllReadable Cache Cadence Column ListView Operation Permutation Precedes SortState)
open Text

namespace Cell

theorem dropPercent_of_digits {digits : List Char} (areDigits : ∀ c ∈ digits, isDigit c = true) :
    dropPercent digits = digits := by
  have absent : '%' ∉ digits := not_mem_of_digits areDigits (by decide)
  have notDropped : dropTrailing? ['%'] digits = none := by
    rw [dropTrailing?, Option.map_eq_none_iff]
    cases found : dropLeading? ['%'].reverse digits.reverse with
    | none => rfl
    | some rest =>
      have member : '%' ∈ digits.reverse := dropLeading?_eq_some found ▸ List.mem_cons_self
      exact absurd (List.mem_reverse.1 member) absent
  rw [dropPercent, notDropped, Option.getD_none]

theorem readNumber?_numeral {n : Nat} (bounded : n < 2 ^ 1023) : readNumber? (numeral n) = some (.ofNat n) := by
  have areDigits : ∀ c ∈ digitsOf n, isDigit c = true := fun c => isDigit_of_mem_digitsOf
  have value : digitsValue (digitsOf n) 0 < 10 ^ 400 := by
    rw [digitsValue_digitsOf]
    exact Nat.lt_trans bounded (by decide +kernel)
  have isFinite : (Binary64.ofNat n).isFinite = true := by
    rw [Binary64.ofNat_eq_finite bounded]
    rfl
  rw [readNumber?, numeral, String.toList_ofList, trimChars_of_digits areDigits, dropPercent_of_digits areDigits,
    trimEndChars_of_no_blank (noBlank_of_digits areDigits),
    readBinary64?_of_digits (digitsOf_ne_nil n) areDigits value, digitsValue_digitsOf, Option.filter_some,
    isFinite]
  rfl

/-- Numerals are ordered as their numbers, unless these have the same double. -/
theorem order_numeral {left right : Nat} (leftBound : left < 2 ^ 1023) (rightBound : right < 2 ^ 1023)
    (direction : Direction) : order .number (numeral left) (numeral right) direction =
      direction.apply (if Binary64.ofNat left = .ofNat right then .eq else compare left right) := by
  rw [order, Key.read, Key.read, readNumber?_numeral leftBound, readNumber?_numeral rightBound, Key.order,
    Binary64.compare?_ofNat leftBound rightBound, Option.getD_some]

/-- Which of two numbers is shown above the other in a direction. -/
def Direction.Before : Direction → UInt64 → UInt64 → Prop
  | .ascending, upper, lower => upper < lower
  | .descending, upper, lower => lower < upper

instance : (direction : Direction) → (upper lower : UInt64) → Decidable (direction.Before upper lower)
  | .ascending, upper, lower => inferInstanceAs (Decidable (upper < lower))
  | .descending, upper, lower => inferInstanceAs (Decidable (lower < upper))

theorem Direction.before_of_apply_compare {direction : Direction} {upper lower : UInt64}
    (less : direction.apply (compare upper.toNat lower.toNat) = .lt) : direction.Before upper lower := by
  cases direction with
  | ascending => exact UInt64.lt_iff_toNat_lt.2 (Nat.compare_eq_lt.1 less)
  | descending => exact UInt64.lt_iff_toNat_lt.2 (Nat.compare_eq_gt.1 (Ordering.swap_eq_lt.1 less))

end Cell

namespace Client

def Document.messagesInRows (document : Document) (permutation : Permutation) : List Message :=
  permutation.order.filterMap (document.messages[·]?)

theorem filterMap_getElem?_range (messages : List Message) :
    (List.range messages.length).filterMap (messages[·]?) = messages := by
  induction messages with
  | nil => rfl
  | cons message rest ih =>
    rw [List.length_cons, List.range_succ_eq_map, List.filterMap_cons, List.getElem?_cons_zero,
      List.filterMap_map]
    exact congrArg (message :: ·) ih

theorem getElem?_filterMap_of_forall {messages : List Message} {order : List Nat}
    (inside : ∀ index ∈ order, index < messages.length) (row : Nat) :
    (order.filterMap (messages[·]?))[row]? = order[row]?.bind (messages[·]?) := by
  induction order generalizing row with
  | nil => rfl
  | cons index rest ih =>
    have ⟨bound, restInside⟩ := List.forall_mem_cons.1 inside
    rw [List.filterMap_cons_some (List.getElem?_eq_getElem bound)]
    cases row with
    | zero => exact (List.getElem?_eq_getElem bound).symm
    | succ row => exact ih restInside row

section Rows

variable {document : Document} {permutation : Permutation}
  (shows : permutation.Shows document.messages.length)

include shows

theorem Document.messagesInRows_perm : (document.messagesInRows permutation).Perm document.messages := by
  have all := List.Perm.filterMap (document.messages[·]?) shows
  rwa [filterMap_getElem?_range] at all

theorem Document.exists_index_of_row {row : Nat} {message : Message}
    (isAt : (document.messagesInRows permutation)[row]? = some message) :
    ∃ index, permutation.order[row]? = some index ∧ document.messages[index]? = some message := by
  have inside (index : Nat) (member : index ∈ permutation.order) : index < document.messages.length :=
    shows.mem_iff.1 member
  exact Option.bind_eq_some_iff.1 ((getElem?_filterMap_of_forall inside row).symm.trans isAt)

end Rows

structure ShowsNumbers (messages : List Message) (cache : Cache) : Prop where
  length : cache.length = messages.length
  number : ∀ index message, messages[index]? = some message → cache.cellAt 0 index = message.number

/-- The number of a message is its token, so that the cell of the number is right in every entry, whatever else
an entry has kept. -/
theorem showsNumbers_synchronize {cache : Cache} {known : Message → Prop} {document : Document}
    (fresh : cache.Fresh Message.schema known) (areKnown : ∀ message ∈ document.messages, known message) :
    ShowsNumbers document.messages
      (cache.synchronize Message.schema (ViewKind.events.collection document)).1 := by
  have areItems : (ViewKind.events.collection document).reachable = document.messages :=
    Table.Collection.reachable_ofList document.messages
  refine ⟨by rw [Cache.length_synchronize, areItems], fun index message isAt => ?_⟩
  obtain ⟨shown, -, sameNumber, entryAt⟩ := fresh.getElem?_synchronize (areItems ▸ areKnown) (areItems ▸ isAt)
  rw [Cache.cellAt, entryAt]
  exact congrArg (fun seqno : UInt64 => numeral seqno.toNat) sameNumber

def numberColumn : Column := ⟨"seqno", "#", .number, 6⟩

theorem seqno_lt_two_pow (message : Message) : message.seqno.toNat < 2 ^ 1023 :=
  Nat.lt_trans message.seqno.toNat_lt (by decide +kernel)

section Sorted

variable {messages : List Message} {cache : Cache} (numbers : ShowsNumbers messages cache)

include numbers

theorem ShowsNumbers.allReadable : AllReadable cache numberColumn 0 := by
  intro entry member
  obtain ⟨index, isAt⟩ := List.getElem?_of_mem member
  have inside : index < messages.length := numbers.length ▸ (List.getElem?_eq_some_iff.1 isAt).1
  have isNumber := numbers.number index _ (List.getElem?_eq_getElem inside)
  rw [Cache.cellAt, isAt, Option.map_some, Option.getD_some] at isNumber
  change (readNumber? (entry.field 0)).isSome = true
  rw [isNumber, Message.number, Cell.readNumber?_numeral (seqno_lt_two_pow _)]
  rfl

/-- A message stands above another one by its number, or by the order before where both numbers have the same
double. -/
theorem ShowsNumbers.of_precedes {direction : Direction} {prior : Permutation} {left right : Nat}
    (shows : prior.Shows cache.length) (precedes : Precedes cache numberColumn 0 direction prior left right)
    {upper lower : Message} (isUpper : messages[left]? = some upper) (isLower : messages[right]? = some lower) :
    if Binary64.ofNat upper.seqno.toNat = .ofNat lower.seqno.toNat then
      [upper, lower].Sublist (prior.order.filterMap (messages[·]?))
    else direction.Before upper.seqno lower.seqno := by
  have order := Cell.order_numeral (seqno_lt_two_pow upper) (seqno_lt_two_pow lower) direction
  change Cell.order .number (cache.cellAt 0 left) (cache.cellAt 0 right) direction = .lt ∨
    Cell.order .number (cache.cellAt 0 left) (cache.cellAt 0 right) direction = .eq ∧
      prior.rank left < prior.rank right at precedes
  rw [numbers.number left upper isUpper, numbers.number right lower isLower, Message.number, Message.number,
    order] at precedes
  -- Cells of one double tie, so that the order before decides; others are in the order of the numbers.
  split
  next same =>
    rw [if_pos same, Cell.Direction.apply_eq] at precedes
    have ranked : prior.rank left < prior.rank right := by simpa using precedes
    have leftBound := numbers.length ▸ (List.getElem?_eq_some_iff.1 isUpper).1
    have rightBound := numbers.length ▸ (List.getElem?_eq_some_iff.1 isLower).1
    have above := (shows.pair_sublist leftBound rightBound ranked).filterMap (messages[·]?)
    rwa [List.filterMap_cons_some isUpper, List.filterMap_cons_some isLower] at above
  next different =>
    rw [if_neg different] at precedes
    rcases precedes with less | ⟨equal, -⟩
    · exact Cell.Direction.before_of_apply_compare less
    · have same : upper.seqno.toNat = lower.seqno.toNat :=
        Nat.compare_eq_eq.1 (Cell.Direction.apply_eq_eq_iff.1 equal)
      exact absurd (congrArg Binary64.ofNat same) different

end Sorted

/-- Rows in the order of doubles are in the order of the numbers when these are different and so small that each
has a double of its own. -/
theorem pairwise_before_of_small {rows : List Message} {direction : Direction} {Above : Message → Message → Prop}
    (related : rows.Pairwise fun upper lower =>
      if Binary64.ofNat upper.seqno.toNat = .ofNat lower.seqno.toNat then Above upper lower
      else direction.Before upper.seqno lower.seqno)
    (different : rows.Pairwise fun upper lower => upper.seqno ≠ lower.seqno)
    (small : ∀ message ∈ rows, message.seqno.toNat ≤ 2 ^ 53) :
    rows.Pairwise fun upper lower => direction.Before upper.seqno lower.seqno := by
  refine (related.and different).imp_of_mem fun upperMember lowerMember ⟨isRelated, isDifferent⟩ => ?_
  rw [if_neg] at isRelated
  · exact isRelated
  · intro same
    have sameNumber := Binary64.ofNat_injective_of_small (small _ upperMember) (small _ lowerMember) same
    exact isDifferent (UInt64.toNat_inj.1 sameNumber)

def eventLog (cadence : Cadence) (operations : List (Operation Message)) (document : Document) : ListView :=
  (((ListView.new Message.schema cadence).run Message.schema operations).synchronize Message.schema
    (ViewKind.events.collection document)).1

def sortByNumber (view : ListView) (prior : Permutation) (direction : Direction) : ListView :=
  { view with permutation := prior }.applySort Message.schema ⟨some 0, direction⟩

theorem showsNumbers_eventLog (cadence : Cadence) (operations : List (Operation Message)) (document : Document) :
    ShowsNumbers document.messages (eventLog cadence operations document).cache := by
  have fresh : ((ListView.new Message.schema cadence).run Message.schema operations).cache.Fresh Message.schema
      (fun _ => True) := ListView.fresh_run Cache.fresh_nil operations fun _ _ => trivial
  have refreshed := ListView.synchronize_rows Message.schema
    ((ListView.new Message.schema cadence).run Message.schema operations) (ViewKind.events.collection document)
  rw [eventLog, refreshed.cache]
  exact showsNumbers_synchronize fresh fun _ _ => trivial

/-- Sorted by the numbers, whatever was shown before and in whatever order, the event log has each message in one
row. Messages stand in strict order as far as their numbers have different doubles, which all have up to two to
the power 53, and as before where they share one. -/
theorem rows_in_number_order (cadence : Cadence) (operations : List (Operation Message)) (document : Document)
    (prior : Permutation) (direction : Direction) :
    let shown := eventLog cadence operations document
    let sorted := sortByNumber shown prior direction
    let rows := document.messagesInRows sorted.permutation
    Ascending document.messages → prior.isBijection shown.cache.length = true →
      rows.Perm document.messages ∧
      (∀ row message, rows[row]? = some message → sorted.cellText row 0 = message.number) ∧
      rows.Pairwise (fun upper lower =>
        if Binary64.ofNat upper.seqno.toNat = .ofNat lower.seqno.toNat then
          [upper, lower].Sublist (document.messagesInRows prior)
        else direction.Before upper.seqno lower.seqno) ∧
      ((∀ message ∈ document.messages, message.seqno.toNat ≤ 2 ^ 53) →
        rows.Pairwise fun upper lower => direction.Before upper.seqno lower.seqno) := by
  intro shown sorted rows ascending isBijection
  have numbers : ShowsNumbers document.messages shown.cache := showsNumbers_eventLog cadence operations document
  have priorShows := Permutation.isBijection_iff.1 isBijection
  have sortedShows : sorted.permutation.Shows document.messages.length :=
    numbers.length ▸ Table.sortPermutation_shows priorShows
  have isSorted : (⟨some 0, direction⟩ : SortState).sortedColumn? Message.columns = some (0, numberColumn) := rfl
  have ordered : sorted.permutation.order.Pairwise (Precedes shown.cache numberColumn 0 direction prior) :=
    Table.sortPermutation_pairwise priorShows isSorted numbers.allReadable
  have isPerm : rows.Perm document.messages := Document.messagesInRows_perm sortedShows
  have related : rows.Pairwise fun upper lower =>
      if Binary64.ofNat upper.seqno.toNat = .ofNat lower.seqno.toNat then
        [upper, lower].Sublist (document.messagesInRows prior)
      else direction.Before upper.seqno lower.seqno :=
    List.pairwise_filterMap.2 (ordered.imp fun precedes upper isUpper lower isLower =>
      numbers.of_precedes priorShows precedes isUpper isLower)
  refine ⟨isPerm, fun row message isAt => ?_, related, fun small => ?_⟩
  · obtain ⟨index, isIndex, isMessage⟩ := Document.exists_index_of_row sortedShows isAt
    exact (ListView.cellText_eq_cellAt isIndex 0).trans (numbers.number index message isMessage)
  · -- Numbers are different, and below the bound so are their doubles.
    have different : rows.Pairwise fun upper lower => upper.seqno ≠ lower.seqno :=
      (isPerm.pairwise_iff Ne.symm).2 (ascending.imp UInt64.ne_of_lt)
    exact pairwise_before_of_small related different fun message member =>
      small message (isPerm.mem_iff.1 member)

def recorded (seqno : UInt64) (body : String) : Message where
  seqno
  body
  timestamp := ⟨⟨⟨2026, 1, 1⟩, 0, 0, 0, 0⟩, 0⟩

def sharingLog : Document where
  messages := [recorded 9007199254740992 "b", recorded 9007199254740993 "c", recorded 9007199254740994 "a"]

def sortedByBody : List (Operation Message) :=
  [.tick 0 .connected, .fetchComplete (ViewKind.events.collection sharingLog),
    .adjust (.applySort ⟨some 3, .descending⟩)]

theorem sharing_rows_in_number_order :
    let shown := eventLog {} sortedByBody sharingLog
    let sorted := sortByNumber shown shown.permutation .ascending
    let rows := sharingLog.messagesInRows sorted.permutation
    Ascending sharingLog.messages ∧ shown.permutation.isBijection shown.cache.length = true ∧
      rows.map Message.body = ["c", "b", "a"] ∧
      rows.Perm sharingLog.messages ∧
      (∀ row message, rows[row]? = some message → sorted.cellText row 0 = message.number) ∧
      rows.Pairwise (fun upper lower =>
        if Binary64.ofNat upper.seqno.toNat = .ofNat lower.seqno.toNat then
          [upper, lower].Sublist (sharingLog.messagesInRows shown.permutation)
        else Direction.ascending.Before upper.seqno lower.seqno) ∧
      ((∀ message ∈ sharingLog.messages, message.seqno.toNat ≤ 2 ^ 53) →
        rows.Pairwise fun upper lower => Direction.ascending.Before upper.seqno lower.seqno) := by
  intro shown sorted rows
  have ascending : Ascending sharingLog.messages := by unfold Ascending; decide
  have isBijection : shown.permutation.isBijection shown.cache.length = true := by decide +kernel
  exact ⟨ascending, isBijection, by decide +kernel,
    rows_in_number_order {} sortedByBody sharingLog shown.permutation .ascending ascending isBijection⟩

/-- Numbers that share a double stay in the order of the texts, against the order of the numbers. -/
theorem sharing_rows_against_number_order :
    ¬ ∀ cadence operations (document : Document) (prior : Permutation) (direction : Direction),
      let shown := eventLog cadence operations document
      let sorted := sortByNumber shown prior direction
      Ascending document.messages → prior.isBijection shown.cache.length = true →
        (document.messagesInRows sorted.permutation).Pairwise fun upper lower =>
          direction.Before upper.seqno lower.seqno := by
  intro always
  have ordered := always {} sortedByBody sharingLog (eventLog {} sortedByBody sharingLog).permutation .ascending
    (by unfold Ascending; decide) (by decide +kernel)
  exact absurd ordered (by decide +kernel)

end Client
end ComputeMonitor
