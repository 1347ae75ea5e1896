import ComputeMonitor.Table.Schema

/-!
The local copy of a collection, formatted for display.

Entry by entry the cache follows the collection: a pass over the collection leaves exactly one
entry for every item that could be read. An entry is formatted anew when it is marked dirty or
when the change token of its item differs, and counts as changed when something that is shown
differs.
-/

set_option autoImplicit false

namespace ComputeMonitor.Table

open ComputeMonitor.Number (Binary64)

/-- The formatted copy of one item, with the index that the item had in its collection. A blank
entry has no token. -/
structure Entry where
  remoteIndex : Nat
  key : RowKey := ⟨"", ""⟩
  fields : List String := []
  progress : Option Binary64 := none
  token : Option UInt64 := none
  dirty : Bool := true
  deriving DecidableEq, Inhabited

def Entry.blank (remoteIndex : Nat) : Entry := { remoteIndex }

def Entry.field (entry : Entry) (column : Nat) : String := entry.fields.getD column ""

inductive EntrySync where
  | skipped
  | unchanged
  | changed
  deriving DecidableEq, Repr

/-- What a synchronization did to the cache. Entries added and removed again within the pass
count neither as grown nor as shrunk. -/
structure SyncReport where
  formatted : Nat := 0
  changed : Nat := 0
  grown : Nat := 0
  shrunk : Nat := 0
  truncated : Bool := false
  deriving DecidableEq, Repr, Inhabited

namespace SyncReport

def sizeChanged (report : SyncReport) : Bool := report.grown > 0 || report.shrunk > 0

def needsRepaint (report : SyncReport) : Bool := report.changed > 0 || report.sizeChanged

def count (report : SyncReport) : EntrySync → SyncReport
  | .skipped => report
  | .unchanged => { report with formatted := report.formatted + 1 }
  | .changed => { report with formatted := report.formatted + 1, changed := report.changed + 1 }

/-- Take entries that were removed again out of the counts of a pass. -/
def remove (report : SyncReport) (removed : Nat) : SyncReport :=
  { report with
    truncated := true
    grown := report.grown - removed
    shrunk := report.shrunk + (removed - report.grown) }

end SyncReport

/-- Whether two progress values differ as numbers; a value that is not a number differs from
itself. -/
def progressDiffers (left right : Option Binary64) : Bool :=
  match left, right with
  | none, none => false
  | some left, some right => !left.same right
  | _, _ => true

abbrev Cache := List Entry

namespace Cache

def grow (cache : Cache) (target : Nat) : Cache :=
  cache ++ (List.range' cache.length (target - cache.length)).map .blank

def shrink (cache : Cache) (target : Nat) : Cache := cache.take target

def resize (cache : Cache) (target : Nat) : Cache := (cache.grow target).shrink target

def invalidate (cache : Cache) : Cache := cache.map fun entry => { entry with dirty := true }

end Cache

variable {Item : Type}

def Entry.needsFormat (schema : Schema Item) (entry : Entry) (item : Item) : Bool :=
  entry.dirty || entry.token != some (schema.changeToken item)

def Entry.ofItem (schema : Schema Item) (remoteIndex : Nat) (item : Item) : Entry where
  remoteIndex
  key := schema.rowKey item
  fields := schema.cells item
  progress := schema.progress item
  token := some (schema.changeToken item)
  dirty := false

def Entry.differs (before after : Entry) : Bool :=
  before.token.isNone || before.fields != after.fields || before.key != after.key ||
    progressDiffers before.progress after.progress

def Entry.synchronize (schema : Schema Item) (entry : Entry) (index : Nat) (item : Item) :
    Entry × EntrySync :=
  if entry.needsFormat schema item then
    let after := Entry.ofItem schema index item
    (after, if entry.differs after then .changed else .unchanged)
  else ({ entry with remoteIndex := index }, .skipped)

namespace Cache

def synchronizeEntry (schema : Schema Item) (cache : Cache) (index : Nat) (item : Item) :
    Cache × EntrySync :=
  match cache[index]? with
  | some entry =>
    let (after, outcome) := entry.synchronize schema index item
    (cache.set index after, outcome)
  | none => (cache, .skipped)

/-- Bring entries up to date with items of the same positions, from an index on; there is one
entry for each item at the end. -/
def synchronizeItems (schema : Schema Item) :
    Nat → Cache → List Item → SyncReport → Cache × SyncReport
  | index, entry :: cache, item :: items, report =>
    let (after, outcome) := entry.synchronize schema index item
    let (rest, report) := synchronizeItems schema (index + 1) cache items (report.count outcome)
    (after :: rest, report)
  | _, _, _, report => ([], report)

def synchronize (schema : Schema Item) (cache : Cache) (collection : Collection Item) :
    Cache × SyncReport :=
  let observed := collection.count
  let items := collection.reachable
  let sized : SyncReport := { grown := observed - cache.length, shrunk := cache.length - observed }
  let (entries, report) := synchronizeItems schema 0 (cache.resize observed) items sized
  (entries, if items.length < observed then report.remove (observed - items.length) else report)

/-- The cache that a pass leaves behind when it ends at an item that cannot be formatted: the
entries before it are up to date, it and the later ones are as they were. -/
def abandoned (schema : Schema Item) (cache : Cache) (collection : Collection Item) (index : Nat) :
    Cache :=
  let resized := cache.resize collection.count
  (synchronizeItems schema 0 resized (collection.reachable.take index) {}).1 ++ resized.drop index

/-- The first item of a pass that has to be formatted and is refused by a test. -/
def firstRefused? (schema : Schema Item) (refused : Item → Bool) (cache : Cache)
    (collection : Collection Item) : Option Nat :=
  ((cache.resize collection.count).zip collection.reachable).findIdx? fun (entry, item) =>
    entry.needsFormat schema item && refused item

end Cache
end ComputeMonitor.Table
