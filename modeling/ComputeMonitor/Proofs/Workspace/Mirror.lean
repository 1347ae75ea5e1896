import ComputeMonitor.Gateway.ToldGateway
import ComputeMonitor.Proofs.Gateway.RemoteDocument
import ComputeMonitor.Proofs.Table.Mirror
import ComputeMonitor.Proofs.Workspace.Command

/-!
The screen mirrors the document of a remote client, also when the client is started anew.

The tables are kept from entries that their tokens do not vouch for. Fingerprints hold for all items that
the document ever held; the numbers of messages hold within one session only, and the workspace, which
learns of a new session no later than the first answer of it is shown, marks all entries then.
-/

set_option autoImplicit false

namespace ComputeMonitor.Workspace

open ComputeMonitor.Client (Document Message NoCollisions ViewKind)
open ComputeMonitor.Gateway (Fetcher RemoteDocument ToldGateway)
open ComputeMonitor.Gateway.RemoteDocument (Refreshes)
open ComputeMonitor.Table (Cache Collection ListView)
open ComputeMonitor.Table.ListView (Mirrors RowsKept)

variable {φ : Type} {documents : List Document} {log : List Message} {workspace after : Workspace}
  {remote : RemoteDocument φ}

/-- A workspace and a remote document in the course of a run. Rows are in order, except in a table that is
stuck in a refresh. Entries are those of items that were held before; entries of messages are those of the
session's log as long as the workspace knows no other session. -/
structure Faithful (documents : List Document) (log : List Message) (workspace : Workspace)
    (remote : RemoteDocument φ) : Prop where
  limit : 1 ≤ remote.messageLimit
  gathers : remote.document.Gathers log
  rows : ∀ kind, (workspace.view kind).schedule.phase = .synchronizing ∨
    (workspace.view kind).Ordered kind.schema
  held : ∀ kind ≠ .events, (workspace.view kind).cache.Fresh kind.schema (kind.Known documents log)
  unknown : workspace.session = none → (workspace.view .events).cache = []
  known : ∀ session, workspace.session = some session → session ≤ remote.session
  events : workspace.session = some remote.session →
    (workspace.view .events).cache.Fresh Message.schema (· ∈ log)

/-- Apart from messages, what a table may show does not depend on the log. -/
theorem known_log {kind : ViewKind} (notEvents : kind ≠ .events) (log other : List Message) :
    kind.Known documents log = kind.Known documents other := by
  cases kind with
  | events => exact (notEvents rfl).elim
  | projects | tasks | transfers => rfl

theorem Faithful.keep (faithful : Faithful documents log workspace remote)
    (keeps : Keeps workspace after) : Faithful documents log after remote where
  limit := faithful.limit
  gathers := faithful.gathers
  rows kind := (faithful.rows kind).imp (keeps.stuck kind) (keeps.rows kind).ordered
  held kind notEvents := (keeps.rows kind).fresh (faithful.held kind notEvents)
  unknown unknown := (keeps.rows .events).cache_nil (faithful.unknown (keeps.session ▸ unknown))
  known session known := faithful.known session (keeps.session ▸ known)
  events known := (keeps.rows .events).fresh (faithful.events (keeps.session ▸ known))

/-- A refresh of the document leaves the workspace faithful, which has not seen a new session yet. -/
theorem Faithful.refresh (faithful : Faithful documents log workspace remote)
    {refreshed : RemoteDocument φ} {answer : Except Failure Unit}
    (refreshes : Refreshes remote refreshed answer) :
    ∃ log, Faithful documents log workspace refreshed := by
  have limit : 1 ≤ refreshed.messageLimit := by
    rw [refreshes.messageLimit_eq]
    exact faithful.limit
  rcases refreshes.gathers faithful.limit faithful.gathers with ⟨same, more, gathers⟩ | ⟨anew, log, gathers⟩
  · -- The log of the session goes on, so that entries of its messages stay good.
    refine ⟨log ++ more, limit, gathers, faithful.rows, fun kind notEvents => ?_, faithful.unknown,
      fun session known => same ▸ faithful.known session known, fun known => ?_⟩
    · rw [known_log notEvents]
      exact faithful.held kind notEvents
    · exact (faithful.events (same ▸ known)).mono fun message => List.mem_append_left more
  · refine ⟨log, limit, gathers, faithful.rows, fun kind notEvents => ?_, faithful.unknown,
      fun session known => ?_, fun known => ?_⟩
    · rw [known_log notEvents]
      exact faithful.held kind notEvents
    · have before := faithful.known session known
      omega
    · -- The workspace cannot know the new session, which is above all that it can know.
      have before := faithful.known refreshed.session known
      omega

theorem Faithful.know (faithful : Faithful documents log workspace remote)
    (fresh : (workspace.view .events).cache.Fresh Message.schema (· ∈ log)) :
    Faithful documents log { workspace with session := some remote.session } remote where
  limit := faithful.limit
  gathers := faithful.gathers
  rows kind := by rw [view_session]; exact faithful.rows kind
  held kind notEvents := by rw [view_session]; exact faithful.held kind notEvents
  unknown unknown := nomatch unknown
  known session known := Nat.le_of_eq (Option.some.inj known).symm
  events _ := fresh

theorem Faithful.noteSession (faithful : Faithful documents log workspace remote) :
    Faithful documents log (workspace.noteSession remote.session) remote := by
  unfold Workspace.noteSession
  dsimp only
  split
  next known isKnown =>
    split
    next same => exact faithful.know (faithful.events (same ▸ isKnown))
    next =>
      -- Marked entries are formatted anew, so that the old log does not matter any more.
      have invalidated := faithful.keep (keeps_updateAll workspace (fun _ => ListView.invalidate)
        (fun _ _ => .marked rfl rfl rfl) (fun _ _ => rfl))
      exact invalidated.know Cache.fresh_invalidate
  next unknown =>
    -- Nothing is marked before the first session is known, but there is nothing to mark either.
    have empty := faithful.unknown unknown
    exact faithful.know (empty ▸ Cache.fresh_nil)

theorem Faithful.active_fresh (faithful : Faithful documents log workspace remote)
    (noted : workspace.session = some remote.session) (kind : ViewKind) :
    (workspace.view kind).cache.Fresh kind.schema (kind.Known documents log) := by
  by_cases isEvents : kind = .events
  · subst isEvents
    exact faithful.events noted
  · exact faithful.held kind isEvents

theorem Faithful.show (faithful : Faithful documents log workspace remote)
    (noted : workspace.session = some remote.session) {kind : ViewKind} {view : ListView}
    (rows : view.schedule.phase = .synchronizing ∨ view.Ordered kind.schema)
    (fresh : view.cache.Fresh kind.schema (kind.Known documents log)) :
    Faithful documents log (workspace.setView kind view) remote where
  limit := faithful.limit
  gathers := faithful.gathers
  rows other := by
    rw [view_setView]
    split
    next same => exact same ▸ rows
    next => exact faithful.rows other
  held other notEvents := by
    rw [view_setView]
    split
    next same => exact same ▸ fresh
    next => exact faithful.held other notEvents
  unknown unknown := by
    rw [session_setView, noted] at unknown
    cases unknown
  known session known := faithful.known session (workspace.session_setView kind view ▸ known)
  events _ := by
    rw [view_setView]
    split
    next same => subst same; exact fresh
    next => exact faithful.events noted

theorem Faithful.items_known (faithful : Faithful documents log workspace remote)
    (isHeld : remote.document ∈ documents) (kind : ViewKind) :
    ∀ item ∈ (kind.collection remote.document).reachable, kind.Known documents log item := by
  intro item member
  rw [ViewKind.collection, Collection.reachable_ofList] at member
  cases kind with
  | events => exact faithful.gathers.mem_log member
  | projects | tasks | transfers => exact List.mem_flatMap.2 ⟨remote.document, isHeld, member⟩

/-- Showing the document in the active table brings it up to date, or leaves it stuck. -/
theorem Faithful.showDocument (faithful : Faithful documents log workspace remote)
    (noted : workspace.session = some remote.session) (isHeld : remote.document ∈ documents)
    (polling : workspace.activeView.schedule.phase = .polling) :
    let shown := workspace.showDocument remote.document
    Faithful documents log shown.1 remote ∧ ∀ report, shown.2 = .refreshed report →
      NoCollisions documents →
      Mirrors shown.1.active.schema (shown.1.active.items remote.document) shown.1.activeView := by
  have fresh := faithful.active_fresh noted workspace.active
  have areKnown := faithful.items_known isHeld workspace.active
  -- A table that polls is not one of those that are stuck.
  have ordered : workspace.activeView.Ordered workspace.active.schema := by
    refine (faithful.rows workspace.active).resolve_left fun stuck => ?_
    rw [activeView, stuck] at polling
    cases polling
  cases isFirst : workspace.firstRefused? remote.document with
  | some index =>
    rw [showDocument_of_refused isFirst]
    refine ⟨faithful.show noted (.inl ?_) (fresh.abandoned areKnown index), ?_⟩
    · rw [ListView.fetchAbandoned, Table.Schedule.beginSync?, if_pos polling]
      rfl
    · intro report isReport
      cases isReport
  | none =>
    obtain ⟨_, isShown⟩ := showDocument_of_accepted isFirst polling
    have isOrdered := ListView.fetchComplete_ordered (workspace.active.collection remote.document) polling ordered
    have isFresh := ListView.fetchComplete_fresh _ polling fresh areKnown
    rw [isShown]
    refine ⟨faithful.show noted (.inr isOrdered) isFresh, fun _ _ distinct => ?_⟩
    have coherent := distinct.coherent_known faithful.gathers.ascending workspace.active
    have mirrors := ListView.fetchComplete_mirrors _ polling fresh areKnown coherent ordered
    rw [active_setView, activeView_setView]
    rwa [ViewKind.collection, Collection.reachable_ofList] at mirrors

theorem Faithful.ask (faithful : Faithful documents log workspace remote) {before : Link} (link : Link)
    {now : Nat} {view : ListView}
    (begun : (workspace.relink before).activeView.tick? now before = some view) :
    Faithful documents log (workspace.asking view before link) remote ∧
      (workspace.asking view before link).activeView.schedule.phase = .polling := by
  obtain ⟨schedule, isView, idle, polling⟩ := ListView.tick?_eq_some _ begun
  have linked := faithful.keep (keeps_relink workspace before)
  have due := linked.keep (keeps_setView _ workspace.active view (isView ▸ .still rfl rfl rfl)
    (fun stuck => nomatch idle.symm.trans stuck))
  refine ⟨due.keep (keeps_relink _ link), ?_⟩
  have isActive : (workspace.asking view before link).activeView = view :=
    (view_relink _ link _).trans ((workspace.relink before).activeView_setView view)
  rw [isActive, isView]
  exact polling

theorem Faithful.setActive (faithful : Faithful documents log workspace remote) (kind : ViewKind) :
    Faithful documents log (workspace.setActive kind) remote := by
  have activated := faithful.keep (keeps_active workspace kind)
  have diagnosing := activated.keep (keeps_updateAll _
    (fun _ view => view.reschedule (·.setDiagnosticsOpen kind.isDiagnostics))
    (fun _ _ => .still rfl rfl rfl) (fun _ _ => rfl))
  exact diagnosing.keep (keeps_adjust _ kind .forceRefresh)

theorem faithful_new (intervals : Intervals) (limit : 1 ≤ remote.messageLimit)
    (gathers : remote.document.Gathers log) :
    Faithful documents log (Workspace.new intervals) remote := by
  have faithful : Faithful documents log (blank intervals) remote := {
    limit
    gathers
    rows := fun kind => by
      rw [view_blank]
      exact .inr (ListView.ordered_new kind.schema _)
    held := fun kind _ => by
      rw [view_blank]
      exact Cache.fresh_nil
    unknown := fun _ => rfl
    known := fun _ known => nomatch known
    events := fun known => nomatch known }
  exact faithful.setActive .tasks

variable [Fetcher φ]

/-- A tick leaves the workspace faithful, and its active table as the mirror of the document if it was
refreshed. -/
theorem Faithful.tick (faithful : Faithful documents log workspace remote) (now : Nat)
    (isHeld : (workspace.tick now remote).2.1.document ∈ documents) :
    let ticked := workspace.tick now remote
    (∃ log, Faithful documents log ticked.1 ticked.2.1) ∧ ∀ report, ticked.2.2 = .refreshed report →
      NoCollisions documents →
      Mirrors ticked.1.active.schema (ticked.1.active.items ticked.2.1.document) ticked.1.activeView := by
  intro ticked
  change ticked.2.1.document ∈ documents at isHeld
  cases begun : (workspace.relink remote.link).activeView.tick? now remote.link with
  | none =>
    have isTicked : ticked = _ := tick_of_not_due begun
    rw [isTicked]
    exact ⟨⟨log, faithful.keep (keeps_relink workspace remote.link)⟩, fun report isReport => nomatch isReport⟩
  | some view =>
    have refreshes := remote.refresh_refreshes
    have asked (link : Link) := faithful.ask link begun
    cases isRefresh : remote.refresh with
    | mk answer after =>
      rw [isRefresh] at refreshes
      cases answer with
      | error failure =>
        have isTicked : ticked = _ := tick_of_failure begun (RemoteDocument.source_refresh isRefresh)
        obtain ⟨log, refreshed⟩ := (asked after.link).1.refresh refreshes
        rw [isTicked]
        exact ⟨⟨log, refreshed.keep (keeps_fetchFailed _ workspace.active)⟩,
          fun report isReport => nomatch isReport⟩
      | ok _ =>
        have isTicked : ticked = _ := tick_of_answer begun (RemoteDocument.source_refresh isRefresh)
        obtain ⟨log, refreshed⟩ := (asked after.link).1.refresh refreshes
        -- The session is noted before the document is shown, so that entries of an earlier log no longer
        -- count.
        have polling := (workspace.asking view remote.link after.link).phase_noteSession after.session
        rw [(asked after.link).2] at polling
        rw [isTicked] at isHeld ⊢
        have shown := refreshed.noteSession.showDocument (noteSession_session _ _) isHeld polling
        exact ⟨⟨log, shown.1⟩, shown.2⟩

theorem Faithful.obey {state : Workspace × RemoteDocument φ} (faithful : Faithful documents log state.1 state.2)
    (command : Command) (isHeld : (Workspace.obey state command).2.document ∈ documents) :
    ∃ log, Faithful documents log (Workspace.obey state command).1 (Workspace.obey state command).2 := by
  cases command with
  | tick now => exact (faithful.tick now isHeld).1
  | setActive kind => exact ⟨log, faithful.setActive kind⟩
  | setIntervals intervals =>
    exact ⟨log, faithful.keep (keeps_updateAll _
      (fun kind view => view.reschedule (·.setCadence (intervals.cadence kind)))
      (fun _ _ => .still rfl rfl rfl) (fun _ _ => rfl))⟩
  | forceRefresh => exact ⟨log, faithful.keep (keeps_adjust _ _ .forceRefresh)⟩
  | applyLayout kind layout => exact ⟨log, faithful.keep (keeps_adjust _ kind (.applyLayout layout))⟩
  | adjust kind adjustment => exact ⟨log, faithful.keep (keeps_adjust _ kind adjustment)⟩

theorem Faithful.run {state : Workspace × RemoteDocument φ} (faithful : Faithful documents log state.1 state.2)
    (commands : List Command) (areHeld : Workspace.documents state commands ⊆ documents) :
    ∃ log, Faithful documents log (Workspace.run state commands).1 (Workspace.run state commands).2 := by
  induction commands generalizing state log with
  | nil => exact ⟨log, faithful⟩
  | cons command rest ih =>
    have ⟨_, restHeld⟩ := List.cons_subset.1 areHeld
    obtain ⟨log, obeyed⟩ := faithful.obey command
      (restHeld (document_mem_documents (Workspace.obey state command) rest))
    exact ih obeyed restHeld

/-- Whatever the gateway answers and whatever is done in between, a tick that refreshes leaves the active
table as the mirror of the document. -/
theorem run_new_tick_mirrors {remote : RemoteDocument φ} (reachable : remote.Reachable)
    (intervals : Intervals) (commands : List Command) (now : Nat) :
    let start := (Workspace.new intervals, remote)
    let reached := run start commands
    let ticked := reached.1.tick now reached.2
    NoCollisions (Workspace.documents start (commands ++ [.tick now])) →
      ∀ report, ticked.2.2 = .refreshed report →
        Mirrors ticked.1.active.schema (ticked.1.active.items ticked.2.1.document)
          ticked.1.activeView := by
  intro start reached ticked distinct report isReport
  have isHeld : ticked.2.1.document ∈ Workspace.documents start (commands ++ [.tick now]) := by
    have final := final_document_mem_documents start (commands ++ [.tick now])
    rwa [run_append_single] at final
  obtain ⟨limit, log, gathers⟩ := reachable.gathers
  have begun : Faithful (Workspace.documents start (commands ++ [.tick now])) log start.1 start.2 :=
    faithful_new intervals limit gathers
  obtain ⟨log, faithful⟩ := begun.run commands (documents_subset_append start commands _)
  exact (faithful.tick now isHeld).2 report isReport distinct

section Restart

def plainMessage (seqno : UInt64) (body : String) : Message :=
  { seqno, body, timestamp := ⟨⟨⟨1970, 1, 1⟩, 0, 0, 0, 0⟩, 0⟩ }

/-- A gateway whose client is started anew after its first answer, and cannot be asked for its new log at
once. The number of the message is used again. -/
def restartingGateway : ToldGateway where
  polls := [
    { state := .ok { projects := [{ masterUrl := "a" }] }
      messages := [.ok { latestSeqno := 1, messages := [plainMessage 1 "before"] }] },
    { state := .ok {}
      messages := [.ok {}, .error (.ofText "connection refused")] },
    { state := .ok { projects := [{ masterUrl := "a", suspended := true }] }
      messages := [.ok { latestSeqno := 1, messages := [plainMessage 1 "after"] }] }]

def restartingDocument : RemoteDocument ToldGateway :=
  { fetcher := restartingGateway, maxFailures := 3, messageLimit := 1 }

def restartingCommands : List Command := [.setActive .events, .tick 0, .tick 10000]

def restartingStart : Workspace × RemoteDocument ToldGateway := (Workspace.new {}, restartingDocument)

/-- A message of the new log takes the place of the one that had its number before. -/
theorem restarted_log_mirrored :
    let reached := run restartingStart restartingCommands
    let ticked := reached.1.tick 20000 reached.2
    restartingDocument.Reachable ∧
      NoCollisions (Workspace.documents restartingStart (restartingCommands ++ [.tick 20000])) ∧
      ticked.2.2 = .refreshed ⟨{ formatted := 1, changed := 1 }, false, true⟩ ∧
      reached.1.activeView.cellText 0 3 = "before" ∧ ticked.1.activeView.cellText 0 3 = "after" ∧
      Mirrors ticked.1.active.schema (ticked.1.active.items ticked.2.1.document)
        ticked.1.activeView := by
  have reachable : restartingDocument.Reachable := .opened restartingGateway 3 1 (by decide)
  have distinct : NoCollisions (Workspace.documents restartingStart (restartingCommands ++ [.tick 20000])) := by
    decide +kernel
  have refreshed : ((run restartingStart restartingCommands).1.tick 20000
      (run restartingStart restartingCommands).2).2.2 =
        .refreshed ⟨{ formatted := 1, changed := 1 }, false, true⟩ := by
    decide +kernel
  have mirrors := run_new_tick_mirrors reachable {} restartingCommands 20000
  exact ⟨reachable, distinct, refreshed, by decide +kernel, by decide +kernel,
    mirrors distinct _ refreshed⟩

end Restart

end ComputeMonitor.Workspace
