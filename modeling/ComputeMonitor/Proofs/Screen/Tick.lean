import ComputeMonitor.Screen.Console

/-!
What a tick of the clock does to the screen.

Whatever became of the poll, the state of the link and whether rows are stale are taken over from the tables.
A tick that leaves the screen as it is has found neither of them changed.
-/

set_option autoImplicit false

namespace ComputeMonitor.Screen

namespace AppState

variable (state : AppState)

theorem dispatch_observeLink (link : Link) : ∃ statusLine events,
    state.dispatch (.observeLink link) = ({ state with link, statusLine }, events) ∧
      (events = [] → link = state.link ∧ statusLine = state.statusLine) := by
  by_cases same : link = state.link
  · exact ⟨state.statusLine, [], by simp [dispatch, same], fun _ => ⟨same, rfl⟩⟩
  · refine ⟨_, _, if_neg same, fun quiet => ?_⟩
    cases quiet

theorem dispatch_observeStale (stale : Bool) : ∃ events,
    state.dispatch (.observeStale stale) = ({ state with stale }, events) ∧
      (events = [] → stale = state.stale) := by
  by_cases same : stale = state.stale
  · exact ⟨[], by simp [dispatch, same], fun _ => same⟩
  · refine ⟨_, if_neg same, fun quiet => ?_⟩
    cases quiet

end AppState

namespace Console

/-- A screen that shows the link and the staleness of its tables, and nothing else than before but the status
line. -/
structure Observed (console after : Console) : Prop where
  workspace : after.workspace = console.workspace
  focus : after.focus = console.focus
  activeView : after.app.activeView = console.app.activeView
  link : after.app.link = console.workspace.link
  stale : after.app.stale = console.workspace.isStale

variable {console : Console}

theorem observe_observed (console : Console) : console.Observed console.observe.1 := by
  obtain ⟨statusLine, linkEvents, linked, -⟩ := console.app.dispatch_observeLink console.workspace.link
  unfold observe
  rw [linked]
  dsimp only
  obtain ⟨staleEvents, isObserved, -⟩ := AppState.dispatch_observeStale _ console.workspace.isStale
  rw [isObserved]
  constructor <;> rfl

theorem Observed.announce {after : Console} (observed : console.Observed after) (notice : String) :
    console.Observed (after.announce notice) :=
  ⟨observed.workspace, observed.focus, observed.activeView, observed.link, observed.stale⟩

theorem Observed.countStatusOf {after : Console} (observed : console.Observed after) (events : List AppEvent) :
    console.Observed (after.countStatusOf events) := by
  unfold Console.countStatusOf
  split
  · exact ⟨observed.workspace, observed.focus, observed.activeView, observed.link, observed.stale⟩
  · exact observed

theorem observe_of_quiet (console : Console) (quiet : console.observe.2 = []) : console.observe.1 = console := by
  obtain ⟨statusLine, linkEvents, linked, linkSame⟩ := console.app.dispatch_observeLink console.workspace.link
  obtain ⟨staleEvents, isObserved, staleSame⟩ :=
    AppState.dispatch_observeStale { console.app with link := console.workspace.link, statusLine }
      console.workspace.isStale
  -- The staleness is compared with a state that has taken over the link, which is the old state if that is quiet.
  unfold observe at quiet ⊢
  rw [linked] at quiet ⊢
  dsimp only at quiet ⊢
  rw [isObserved] at quiet ⊢
  obtain ⟨linkQuiet, staleQuiet⟩ := List.append_eq_nil_iff.1 quiet
  rw [(linkSame linkQuiet).1, (linkSame linkQuiet).2, staleSame staleQuiet]

theorem settle_of_settled {repaint : Bool} (settled : (console.settle repaint).2 = .settled false) :
    (console.settle repaint).1 = console ∧ repaint = false := by
  have quiet : (repaint || !console.observe.2.isEmpty) = false := TickEffect.settled.inj settled
  simp only [Bool.or_eq_false_iff, Bool.not_eq_false', List.isEmpty_iff] at quiet
  refine ⟨?_, quiet.1⟩
  unfold settle
  dsimp only
  rw [quiet.2, console.observe_of_quiet quiet.2]
  rfl

variable {σ : Type} [DocumentSource σ] {now : Nat} {source : σ}

theorem tick_observed (survived : (console.tick now source).2.2 ≠ .crashed) :
    (console.workspace.tick now source).2.2 ≠ .crashed ∧
      Observed { console with workspace := (console.workspace.tick now source).1 }
        (console.tick now source).1 := by
  unfold tick at survived ⊢
  generalize console.workspace.tick now source = result at survived ⊢
  obtain ⟨workspace, after, outcome⟩ := result
  have observed := observe_observed { console with workspace }
  cases outcome with
  | crashed => exact (survived rfl).elim
  | skipped => exact ⟨nofun, observed.countStatusOf _⟩
  | refreshed report => exact ⟨nofun, observed.countStatusOf _⟩
  | failed failure =>
    refine ⟨nofun, ?_⟩
    dsimp only
    split
    · exact observed.announce _
    · exact observed.countStatusOf _

/-- A tick that leaves the screen has at most changed the tables, by an answer that did not ask for it to be
drawn again. -/
theorem tick_of_settled (settled : (console.tick now source).2.2 = .settled false) :
    let ticked := console.workspace.tick now source
    (console.tick now source).1 = { console with workspace := ticked.1 } ∧
      (ticked.2.2 = .skipped ∨ ∃ report, ticked.2.2 = .refreshed report ∧ report.repaint = false) := by
  unfold tick at settled ⊢
  generalize console.workspace.tick now source = result at settled ⊢
  obtain ⟨workspace, after, outcome⟩ := result
  cases outcome with
  | crashed => cases settled
  | skipped => exact ⟨(settle_of_settled settled).1, .inl rfl⟩
  | refreshed report =>
    obtain ⟨same, noRepaint⟩ := settle_of_settled settled
    exact ⟨same, .inr ⟨report, rfl, noRepaint⟩⟩
  | failed failure =>
    dsimp only at settled
    split at settled <;> cases settled

end Console
end ComputeMonitor.Screen
