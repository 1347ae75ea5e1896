import ComputeMonitor.Config.Loading
import ComputeMonitor.Proofs.Toml.Lines

/-!
When the example of a configuration can be loaded.

The example names the path of its file in a comment, with the path as it is. So the comment holds the first line of
the path, and what is behind its line feed is read as configuration. Whatever else a path is made of, it does no
harm, unless it is a control character.
-/

set_option autoImplicit false

namespace ComputeMonitor.Configuration

open ComputeMonitor.Toml

section Settings

/-- The same settings, wherever a log is written to. -/
structure SameSettings (configuration other : Configuration) : Prop where
  base : configuration.base = other.base
  timeout : configuration.timeoutMilliseconds = other.timeoutMilliseconds
  failureLimit : configuration.failureLimit = other.failureLimit
  messageCount : configuration.messageCount = other.messageCount
  intervals : configuration.intervals = other.intervals
  level : configuration.level = other.level
  databasePath : configuration.databasePath = other.databasePath

/-- A text can be loaded as a configuration, and says what holds without one. -/
def LoadsDefaults (text : String) : Prop :=
  ∃ configuration, load text = .ok configuration ∧ configuration.SameSettings {}

def exampleConfiguration : Configuration where
  address := some defaultAddress
  timeout := some defaultTimeout
  maxFailures := some Gateway.defaultMaxFailures
  messageLimit := some Gateway.defaultMessageLimit
  refresh := {
    floor := some "1s"
    retry := some "5s"
    projects := some "5s"
    tasks := some "1s"
    transfers := some "1s"
    events := some "1s" }
  logLevel := some defaultLogLevel

theorem exampleConfiguration_sameSettings : exampleConfiguration.SameSettings {} where
  base := rfl
  timeout := rfl
  failureLimit := rfl
  messageCount := rfl
  intervals := by decide +kernel
  level := rfl
  databasePath := rfl

end Settings

section Lines

def exampleBody : List Char := ['\n'].intercalate (exampleLines.map String.toList)

theorem toList_exampleLines (lines : List String) : ("\n".intercalate (lines ++ exampleLines)).toList =
    (lines.map (·.toList ++ ['\n'])).flatten ++ exampleBody := by
  rw [String.toList_intercalate]
  induction lines with
  | nil =>
    rw [exampleBody, List.nil_append, List.map_nil, List.flatten_nil, List.nil_append]
    rfl
  | cons line others ih =>
    have nonempty : (others ++ exampleLines).map String.toList ≠ [] :=
      mt List.map_eq_nil_iff.1 (List.append_ne_nil_of_right_ne_nil _ (List.cons_ne_nil _ _))
    rw [List.cons_append, List.map_cons, List.intercalate_cons_of_ne_nil nonempty, ih]
    simp

theorem toList_exampleText (path : String) : (exampleText path).toList =
    '#' :: (" boincview config".toList ++ '\n' ::
      '#' :: (" Place this file at: ".toList ++ path.toList ++ '\n' :: exampleBody)) := by
  have lines := toList_exampleLines ["# boincview config", "# Place this file at: " ++ path]
  simpa [exampleText] using lines

/-- A line feed in the path ends the comment. What follows it is a line of the configuration. -/
theorem read?_exampleText {path : String} {first behind : List Char} (oneLine : '\n' ∉ first)
    (lines : path.toList ++ '\n' :: exampleBody = first ++ '\n' :: behind) :
    read? (exampleText path) = if FitsComment first then entriesOf? behind else none := by
  have clean : " Place this file at: ".toList.all (!isControl ·) = true := by decide +kernel
  have place : '\n' ∉ " Place this file at: ".toList ++ first := by
    rw [List.mem_append, not_or]
    exact ⟨by decide +kernel, oneLine⟩
  rw [read?_eq, toList_exampleText, List.append_assoc, lines, ← List.append_assoc]
  -- The heading is two comments, and the line feed of the path ends the second one.
  calc
    _ = entriesOf? ('#' :: (" Place this file at: ".toList ++ first ++ '\n' :: behind)) := by
      rw [withoutMark, entriesOf?_comment (by decide +kernel), if_pos (by decide +kernel)]
      simp
    _ = _ := by
      rw [entriesOf?_comment place]
      simp only [fitsComment_append fun c member => by simpa using List.all_eq_true.1 clean c member]

end Lines

section Loading

theorem load_congr {text other : String} (same : read? text = read? other) : load text = load other := by
  unfold load
  rw [same]

theorem load_eq_error {text : String} (unread : read? text = none) : load text = .error .noToml := by
  unfold load
  rw [unread]

theorem load_eq_ok {text : String} {entries : Entries} {configuration : Configuration}
    (read : read? text = some entries) (version : version? entries = some currentVersion)
    (decoded : decode? entries = some configuration) (valid : configuration.validate = .ok ()) :
    load text = .ok configuration := by
  simp only [load, read, version, decoded, valid]
  rfl

theorem read?_emptyLine {text : String} {behind : List Char} (lines : text.toList = '\n' :: behind) :
    read? text = entriesOf? behind := by
  rw [read?_eq, lines, withoutMark, entriesOf?_emptyLine]
  simp

theorem entriesOf?_exampleBody : (entriesOf? exampleBody).map (fun entries => (version? entries, decode? entries)) =
    some (some currentVersion, some exampleConfiguration) := by
  decide +kernel

theorem loadsDefaults_exampleBody {text : String} (lines : text.toList = '\n' :: exampleBody) :
    LoadsDefaults text := by
  obtain ⟨entries, isBody, same⟩ := Option.map_eq_some_iff.1 entriesOf?_exampleBody
  obtain ⟨version, decoded⟩ := Prod.mk.inj same
  have valid : exampleConfiguration.validate = .ok () := by decide +kernel
  have read := (read?_emptyLine lines).trans isBody
  exact ⟨exampleConfiguration, load_eq_ok read version decoded valid, exampleConfiguration_sameSettings⟩

theorem loadsDefaults_iff {path text : String} {first behind : List Char} (oneLine : '\n' ∉ first)
    (lines : path.toList ++ '\n' :: exampleBody = first ++ '\n' :: behind) (isBehind : text.toList = '\n' :: behind) :
    LoadsDefaults (exampleText path) ↔ FitsComment first ∧ LoadsDefaults text := by
  have read := read?_exampleText oneLine lines
  by_cases fits : FitsComment first
  · rw [if_pos fits, ← read?_emptyLine isBehind] at read
    unfold LoadsDefaults
    rw [load_congr read]
    exact (and_iff_right fits).symm
  · -- What is no comment is no statement either, so that there is no document at all.
    rw [if_neg fits] at read
    refine iff_of_false ?_ (fun both => fits both.1)
    rintro ⟨configuration, loaded, -⟩
    rw [load_eq_error read] at loaded
    cases loaded

end Loading

/-- A path of one line gives an example that loads as the defaults just when a comment may hold the path. What
stands behind a line feed of the path becomes lines of the configuration instead, and loads as such. The empty line in
front of them only keeps a mark of the byte order from being dropped. -/
theorem exampleText_loads_iff (first : String) (oneLine : '\n' ∉ first.toList) :
    (LoadsDefaults (exampleText first) ↔ FitsComment first.toList) ∧
    ∀ further, LoadsDefaults (exampleText (first ++ "\n" ++ further)) ↔
      FitsComment first.toList ∧ LoadsDefaults ("\n".intercalate ("" :: further :: exampleLines)) := by
  constructor
  · have body : ("\n".intercalate ([""] ++ exampleLines)).toList = '\n' :: exampleBody :=
      toList_exampleLines [""]
    rw [loadsDefaults_iff oneLine rfl body]
    exact and_iff_left (loadsDefaults_exampleBody body)
  · intro further
    have lines : (first ++ "\n" ++ further).toList ++ '\n' :: exampleBody =
        first.toList ++ '\n' :: (further.toList ++ '\n' :: exampleBody) := by
      simp
    refine loadsDefaults_iff oneLine lines ?_
    simpa using toList_exampleLines ["", further]

theorem exampleText_loads_quotes : '\n' ∉ "C:\\\"[#]\" =\t\r".toList ∧
    LoadsDefaults (exampleText "C:\\\"[#]\" =\t\r") ∧
    ∀ further, LoadsDefaults (exampleText ("C:\\\"[#]\" =\t\r" ++ "\n" ++ further)) ↔
      LoadsDefaults ("\n".intercalate ("" :: further :: exampleLines)) := by
  have oneLine : '\n' ∉ "C:\\\"[#]\" =\t\r".toList := by decide +kernel
  have fits : FitsComment "C:\\\"[#]\" =\t\r".toList := by decide +kernel
  have ⟨loads, behind⟩ := exampleText_loads_iff _ oneLine
  exact ⟨oneLine, loads.2 fits, fun further => (behind further).trans (and_iff_right fits)⟩

/-- Behind a line feed in a path there may be what is no statement. -/
theorem exampleText_not_always_loads : ¬ ∀ path, LoadsDefaults (exampleText path) := by
  intro always
  have lines : "a\nb".toList ++ '\n' :: exampleBody = ['a'] ++ '\n' :: 'b' :: '\n' :: exampleBody := rfl
  have read := read?_exampleText (by decide) lines
  have unread (behind : List Char) : entriesOf? ('b' :: '\n' :: behind) = none := rfl
  rw [unread, ite_self] at read
  obtain ⟨configuration, loaded, -⟩ := always "a\nb"
  rw [load_eq_error read] at loaded
  cases loaded

end ComputeMonitor.Configuration
