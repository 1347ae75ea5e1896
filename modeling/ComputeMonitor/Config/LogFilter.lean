import ComputeMonitor.DocumentSource
import ComputeMonitor.Number.Decimal
import ComputeMonitor.Pattern.Acceptance
import ComputeMonitor.Text.Utf8Slice

/-!
Filters of the log: directives with commas between them, each with a level, a target, a span in
brackets with a field in braces, or several of these. Only whether a text is a filter is decided
here.
-/

set_option autoImplicit false

namespace ComputeMonitor.Config

open ComputeMonitor.Text

def levelNames : List String := ["off", "error", "warn", "info", "debug", "trace"]

def isLevel (chars : List Char) : Bool :=
  chars.isEmpty || levelNames.contains (String.ofList (chars.map lowerAscii)) ||
    (readUInt64? chars).any (· ≤ 5)

/-- Whether a text is the value of a field: a truth value, a number, or a pattern. Every spelling
of a truth value is a pattern too. -/
def isFieldValue (chars : List Char) : Bool :=
  (Number.readBinary64? chars).isSome || isPattern chars

/-- Whether a text is a field: a name, with a value behind an equals sign. What follows a second
equals sign does not count. -/
def isField (chars : List Char) : Bool :=
  match splitAll '=' chars with
  | _ :: value :: _ => isFieldValue value
  | _ => true

def startsTarget (c : Char) : Bool := c = '-' || c = ':' || c = '_' || isAlphanumeric c

/-- Why a text is no filter. A directive with a part that would begin or end inside a character
crashes the reading. -/
inductive FilterFault where
  | directive
  | field
  | level
  | crashed
  deriving DecidableEq, Repr

def FilterFault.stop : FilterFault → Stop
  | .directive => .ofText "invalid filter directive"
  | .field => .ofText "invalid field filter"
  | .level =>
    let expected := "error parsing level filter: expected one of \"off\", \"error\", \"warn\", " ++
      "\"info\", \"debug\", \"trace\", or a number 0-5"
    .failed ⟨[expected, expected]⟩
  | .crashed => .crashed

def partBetween (first place : Nat) (directive : List Char) : Except FilterFault (List Char) :=
  match slice? first place directive with
  | some part => .ok part
  | none => .error .crashed

/-- Where the reading of a directive stands. A span, a field and the level keep the places where
they start. -/
inductive DirectiveState where
  | start
  | target
  | span (place : Nat)
  | field (place : Nat)
  | afterFields
  | afterSpan
  | level (place : Nat)

def DirectiveState.next (directive : List Char) (state : DirectiveState) (c : Char)
    (place behind : Nat) : Except FilterFault DirectiveState :=
  match state with
  | .start =>
    if c = '[' then .ok (.span behind)
    else if startsTarget c then .ok .target
    else .error .directive
  | .target =>
    if c = '=' || c = '[' then
      (partBetween 0 place directive).map fun _ => if c = '=' then .level behind else .span behind
    else .ok state
  | .span first =>
    if c = ']' || c = '\x7b' then
      (partBetween first place directive).map fun _ => if c = ']' then .afterSpan else .field behind
    else .ok state
  | .field first =>
    if c ≠ '\x7d' then .ok state
    else do
      let field ← partBetween first place directive
      if field.isEmpty then .error .directive
      else if isField field then .ok .afterFields
      else .error .field
  | .afterFields => if c = ']' then .ok .afterSpan else .error .directive
  | .afterSpan => if c = '=' then .ok (.level behind) else .error .directive
  | .level _ => .ok state

/-- Read the characters of a directive. Places are counted in bytes. -/
def directiveEnd (directive : List Char) :
    DirectiveState → Nat → List Char → Except FilterFault DirectiveState
  | state, _, [] => .ok state
  | state, place, c :: rest => do
    let behind := place + c.utf8Size
    directiveEnd directive (← state.next directive c place behind) behind rest

/-- Check a directive. Blanks around it are passed over, but the places of its parts are counted
without the ones before it. -/
def checkDirective (directive : List Char) : Except FilterFault Unit := do
  match ← directiveEnd directive .start 0 (trimChars directive) with
  | .target => .ok ()
  | .afterSpan => .ok ()
  | .level place =>
    match dropBytes? place directive with
    | some level => if isLevel level then .ok () else .error .level
    | none => .error .crashed
  | _ => .error .directive

def checkLogFilter (text : String) : Except FilterFault Unit :=
  ((splitAll ',' text.toList).filter (!·.isEmpty)).forM checkDirective

end ComputeMonitor.Config
