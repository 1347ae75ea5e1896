/-!
Keys of a keyboard, as a terminal reports them.
-/

set_option autoImplicit false

namespace ComputeMonitor.Screen

inductive Key where
  | char (char : Char)
  | up
  | down
  | left
  | right
  | pageUp
  | pageDown
  | home
  | ending
  | enter
  | escape
  | tab
  | backTab
  | backspace
  | delete
  | insert
  | function (number : Nat)
  | null
  | capsLock
  | scrollLock
  | numLock
  | printScreen
  | pause
  | menu
  | keypadBegin
  | media (number : Nat)
  | modifier (number : Nat)
  deriving DecidableEq, Repr, Inhabited

structure Modifiers where
  control : Bool := false
  alt : Bool := false
  shift : Bool := false
  superKey : Bool := false
  hyperKey : Bool := false
  metaKey : Bool := false
  deriving DecidableEq, Repr, Inhabited

structure KeyPress where
  key : Key
  modifiers : Modifiers := {}
  deriving DecidableEq, Repr, Inhabited

def KeyPress.isPlain (press : KeyPress) : Bool := press.modifiers == {}

end ComputeMonitor.Screen
