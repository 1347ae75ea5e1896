/-!
The order of texts by code point, which is also the order of their bytes in UTF-8.
-/

set_option autoImplicit false

namespace ComputeMonitor.Text

def compareChars : List Char → List Char → Ordering
  | [], [] => .eq
  | [], _ :: _ => .lt
  | _ :: _, [] => .gt
  | left :: lefts, right :: rights =>
    (compare left.toNat right.toNat).then (compareChars lefts rights)

def compareText (left right : String) : Ordering := compareChars left.toList right.toList

def insertText (text : String) : List String → List String
  | [] => [text]
  | other :: rest =>
    if compareText other text = .gt then text :: other :: rest else other :: insertText text rest

def sortTexts (texts : List String) : List String := texts.foldr insertText []

end ComputeMonitor.Text
