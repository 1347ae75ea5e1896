import ComputeMonitor.Program.Machine
import ComputeMonitor.Text.Blank
import ComputeMonitor.Text.CodePointOrder

/-!
A machine in memory: variables, and a tree of files in which the program runs. Nobody answers on
its network, and it has no terminal.

A place in the tree is the list of the names on the way to it from the root.
-/

set_option autoImplicit false

namespace ComputeMonitor.Program

open ComputeMonitor.Text

inductive Node where
  | directory
  /-- A file that takes everything and holds nothing. -/
  | device
  | text (content : String)
  | database (tables : Settings.Database)
  deriving DecidableEq, Repr

abbrev Place := List String

structure FileTree where
  environment : List (String × String) := []
  home : Place
  nodes : List (Place × Node) := []

namespace FileTree

def nodeAt? (tree : FileTree) (place : Place) : Option Node :=
  if place.isEmpty then some .directory else tree.nodes.lookup place

def put (tree : FileTree) (place : Place) (node : Node) : FileTree :=
  { tree with nodes := tree.nodes.filter (·.1 ≠ place) ++ [(place, node)] }

/-! ## Paths -/

/-- The longest name of a file, in bytes. -/
def longestName : Nat := 255

def longestPath : Nat := 4095

def origin (tree : FileTree) (path : String) : Place × List String :=
  match (splitAll '/' path.toList).map String.ofList with
  | "" :: names => ([], names)
  | names => (tree.home, names)

def checkPath (path : String) : Except MachineFault Unit :=
  if path.toList.contains '\x00' then .error .nullCharacter
  else if path.isEmpty then .error .notFound
  else if longestPath < path.utf8ByteSize then .error .nameTooLong
  else .ok ()

def step (tree : FileTree) (place : Place) (name : String) : Except MachineFault Place :=
  match tree.nodeAt? place with
  | none => .error .notFound
  | some .directory =>
    if name = "" ∨ name = "." then .ok place
    else if name = ".." then .ok place.dropLast
    else if longestName < name.utf8ByteSize then .error .nameTooLong
    else .ok (place ++ [name])
  | some _ => .error .notDirectory

/-- The place that a path names. All directories on the way must be there, the place need not. -/
def locate (tree : FileTree) (path : String) : Except MachineFault Place := do
  checkPath path
  let (start, names) := tree.origin path
  names.foldlM tree.step start

/-! ## Directories -/

def makeDirectory (tree : FileTree) (start : Place) (above : List String) (name : String) :
    Except MachineFault FileTree := do
  let place ← above.foldlM tree.step start
  let made ← tree.step place name
  if name = ".." then .error .exists
  else match tree.nodeAt? made with
    | some _ => .error .exists
    | none => return tree.put made .directory

def isDirectory (tree : FileTree) (start : Place) (names : List String) : Bool :=
  match names.foldlM tree.step start with
  | .ok place => tree.nodeAt? place = some .directory
  | .error _ => false

/-- Make the directory that names lead to, given backwards, and those above it that are not there.
What has been made stays also if the rest fails. -/
def makeAll (tree : FileTree) (start : Place) : List String → FileTree × Except MachineFault Unit
  | [] => (tree, .ok ())
  | name :: above =>
    let attempt (tree : FileTree) : FileTree × Except MachineFault Unit :=
      match tree.makeDirectory start above.reverse name with
      | .ok made => (made, .ok ())
      | .error fault =>
        (tree, if fault = .exists ∧ tree.isDirectory start (name :: above).reverse then .ok ()
          else .error fault)
    match attempt tree with
    | (_, .error .notFound) =>
      match tree.makeAll start above with
      | (made, .ok ()) => attempt made
      | refused => refused
    | ended => ended

def makeDirectories (tree : FileTree) (path : String) : FileTree × Except MachineFault Unit :=
  match checkPath path with
  | .error fault => (tree, .error fault)
  | .ok () =>
    let (start, names) := tree.origin path
    tree.makeAll start (names.filter fun name => name ≠ "" ∧ name ≠ ".").reverse

/-! ## Files -/

def readText? (tree : FileTree) (path : String) : Option (Except MachineFault String) :=
  match tree.locate path with
  | .error _ => none
  | .ok place =>
    match tree.nodeAt? place with
    | none => none
    | some .directory => some (.error .isDirectory)
    | some .device => some (.ok "")
    | some (.text content) => some (.ok content)
    | some (.database _) => some (.error .notUtf8)

/-- Open a file to write to its end. A name with a slash behind it is the name of a directory,
whatever is there. -/
def openLog (tree : FileTree) (path : String) : Except MachineFault FileTree := do
  checkPath path
  let (start, names) := tree.origin path
  match names.reverse.dropWhile (· = "") with
  | [] => .error .isDirectory
  | name :: above =>
    let place ← above.reverse.foldlM tree.step start
    let _ ← tree.step place "."
    if names.getLast? = some "" then .error .isDirectory
    else
      let place ← tree.step place name
      match tree.nodeAt? place with
      | some .directory => .error .isDirectory
      | some _ => return tree
      | none => return tree.put place (.text "")

/-! ## Databases -/

def pathLength (place : Place) : Nat :=
  place.foldl (fun length name => length + 1 + name.utf8ByteSize) 0

def longestDatabasePath : Nat := 504

/-- The longest absolute path that is formed on the way to it. -/
def longestStep : Nat := 511

/-- The longest name of a database, in bytes: the name of its journal is longer by eight. -/
def longestDatabaseName : Nat := 247

/-- One step on the way to a database. What is not there can be stepped into and left again. -/
def databaseStep? (tree : FileTree) (place : Place) (name : String) : Option Place :=
  if name = "" ∨ name = "." then some place
  else if name = ".." then some place.dropLast
  else
    let next := place ++ [name]
    let isReachable : Bool := match tree.nodeAt? place with
      | none => true
      | some .directory => name.utf8ByteSize ≤ longestName
      | some _ => false
    if isReachable && pathLength next ≤ longestStep then some next else none

def databasePlace? (tree : FileTree) (path : String) : Option Place := do
  let (start, names) := tree.origin path
  let place ← names.foldlM tree.databaseStep? start
  if longestDatabasePath < pathLength place ∨ tree.nodeAt? place.dropLast ≠ some .directory then none
  else some place

/-- Open a database; an empty file is an empty one, and so is a file of one byte. A file that is
made stays also if it cannot be used. -/
def openDatabase (tree : FileTree) (path : String) : FileTree × Except OpenFault Settings.Database :=
  match tree.databasePlace? path with
  | none => (tree, .error .cannotOpen)
  | some place =>
    let opened := match tree.nodeAt? place with
      | none => tree.put place (.text "")
      | some _ => tree
    match opened.nodeAt? place with
    | some (.database tables) => (opened, .ok tables)
    | some (.text content) =>
      if 1 < content.utf8ByteSize then (opened, .error .noDatabase)
      else if longestDatabaseName < (place.getLast?.getD "").utf8ByteSize then
        (opened, .error .noJournal)
      else (opened.put place (.database []), .ok [])
    | some .device => (opened, .error .notKept)
    | _ => (opened, .error .cannotOpen)

def saveDatabase (tree : FileTree) (path : String) (tables : Settings.Database) : FileTree :=
  match tree.databasePlace? path with
  | none => tree
  | some place => tree.put place (.database tables)

/-! ## The machine -/

def attempt {ε : Type} (change : FileTree → Except ε FileTree) : StateM FileTree (Except ε Unit) :=
  fun tree => match change tree with
    | .ok changed => (.ok (), changed)
    | .error fault => (.error fault, tree)

instance : Machine (StateM FileTree) where
  valueOf? name := do return (← get).environment.lookup name
  makeDirectories path := fun tree => (tree.makeDirectories path).swap
  readText? path := do return (← get).readText? path
  openLog path := attempt (·.openLog path)
  openDatabase path := fun tree => (tree.openDatabase path).swap
  saveDatabase path tables := modify (·.saveDatabase path tables)
  ping endpoint := return .error (endpoint.unreachable Gateway.Endpoint.statePath)
  enterTerminal := return .error .noDevice

/-- Everything in the home directory by its path; paths of directories end in a slash. -/
def listing (tree : FileTree) : List String :=
  sortTexts <| tree.nodes.filterMap fun (place, node) =>
    if tree.home.isPrefixOf place ∧ place ≠ tree.home then
      let path := "/".intercalate (place.drop tree.home.length)
      some (if node = .directory then path ++ "/" else path)
    else none

def ofHome (home : Place) : FileTree where
  home
  nodes := [(["dev"], .directory), (["dev", "null"], .device)] ++
    (List.range home.length).map fun depth => (home.take (depth + 1), .directory)

end FileTree
end ComputeMonitor.Program
