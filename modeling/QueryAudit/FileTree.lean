import QueryAudit.Text.Utf8
import QueryAudit.Text.Cut
/-!
# Files and environment

What a program sees of the machine it runs on: a tree of files, and variables. Both hold octets, which
need not be text; nor need the names of files be.
-/

namespace QueryAudit

/-- What stands at a place in a tree of files. -/
inductive FileNode
  | file (content : Bytes)
  | directory
deriving DecidableEq

/-- Files and directories by the names on the way to them. What lies on the way to something is a
directory, also without an entry of its own. -/
structure FileTree where
  entries : List (List Bytes × FileNode)
  /-- Where paths start that do not start at the root. Without it they lead nowhere. -/
  start : Option (List Bytes) := none

namespace FileTree

/-- What stands at the end of a way from the root. -/
def at? (t : FileTree) (way : List Bytes) : Option FileNode :=
  match t.entries.lookup way with
  | some node => some node
  | none =>
    if way.isEmpty || t.entries.any fun e => way.isPrefixOf e.1 then some .directory else none

/-- The place that one part of a path leads to. -/
def follow (place : List Bytes) (part : Bytes) : List Bytes :=
  if part = [] ∨ part = octets "." then place else if part = octets ".." then place.dropLast else place ++ [part]

/-- The way that the parts of a path lead, from a place on. Only a directory leads anywhere. -/
def walk? (t : FileTree) (place : List Bytes) : List Bytes → Option (List Bytes)
  | [] => some place
  | part :: parts =>
    if t.at? place = some .directory then walk? t (follow place part) parts else none

/-- Whether a path starts at the root. -/
def isAbsolute (path : Bytes) : Bool := path.head? == some 0x2F

/-- The parts of a path. -/
def parts (path : Bytes) : List Bytes := Text.cutAt 0x2F path

/-- What stands at a path, if anything does. The empty path leads nowhere. -/
def find? (t : FileTree) (path : Bytes) : Option FileNode :=
  if path = [] then none
  else do
    let place ← if isAbsolute path then some [] else t.start
    t.at? (← t.walk? place (parts path))

/-- Whether anything stands at a path. -/
def has (t : FileTree) (path : Bytes) : Bool := (t.find? path).isSome

end FileTree

/-- Variables with their values. -/
structure Environment where
  entries : List (String × Bytes)
  /-- The home directory that belongs to the account. -/
  accountHome : Option Bytes := none

namespace Environment

/-- The value of a variable. -/
def get? (e : Environment) (name : String) : Option Bytes := e.entries.lookup name

/-- The value of a variable, if it is a text. -/
def text? (e : Environment) (name : String) : Option String := (e.get? name).bind ofOctets?

/-- The home directory: the one that a variable names, or else the account's. An empty name is none. -/
def home? (e : Environment) : Option Bytes :=
  (e.get? "HOME").filter (!·.isEmpty) <|> e.accountHome.filter (!·.isEmpty)

end Environment

end QueryAudit
