import LoanCheck.Text.Split

/-!
# Paths

A path is a root and a list of components. Reading a path drops `.` components and repeated or trailing
slashes and keeps `..`; the path without root and components is written `.`.

A *place* is where a path leads: its components from the root, without `.` and `..`.
-/

namespace LoanCheck.Files

/-- A path in normal form. -/
structure Path where
  /-- Leading slashes: none, one, or exactly two. -/
  root : String
  parts : List String
deriving DecidableEq, Repr

/-- The components of a text between slashes, with empty ones. -/
def splitSlashes (text : String) : List String :=
  Text.split '/' text

/-- Components from the root. -/
abbrev Place := List String

namespace Place

/-- The place as a text. -/
def render (place : Place) : String := "/" ++ "/".intercalate place

/-- One component further. `..` leads up, and from the root to the root. -/
def step (place : Place) (component : String) : Place :=
  if component = ".." then place.dropLast else place ++ [component]

end Place

namespace Path

/-- Exactly two slashes at the front are kept apart from one; three or more count as one. -/
def rootOf (text : String) : String :=
  if text.startsWith "///" then "/"
  else if text.startsWith "//" then "//"
  else if text.startsWith "/" then "/"
  else ""

def ofString (text : String) : Path :=
  ⟨rootOf text, (splitSlashes text).filter fun c => !c.isEmpty && c != "."⟩

def toString (p : Path) : String :=
  if p.root.isEmpty && p.parts.isEmpty then "." else p.root ++ "/".intercalate p.parts

/-- The path one component further down. -/
def child (p : Path) (name : String) : Path :=
  { p with parts := p.parts ++ [name] }

/-- Where a path leads from a directory, whatever exists on the way. -/
def place (p : Path) (start : Place) : Place :=
  p.parts.foldl Place.step (if p.root.isEmpty then start else [])

end Path

end LoanCheck.Files
