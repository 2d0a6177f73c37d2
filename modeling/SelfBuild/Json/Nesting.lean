/-!
# Limits of reading and showing

How deep the containers of a JSON text may be nested before its reader gives up depends on how much
the process has already begun when it starts to read.  The limits are therefore a part of the host,
one for each place where a text is read, and one for the values that messages show.
-/

namespace SelfBuild

namespace Json

/-- The most digits that an integer may have. -/
def digitLimit : Nat := 4300

/-- The least number with more digits than that. -/
def digitBound : Nat := Nat.pow 10 digitLimit

/-- How many containers may be open at once; every process has room for a few. -/
structure Nesting where
  depth : Nat := 990
  enough : 16 ≤ depth := by decide

/-- The limits of a process. -/
structure Limits where
  request : Nesting := {}
  settings : Nesting := {}
  reply : Nesting := {}
  review : Nesting := {}
  shown : Nesting := {}

end Json

end SelfBuild
