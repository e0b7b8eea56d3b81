/-!
# Handles

A handle names a node of a scene by a number and a version.  Numbers are given from one on in the
order of creation, and all nodes have the first version; a handle with another one is stale.
-/

namespace Scenery

/-- A name for a node that stays the same while the node lives. -/
structure Handle where
  index : Nat
  version : Nat
  deriving DecidableEq, Repr

namespace Handle

/-- The version of nodes. -/
def firstVersion : Nat := 1

/-- The handle of the node created after `place` others. -/
def ofPlace (place : Nat) : Handle := ⟨place + 1, firstVersion⟩

/-- The place that a handle names, if its version is the first. -/
def place? (h : Handle) : Option Nat :=
  if h.version = firstVersion ∧ 0 < h.index then some (h.index - 1) else none

/-- A handle from any two numbers; versions are odd, and an even one means the next. -/
def ofParts (index version : Nat) : Handle :=
  ⟨index, if version % 2 = 0 then version + 1 else version⟩

/-- The number that names no node. -/
def nullIndex : Nat := 0xFFFFFFFF

/-- The text of a handle in messages. -/
def display (h : Handle) : String :=
  if h.index = nullIndex then "NodeId(null)"
  else "NodeId(" ++ toString h.index ++ "v" ++ toString h.version ++ ")"

@[simp] theorem place?_ofPlace (place : Nat) : (ofPlace place).place? = some place := by
  simp [ofPlace, place?]

/-- A handle with a place is the one of that place. -/
theorem eq_ofPlace_of_place? {h : Handle} {place : Nat} (hp : h.place? = some place) :
    h = ofPlace place := by
  obtain ⟨i, v⟩ := h
  simp only [place?, ofPlace] at hp ⊢
  grind

end Handle

end Scenery
