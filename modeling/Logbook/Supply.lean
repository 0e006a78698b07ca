import Logbook.Value

/-!
# Sources of values

A `Supply` is a collection of sources for deferred and guarded values, numbered in the order in which they were
added.  A source always gives the same value, or counts how often it is asked.
-/

namespace Logbook

inductive Source where
  /-- The same value every time. -/
  | constant (v : Value)
  /-- One number after another, as text behind `label` if there is one. -/
  | counter (next : UInt64) (label : Option String)

structure Supply where
  sources : Array Source

namespace Supply

def empty : Supply := ⟨#[]⟩

instance : Inhabited Supply := ⟨empty⟩

/-- Add a source; its number. -/
def add (source : Source) : StateM Supply Nat := fun s => (s.sources.size, ⟨s.sources.push source⟩)

/-- What a counter shows. -/
def counted (n : UInt64) : Option String → Value
  | none => .uint n
  | some label => .text (label ++ toString n.toNat)

/-- Ask a source. -/
def ask (source : Nat) : StateM Supply Value := fun s =>
  match s.sources[source]? with
  | some (.constant v) => (v, s)
  | some (.counter n label) =>
    (counted n label, ⟨s.sources.setIfInBounds source (.counter (n + 1) label)⟩)
  | none => (.null, s)

/-- Deferred and guarded values alike are taken from the supply. -/
def suppliers : Suppliers Supply := ⟨ask, ask⟩

end Supply

end Logbook
