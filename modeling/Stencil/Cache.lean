import Stencil.Reading.Format

/-!
# A cache of templates

Templates that were read are kept by dialect and text, up to a limit. A kept tree carries a stamp,
and no two trees ever carry the same one, so a stamp tells whether two answers are one shared
tree.
-/

namespace Stencil

set_option autoImplicit false

/-- A template that was read, with its stamp if the cache keeps it. -/
structure Shared where
  template : Template
  stamp : Option Nat

structure CacheEntry where
  dialect : Dialect
  text : String
  template : Template
  stamp : Nat

structure Cache where
  entries : List CacheEntry := []
  /-- How many templates are kept at most. -/
  limit : Option Nat := none
  /-- The number of stamps handed out. -/
  issued : Nat := 0

namespace Cache

def size (c : Cache) : Nat := c.entries.length

def find? (c : Cache) (d : Dialect) (text : String) : Option CacheEntry :=
  c.entries.find? fun e => e.dialect = d ∧ e.text = text

def isFull (c : Cache) : Bool := c.limit.any (· ≤ c.size)

def insert (c : Cache) (d : Dialect) (text : String) (t : Template) : Cache :=
  { c with entries := c.entries ++ [⟨d, text, t, c.issued⟩], issued := c.issued + 1 }

/-- The kept tree, or else a new one, which is kept if it is sound and there is room. -/
def getOrParse (c : Cache) (d : Dialect) (text : String) : Except Error Shared × Cache :=
  match c.find? d text with
  | some e => (.ok ⟨e.template, some e.stamp⟩, c)
  | none =>
    match Template.parse d text with
    | .error e => (.error e, c)
    | .ok t =>
      if c.isFull then (.ok ⟨t, none⟩, c) else (.ok ⟨t, some c.issued⟩, c.insert d text t)

/-- Stamps are not handed out again. -/
def clear (c : Cache) : Cache := { c with entries := [] }

end Cache

end Stencil
