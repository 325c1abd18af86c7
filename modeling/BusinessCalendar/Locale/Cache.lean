import BusinessCalendar.Locale.Basic

/-!
# The locale cache

Locales that were found are kept under the code they were asked by, as written, the most
recently used first.  A cache holds at most 128 of them and drops the least recently used.
Codes that were not found are not kept; each such look-up counts as a miss.

* `LocaleCache.find?`, `LocaleCache.touch`, `LocaleCache.insert` — the operations of the list.
* `LocaleCache.lookup` — one look-up, by way of the cache.
-/

namespace BusinessCalendar

/-- The most locales that a cache holds. -/
def localeCacheCapacity : Nat := 128

/-- Found locales by code, the most recently used first, with counts of the look-ups that found
their code in the cache and of those that did not. -/
structure LocaleCache (α : Type) where
  entries : List (LocaleCode × Locale α)
  hits : Nat
  misses : Nat
deriving DecidableEq, Repr

namespace LocaleCache

variable {α : Type}

def empty : LocaleCache α := { entries := [], hits := 0, misses := 0 }

def size (c : LocaleCache α) : Nat := c.entries.length

def find? (c : LocaleCache α) (code : LocaleCode) : Option (Locale α) :=
  (c.entries.find? fun e => e.1 == code).map (·.2)

/-- The entries with one code in front and the others in their order. -/
def toFront (entries : List (LocaleCode × Locale α)) (code : LocaleCode) (l : Locale α) :
    List (LocaleCode × Locale α) :=
  (code, l) :: entries.filter fun e => e.1 != code

/-- A hit: the code becomes the most recently used. -/
def touch (c : LocaleCache α) (code : LocaleCode) (l : Locale α) : LocaleCache α :=
  { c with entries := toFront c.entries code l, hits := c.hits + 1 }

/-- A miss that found a locale: it is kept, and what exceeds the capacity is dropped. -/
def insert (c : LocaleCache α) (code : LocaleCode) (l : Locale α) : LocaleCache α :=
  { c with
    entries := (toFront c.entries code l).take localeCacheCapacity
    misses := c.misses + 1 }

def miss (c : LocaleCache α) : LocaleCache α := { c with misses := c.misses + 1 }

/-- The locale of a code by way of the cache.  `fetch` answers where the cache does not. -/
def lookup {ε : Type} (c : LocaleCache α) (code : LocaleCode)
    (fetch : LocaleCode → Except ε (Locale α)) : Except ε (Locale α) × LocaleCache α :=
  match c.find? code with
  | some l => (.ok l, c.touch code l)
  | none =>
    match fetch code with
    | .ok l => (.ok l, c.insert code l)
    | .error e => (.error e, c.miss)

end LocaleCache

end BusinessCalendar
