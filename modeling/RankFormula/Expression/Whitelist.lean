/-!
# Whitelists

The set of variables that formulas may read, kept as its names in increasing
order. Texts are ordered by code point, which is the order of their UTF-8 bytes.
-/

namespace RankFormula

/-- Inserts a name into names in increasing order, unless it is there already. -/
def insertName (name : String) : List String → List String
  | [] => [name]
  | other :: rest =>
    if other < name then other :: insertName name rest
    else if other = name then other :: rest
    else name :: other :: rest

/-- The variables that formulas may read. -/
structure Whitelist where
  /-- The names in increasing order. -/
  names : List String
  deriving DecidableEq, Repr

namespace Whitelist

/-- The set of the given names. -/
def ofNames (names : List String) : Whitelist :=
  ⟨names.foldl (fun kept name => insertName name kept) []⟩

/-- The variables every deployment starts with. -/
def standard : Whitelist := ofNames ["createdAt", "commentsCount", "sharedCount"]

/-- Whether a variable may be read. -/
def contains (whitelist : Whitelist) (name : String) : Bool := whitelist.names.contains name

end Whitelist
end RankFormula
