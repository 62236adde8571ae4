import DbLifecycle.Percent

/-!
# Queries

The names and values in the query of a URL.

* `Query.text`: the text that a name or a value writes.
* `Query.pairs`: the names of a query and their values, in order.
-/

namespace DbLifecycle

namespace Url.Query

/-- The text of a name or a value: a plus sign is a blank, then escapes are read. Bytes that are no
text are replaced. -/
def text (cs : List Char) : String :=
  Text.Utf8.lossy (Percent.decodeBytes (cs.map fun c => if c = '+' then ' ' else c))

/-- The two sides of the first equals sign; without one, the whole and nothing. -/
def sides (cs : List Char) : List Char × List Char :=
  (cs.takeWhile (· != '='), (cs.dropWhile (· != '=')).drop 1)

/-- The stretches between ampersands, without those that are empty. -/
def parts (query : List Char) : List (List Char) :=
  (query.splitOn '&').filter fun p => !p.isEmpty

/-- The names of a query and their values. -/
def pairs (query : List Char) : List (String × String) :=
  (parts query).map fun p => (text (sides p).1, text (sides p).2)

end Url.Query

end DbLifecycle
