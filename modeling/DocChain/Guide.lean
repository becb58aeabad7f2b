/-!
# The guide

Texts for the reader of the command line: an overview, a text for each topic and a tutorial. A
topic has one or more names, in which case does not count.
-/

namespace DocChain.Guide

inductive Topic where
  | language | predicates | mutations | modifiers | modes
deriving DecidableEq

def Topic.ofName? (name : String) : Option Topic :=
  match String.ofList (name.toList.map Char.toLower) with
  | "syntax" => some .language
  | "predicates" | "predicate" | "where" | "query" => some .predicates
  | "mutations" | "mutation" | "update" | "updates" => some .mutations
  | "modifiers" | "modifier" | "push" | "sort" => some .modifiers
  | "modes" | "mode" | "defer" => some .modes
  | _ => none

def overview : String :=
"CHAINQL DOCUMENTATION

chainql compiles a chain of declarative steps into the query and update
documents a MongoDB-style server expects. A chain starts at a source ($ or
$collection) and each method call adds one step.

DOCUMENTATION CATEGORIES

  syntax        Sources, bindings, lambdas, field paths and literals
  predicates    where() and the query operators it produces
  mutations     set, unset, inc, push, pull, pop, bit and friends
  modifiers     slice, sort_by and then_sort_by on push_each
  modes         update(), defer() and what dispatch does with a chain

QUICK REFERENCE

  $people                         Source
  .where(@p => @p.age > 18)       Query clause
  .set(@p => @p.name, \"Ann\")      Update clause
  @p.address.city, @p[\"a b\"]      Field paths
  absent                          Remove a field
  .defer()                        Return documents only

Run 'chainql doc <category>' for detailed documentation.
Run 'chainql onboard' for a short tutorial.
"

def languageText : String :=
"SYNTAX - Chains, Bindings and Field Paths

SOURCES
  $
    The scope bound by the caller as root.
  $people
    A collection looked up by name.
  [\x7b\"a\": 1\x7d, \x7b\"a\": 2\x7d]
    An array literal. Only usable with defer().

BINDINGS AND LAMBDAS
  @p => @p.age
    A lambda whose parameter @p stands for the current document.
    Field paths must start at the lambda's own parameter.

FIELD PATHS
  @p.address.city          Static member access
  @p[\"first name\"]         Dynamic access with a string key
  @p[address][city]        Dynamic access with identifier keys
  @p.scores[0]             Array position

    All of these compile to a dotted path: address.city, scores.0

LITERALS
  42  3.5  \"text\"  'text'  true  false  null  [1, 2]  \x7b\"a\": 1\x7d
  absent                   The value of a field that should not exist

  Constant arithmetic is folded: 60 * 60 => 3600, -5, \"a\" + \"b\" => \"ab\"
"

def predicatesText : String :=
"PREDICATES - where()

  $people.where(@p => <predicate>)

COMPARISONS
  @p.age == 30             \x7b\"age\": 30\x7d
  @p.age != 30             \x7b\"age\": \x7b\"$ne\": 30\x7d\x7d
  @p.age > 18              \x7b\"age\": \x7b\"$gt\": 18\x7d\x7d
  @p.age >= 18             \x7b\"age\": \x7b\"$gte\": 18\x7d\x7d
  @p.age < 65              \x7b\"age\": \x7b\"$lt\": 65\x7d\x7d
  @p.age <= 65             \x7b\"age\": \x7b\"$lte\": 65\x7d\x7d
  18 < @p.age              \x7b\"age\": \x7b\"$gt\": 18\x7d\x7d

LOGIC
  a and b                  Both clauses in the query document
  a or b                   \x7b\"$or\": [a, b]\x7d

FIELD TESTS
  @p.email[?]              \x7b\"email\": \x7b\"$exists\": true\x7d\x7d
  @p.active                \x7b\"active\": true\x7d
  @p.name.matches(\"^A\")    \x7b\"name\": \x7b\"$regex\": \"^A\"\x7d\x7d
  @p.tag.in([\"a\", \"b\"])    \x7b\"tag\": \x7b\"$in\": [\"a\", \"b\"]\x7d\x7d
  @p.tag.not_in([\"x\"])     \x7b\"tag\": \x7b\"$nin\": [\"x\"]\x7d\x7d

  Several where() steps are combined. Two ranges on one field merge:
    .where(@p => @p.age > 18).where(@p => @p.age < 65)
    => \x7b\"age\": \x7b\"$gt\": 18, \"$lt\": 65\x7d\x7d

  Operands must be constants. Comparing two fields has no query form.
"

def mutationsText : String :=
"MUTATIONS - Update Clauses

  set(@p => @p.name, \"Ann\")          \x7b\"$set\": \x7b\"name\": \"Ann\"\x7d\x7d
  set(@p => @p.n, @p.n + 2)          \x7b\"$inc\": \x7b\"n\": 2\x7d\x7d
  set(@p => @p.n, @p.n - 2)          \x7b\"$inc\": \x7b\"n\": -2\x7d\x7d
  set(@p => @p.tmp, absent)          \x7b\"$unset\": \x7b\"tmp\": 1\x7d\x7d
  unset(@p => @p.tmp)                \x7b\"$unset\": \x7b\"tmp\": 1\x7d\x7d
  inc(@p => @p.n, 1)                 \x7b\"$inc\": \x7b\"n\": 1\x7d\x7d
  dec(@p => @p.n, 1)                 \x7b\"$inc\": \x7b\"n\": -1\x7d\x7d
  add_to_set(@p => @p.tags, \"x\")     \x7b\"$addToSet\": \x7b\"tags\": \"x\"\x7d\x7d
  add_to_set_each(@p => @p.tags, [\"x\", \"y\"])
                                     \x7b\"$addToSet\": \x7b\"tags\": \x7b\"$each\": [\"x\", \"y\"]\x7d\x7d\x7d
  push(@p => @p.xs, 1)               \x7b\"$push\": \x7b\"xs\": 1\x7d\x7d
  push_each(@p => @p.xs, [1, 2])     \x7b\"$push\": \x7b\"xs\": \x7b\"$each\": [1, 2]\x7d\x7d\x7d
  pop_front(@p => @p.xs)             \x7b\"$pop\": \x7b\"xs\": -1\x7d\x7d
  pop_back(@p => @p.xs)              \x7b\"$pop\": \x7b\"xs\": 1\x7d\x7d
  pull(@p => @p.xs, 3)               \x7b\"$pull\": \x7b\"xs\": 3\x7d\x7d
  pull(@p => @p.xs, @e => @e < 3)    \x7b\"$pull\": \x7b\"xs\": \x7b\"$lt\": 3\x7d\x7d\x7d
  pull(@p => @p.xs, @e => @e.score < 3)
                                     \x7b\"$pull\": \x7b\"xs\": \x7b\"score\": \x7b\"$lt\": 3\x7d\x7d\x7d\x7d
  pull_all(@p => @p.xs, [1, 2])      \x7b\"$pullAll\": \x7b\"xs\": [1, 2]\x7d\x7d
  bit_and(@p => @p.flags, 6)         \x7b\"$bit\": \x7b\"flags\": \x7b\"and\": 6\x7d\x7d\x7d
  bit_or(@p => @p.flags, 1)          \x7b\"$bit\": \x7b\"flags\": \x7b\"or\": 1\x7d\x7d\x7d

  Clauses with the same operator share one sub-document. Setting the same
  field twice keeps the last value.
"

def modifiersText : String :=
"MODIFIERS - slice, sort_by, then_sort_by

Modifiers follow push_each directly and change its $each fragment.

  $.push_each(@p => @p.xs, [1, 2, 3])
    .slice(5)
    .sort_by(@e => @e.a)
    .then_sort_by_descending(@e => @e.b)

  => \x7b\"$push\": \x7b\"xs\": \x7b\"$each\": [1, 2, 3], \"$slice\": -5,
                       \"$sort\": \x7b\"a\": 1, \"b\": -1\x7d\x7d\x7d\x7d

  slice(n)                       Keep the last n elements (n >= 0)
  sort_by(@e => @e.k)            Replace the sort with \x7bk: 1\x7d
  sort_by_descending(@e => @e.k) Replace the sort with \x7bk: -1\x7d
  then_sort_by(@e => @e.k)       Add \x7bk: 1\x7d to the existing sort
  then_sort_by_descending(...)   Add \x7bk: -1\x7d to the existing sort

  then_sort_by needs an earlier sort_by. A second sort_by starts over.
"

def modesText : String :=
"MODES - update() and defer()

  update()     Marks where mutations begin. Optional.
  defer()      Must be the last call. Returns the documents instead of
               running them.

  A chain with at least one mutation is an update. Otherwise it is a query.

  immediate query    A lazy view; nothing is sent until it is fetched
  immediate update   Exactly one update request
  deferred           \x7b\"query\": ...\x7d or \x7b\"query\": ..., \"update\": ...\x7d

  The chainql binary always prints the deferred documents.
"

def tutorial : String :=
"WELCOME TO CHAINQL

chainql turns a chain of steps into MongoDB query and update documents.

STEP 1: A SOURCE
----------------
Every chain starts at a source: $ or a named collection.

  chainql compile '$people'
  => \x7b\"query\":\x7b\x7d\x7d

STEP 2: FILTERING
-----------------
where() takes a lambda. @p is the current document.

  chainql compile '$people.where(@p => @p.age > 18)'
  => \x7b\"query\":\x7b\"age\":\x7b\"$gt\":18\x7d\x7d\x7d

STEP 3: UPDATING
----------------
Mutations add an update document.

  chainql compile '$people.where(@p => @p.name == \"Ann\").inc(@p => @p.visits, 1)'
  => \x7b\"query\":\x7b\"name\":\"Ann\"\x7d,\"update\":\x7b\"$inc\":\x7b\"visits\":1\x7d\x7d\x7d

STEP 4: ARITHMETIC AND ABSENCE
------------------------------
set() picks the operator from the value.

  chainql compile '$.set(@p => @p.n, @p.n - 2).set(@p => @p.tmp, absent)'
  => \x7b\"query\":\x7b\x7d,\"update\":\x7b\"$inc\":\x7b\"n\":-2\x7d,\"$unset\":\x7b\"tmp\":1\x7d\x7d\x7d

STEP 5: BOUNDED LISTS
---------------------
Modifiers shape a push_each.

  chainql compile '$.push_each(@p => @p.xs, [1, 2, 3]).slice(5).sort_by(@e => @e.a)'
  => \x7b\"query\":\x7b\x7d,\"update\":\x7b\"$push\":\x7b\"xs\":\x7b\"$each\":[1,2,3],\"$slice\":-5,\"$sort\":\x7b\"a\":1\x7d\x7d\x7d\x7d\x7d

NEXT STEPS
----------
  chainql docs              List all documentation categories
  chainql doc predicates    Query operators
  chainql doc mutations     Update operators
  chainql doc modifiers     slice and sorting
"

def Topic.text : Topic → String
  | .language => languageText
  | .predicates => predicatesText
  | .mutations => mutationsText
  | .modifiers => modifiersText
  | .modes => modesText

end DocChain.Guide
