import DocChain.Wire

/-!
# Options of a find

Options travel beside the query in an envelope, which holds the query under `$query`. Without
options there is no envelope.
-/

namespace DocChain

structure FindOptions where
  orderBy : Option Document := none
  comment : Option String := none
  hint : Option Wire := none
  maxScan : Option Int64 := none
  min : Option Document := none
  max : Option Document := none
  snapshot : Bool := false

namespace FindOptions

/-- The envelope entries of the options that are set, in wire order. -/
def entries (o : FindOptions) : Document :=
  let entry (key : String) (value : Option Wire) : Document :=
    (value.map fun w => (key, w)).toList
  entry "$orderby" (o.orderBy.map .object) ++ entry "$comment" (o.comment.map .string)
    ++ entry "$hint" o.hint ++ entry "$maxScan" (o.maxScan.map .int)
    ++ entry "$min" (o.min.map .object) ++ entry "$max" (o.max.map .object)
    ++ entry "$snapshot" (if o.snapshot then some (.bool true) else none)

def isEmpty (o : FindOptions) : Bool :=
  o.entries.isEmpty

def wrap (o : FindOptions) (query : Document) : Document :=
  if o.isEmpty then query else ("$query", .object query) :: o.entries

end FindOptions

end DocChain
