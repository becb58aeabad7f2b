/-!
# Fields in insertion order

A document lists its entries in the order in which their names first appeared. Writing to a name
that is there keeps its place; `swapRemove` closes the gap of a removed entry with the last one.
-/

namespace DocChain

/-- Named values in order. -/
abbrev Fields (α : Type) := List (String × α)

namespace Fields

variable {α : Type}

def keys (d : Fields α) : List String :=
  d.map (·.1)

def get? : Fields α → String → Option α
  | [], _ => none
  | (name, value) :: rest, key => if name = key then some value else get? rest key

def contains (d : Fields α) (key : String) : Bool :=
  (d.get? key).isSome

/-- Sets the value of a name. A new name goes to the end. -/
def insert : Fields α → String → α → Fields α
  | [], key, new => [(key, new)]
  | (name, value) :: rest, key, new =>
    if name = key then (name, new) :: rest else (name, value) :: insert rest key new

def insertAll (d more : Fields α) : Fields α :=
  more.foldl (fun d entry => d.insert entry.1 entry.2) d

/-- Removes a name; the last entry moves into its place. -/
def swapRemove : Fields α → String → Fields α
  | [], _ => []
  | (name, value) :: rest, key =>
    if name = key then
      match rest.getLast? with
      | none => []
      | some last => last :: rest.dropLast
    else (name, value) :: swapRemove rest key

@[simp] theorem get?_nil (key : String) : get? ([] : Fields α) key = none := rfl

theorem get?_insert (d : Fields α) (key : String) (value : α) (other : String) :
    (d.insert key value).get? other = if key = other then some value else d.get? other := by
  induction d with
  | nil => simp [insert, get?]
  | cons entry rest ih =>
    obtain ⟨name, old⟩ := entry
    by_cases h : name = key
    · subst h
      by_cases h' : name = other <;> simp [insert, get?, h']
    · by_cases h' : name = other
      · subst h'
        simp [insert, get?, h, Ne.symm h]
      · simp [insert, get?, h, h', ih]

@[simp] theorem get?_insert_self (d : Fields α) (key : String) (value : α) :
    (d.insert key value).get? key = some value := by
  simp [get?_insert]

theorem get?_insert_of_ne (d : Fields α) {key other : String} (value : α) (h : key ≠ other) :
    (d.insert key value).get? other = d.get? other := by
  simp [get?_insert, h]

/-- Inserting appends the name or leaves the list of names as it is. -/
theorem keys_insert (d : Fields α) (key : String) (value : α) :
    (d.insert key value).keys = if key ∈ d.keys then d.keys else d.keys ++ [key] := by
  induction d with
  | nil => simp [insert, keys]
  | cons entry rest ih =>
    obtain ⟨name, old⟩ := entry
    by_cases h : name = key
    · simp [insert, keys, h]
    · simp only [keys] at ih
      by_cases hk : key ∈ rest.map (·.1) <;> simp [insert, keys, h, Ne.symm h, ih, hk]

theorem get?_eq_none_iff (d : Fields α) (key : String) : d.get? key = none ↔ key ∉ d.keys := by
  induction d with
  | nil => simp [keys]
  | cons entry rest ih =>
    obtain ⟨name, value⟩ := entry
    by_cases h : name = key
    · simp [get?, keys, h]
    · simp only [keys] at ih
      simp [get?, keys, h, Ne.symm h, ih]

end Fields

end DocChain
