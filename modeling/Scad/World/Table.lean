/-!
Tables of named things, in the order in which the names were first put.
-/

namespace Scad

variable (name : String)

abbrev Table (α : Type) := List (String × α)

namespace Table

variable {α : Type}

def find? : Table α → Option α
  | [] => none
  | (key, a) :: rest => if key = name then some a else find? rest

def has (t : Table α) : Bool := (find? name t).isSome

/-- Put `a` under `name`. A name that is already there keeps its place. -/
def put (a : α) : Table α → Table α
  | [] => [(name, a)]
  | (key, b) :: rest => if key = name then (key, a) :: rest else (key, b) :: put a rest

def remove : Table α → Table α
  | [] => []
  | (key, a) :: rest => if key = name then rest else (key, a) :: remove rest

def merge (t : Table α) : Table α → Table α
  | [] => t
  | (name, a) :: rest => merge (put name a t) rest

def names (t : Table α) : List String := t.map Prod.fst

def sortedNames (t : Table α) : List String := t.names.mergeSort fun a b => !(b < a)

def sorted (t : Table α) : Table α := t.mergeSort fun a b => !(b.1 < a.1)

@[simp]
theorem find?_put_self (a : α) (t : Table α) : find? name (put name a t) = some a := by
  induction t with
  | nil => simp [put, find?]
  | cons e rest ih =>
    obtain ⟨key, b⟩ := e
    by_cases h : key = name <;> simp [put, find?, h, ih]

@[simp]
theorem find?_put_ne {name other : String} (h : other ≠ name) (a : α) (t : Table α) :
    find? other (put name a t) = find? other t := by
  induction t with
  | nil => simp [put, find?, Ne.symm h]
  | cons e rest ih =>
    obtain ⟨key, b⟩ := e
    by_cases hk : key = name
    · subst hk
      simp [put, find?, Ne.symm h]
    · by_cases ho : key = other
      · subst ho
        simp [put, find?, hk]
      · simp [put, find?, hk, ho, ih]

section

variable {name : String} {t : Table α}

theorem mem_of_find? {a : α} (h : find? name t = some a) : (name, a) ∈ t := by
  induction t with
  | nil => cases h
  | cons e rest ih =>
    obtain ⟨key, b⟩ := e
    simp only [find?] at h
    split at h
    · cases h
      exact List.mem_cons.2 (.inl (by rw [‹key = name›]))
    · exact List.mem_cons_of_mem _ (ih h)

theorem find?_eq_none : find? name t = none ↔ name ∉ t.names := by
  induction t with
  | nil => simp [find?, names]
  | cons e rest ih =>
    obtain ⟨key, b⟩ := e
    simp only [names] at ih
    by_cases h : key = name
    · simp [find?, names, h]
    · simp [find?, names, h, Ne.symm h, ih]

end

end Table
end Scad
