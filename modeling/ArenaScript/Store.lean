import ArenaScript.Program.Basic

/-!
The variables of a program. A store is a list of bindings in strictly increasing order of names,
so two stores that answer every look-up alike are equal, and its list is the report.
-/

namespace ArenaScript

/-- Binds a name in an ordered list, replacing the binding it had. -/
def bindIn (name : String) (value : Value) : List (String × Value) → List (String × Value)
  | [] => [(name, value)]
  | (n, v) :: rest =>
    if name < n then (name, value) :: (n, v) :: rest
    else if name = n then (name, value) :: rest
    else (n, v) :: bindIn name value rest

theorem mem_bindIn {name : String} {value : Value} {p : String × Value} :
    ∀ {l : List (String × Value)}, p ∈ bindIn name value l → p = (name, value) ∨ p ∈ l
  | [], h => by simpa [bindIn] using h
  | (n, v) :: rest, h => by
    unfold bindIn at h
    split at h
    · simpa using h
    · split at h
      · rcases List.mem_cons.mp h with h | h
        · exact .inl h
        · exact .inr (List.mem_cons_of_mem _ h)
      · rcases List.mem_cons.mp h with h | h
        · exact .inr (h ▸ List.mem_cons_self)
        · exact (mem_bindIn h).imp_right (List.mem_cons_of_mem _)

def Ordered (l : List (String × Value)) : Prop := l.Pairwise (fun a b => a.1 < b.1)

theorem ordered_bindIn (name : String) (value : Value) :
    ∀ {l : List (String × Value)}, Ordered l → Ordered (bindIn name value l)
  | [], _ => by simp [bindIn, Ordered]
  | (n, v) :: rest, h => by
    have ⟨above, tail⟩ := List.pairwise_cons.mp h
    unfold bindIn
    split
    next lt =>
      refine List.pairwise_cons.mpr ⟨?_, h⟩
      intro b hb
      rcases List.mem_cons.mp hb with rfl | hb
      · exact lt
      · exact String.lt_trans lt (above b hb)
    next notLt =>
      split
      next same => subst same; exact List.pairwise_cons.mpr ⟨above, tail⟩
      next differ =>
        refine List.pairwise_cons.mpr ⟨?_, ordered_bindIn name value tail⟩
        intro b hb
        rcases mem_bindIn hb with rfl | hb
        · refine Decidable.byContradiction fun notGt => differ ?_
          exact String.le_antisymm (String.not_lt.mp notGt) (String.not_lt.mp notLt)
        · exact above b hb

theorem lookup_binding (n other : String) (v : Value) (rest : List (String × Value)) :
    ((n, v) :: rest).lookup other = if other = n then some v else rest.lookup other := by
  by_cases same : other = n
  · simp [same]
  · rw [List.lookup_cons, beq_false_of_ne same, if_neg same]

theorem lookup_bindIn (name other : String) (value : Value) :
    ∀ l : List (String × Value),
      (bindIn name value l).lookup other = if other = name then some value else l.lookup other
  | [] => by rw [bindIn, lookup_binding]
  | (n, v) :: rest => by
    unfold bindIn
    split
    next => rw [lookup_binding]
    next =>
      split
      next here =>
        subst here
        simp only [lookup_binding]
        split <;> rfl
      next differ =>
        simp only [lookup_binding, lookup_bindIn name other value rest]
        by_cases first : other = n
        · subst first; simp [Ne.symm differ]
        · simp [first]

@[ext] structure Store where
  bindings : List (String × Value)
  ordered : Ordered bindings
deriving DecidableEq

namespace Store

def empty : Store := ⟨[], .nil⟩

instance : Inhabited Store := ⟨empty⟩

def get? (s : Store) (name : String) : Option Value := s.bindings.lookup name

def isDeclared (s : Store) (name : String) : Bool := (s.get? name).isSome

def set (s : Store) (name : String) (value : Value) : Store :=
  ⟨bindIn name value s.bindings, ordered_bindIn name value s.ordered⟩

/-- Binds an absent name to zero and leaves a present one as it is. -/
def declare (s : Store) (name : String) : Store :=
  if s.isDeclared name then s else s.set name 0

def declareAll (s : Store) (names : List String) : Store := names.foldl declare s

def size (s : Store) : Nat := s.bindings.length

/-- The bindings in increasing order of names, each name once. -/
def toList (s : Store) : List (String × Value) := s.bindings

def names (s : Store) : List String := s.bindings.map Prod.fst

/-- The store that results from setting each pair in turn. -/
def ofList (l : List (String × Value)) : Store := l.foldl (fun s p => s.set p.1 p.2) empty

@[simp] theorem get?_empty (name : String) : empty.get? name = none := rfl

@[simp] theorem get?_set (s : Store) (name other : String) (value : Value) :
    (s.set name value).get? other = if other = name then some value else s.get? other :=
  lookup_bindIn name other value s.bindings

@[simp] theorem isDeclared_set (s : Store) (name other : String) (value : Value) :
    (s.set name value).isDeclared other = (decide (other = name) || s.isDeclared other) := by
  by_cases same : other = name <;> simp [isDeclared, same]

theorem get?_declare (s : Store) (name other : String) :
    (s.declare name).get? other =
      if other = name then some ((s.get? name).getD 0) else s.get? other := by
  unfold declare isDeclared
  by_cases same : other = name
  · subst same
    cases known : s.get? other <;> simp [known]
  · cases known : s.get? name <;> simp [same]

end Store

end ArenaScript
