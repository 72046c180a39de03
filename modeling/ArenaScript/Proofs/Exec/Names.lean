import ArenaScript.Proofs.Exec.Keeps

/-! The names that a program mentions and those that it assigns, as lists. -/
namespace ArenaScript

def Expression.names : Expression → List String
  | .number _ => []
  | .gauge _ => []
  | .barrel _ => []
  | .var name => [name]
  | .barrelAt _ index => index.names
  | .op _ lhs rhs => lhs.names ++ rhs.names

def Condition.names : Condition → List String
  | .compare _ lhs rhs => lhs.names ++ rhs.names
  | .and lhs rhs => lhs.names ++ rhs.names
  | .or lhs rhs => lhs.names ++ rhs.names
  | .not inner => inner.names

def Action.names : Action → List String
  | .pace _ (some count) => count.names
  | .pace _ none => []
  | .order _ => []

mutual

def Statement.names : Statement → List String
  | .loop body => bodyNames body
  | .choose chain => chain.names
  | .whilst test body => test.names ++ bodyNames body
  | .assign name value => name :: value.names
  | .act action => action.names

def Chain.names : Chain → List String
  | .done => []
  | .otherwise body => bodyNames body
  | .branch test body rest => test.names ++ bodyNames body ++ rest.names

def bodyNames : List Statement → List String
  | [] => []
  | s :: rest => s.names ++ bodyNames rest

end

mutual

def Statement.targets : Statement → List String
  | .loop body => bodyTargets body
  | .choose chain => chain.targets
  | .whilst _ body => bodyTargets body
  | .assign name _ => [name]
  | .act _ => []

def Chain.targets : Chain → List String
  | .done => []
  | .otherwise body => bodyTargets body
  | .branch _ body rest => bodyTargets body ++ rest.targets

def bodyTargets : List Statement → List String
  | [] => []
  | s :: rest => s.targets ++ bodyTargets rest

end

def Program.names (p : Program) : List String := bodyNames p.statements

def Program.targets (p : Program) : List String := bodyTargets p.statements

mutual

theorem Statement.mem_names_of_targets (s : Statement) {name : String} (held : name ∈ s.targets) :
    name ∈ s.names := by
  match s with
  | .loop body => exact mem_bodyNames_of_targets body held
  | .choose chain => exact Chain.mem_names_of_targets chain held
  | .whilst test body => exact List.mem_append_right _ (mem_bodyNames_of_targets body held)
  | .assign target value =>
    rw [List.mem_singleton.mp held]
    exact List.mem_cons_self
  | .act action => cases held

theorem Chain.mem_names_of_targets (c : Chain) {name : String} (held : name ∈ c.targets) :
    name ∈ c.names := by
  match c with
  | .done => cases held
  | .otherwise body => exact mem_bodyNames_of_targets body held
  | .branch test body rest =>
    rcases List.mem_append.mp held with here | there
    · exact List.mem_append_left _ (List.mem_append_right _ (mem_bodyNames_of_targets body here))
    · exact List.mem_append_right _ (Chain.mem_names_of_targets rest there)

theorem mem_bodyNames_of_targets (body : Block) {name : String} (held : name ∈ bodyTargets body) :
    name ∈ bodyNames body := by
  match body with
  | [] => cases held
  | s :: rest =>
    rcases List.mem_append.mp held with here | there
    · exact List.mem_append_left _ (Statement.mem_names_of_targets s here)
    · exact List.mem_append_right _ (mem_bodyNames_of_targets rest there)

end

section Within

variable {reads writes : String → Prop}

theorem Expression.within_of_names {e : Expression} (all : ∀ name ∈ e.names, reads name) :
    e.Within reads := by
  induction e with
  | number | gauge | barrel => trivial
  | var name => exact all name List.mem_cons_self
  | barrelAt axis index ih => exact ih all
  | op o lhs rhs left right =>
    obtain ⟨first, second⟩ := List.forall_mem_append.mp all
    exact ⟨left first, right second⟩

theorem Condition.within_of_names {c : Condition} (all : ∀ name ∈ c.names, reads name) :
    c.Within reads := by
  induction c with
  | compare r lhs rhs =>
    obtain ⟨first, second⟩ := List.forall_mem_append.mp all
    exact ⟨Expression.within_of_names first, Expression.within_of_names second⟩
  | and lhs rhs left right | or lhs rhs left right =>
    obtain ⟨first, second⟩ := List.forall_mem_append.mp all
    exact ⟨left first, right second⟩
  | not inner ih => exact ih all

theorem Action.within_of_names {a : Action} (all : ∀ name ∈ a.names, reads name) :
    a.Within reads := by
  rcases a with ⟨p, _ | count⟩ | o
  · trivial
  · exact Expression.within_of_names all
  · trivial

mutual

theorem Statement.within_of_names (s : Statement) (all : ∀ name ∈ s.names, reads name)
    (assigned : ∀ name ∈ s.targets, writes name) : s.Within reads writes := by
  match s with
  | .loop body => exact bodyWithin_of_names body all assigned
  | .choose chain => exact Chain.within_of_names chain all assigned
  | .whilst test body =>
    obtain ⟨guard, inside⟩ := List.forall_mem_append.mp all
    exact ⟨Condition.within_of_names guard, bodyWithin_of_names body inside assigned⟩
  | .assign name value =>
    obtain ⟨-, source⟩ := List.forall_mem_cons.mp all
    exact ⟨Expression.within_of_names source, assigned name List.mem_cons_self⟩
  | .act action => exact Action.within_of_names all

theorem Chain.within_of_names (c : Chain) (all : ∀ name ∈ c.names, reads name)
    (assigned : ∀ name ∈ c.targets, writes name) : c.Within reads writes := by
  match c with
  | .done => trivial
  | .otherwise body => exact bodyWithin_of_names body all assigned
  | .branch test body rest =>
    obtain ⟨first, others⟩ := List.forall_mem_append.mp all
    obtain ⟨guard, inside⟩ := List.forall_mem_append.mp first
    obtain ⟨here, there⟩ := List.forall_mem_append.mp assigned
    exact ⟨Condition.within_of_names guard, bodyWithin_of_names body inside here,
      Chain.within_of_names rest others there⟩

theorem bodyWithin_of_names (body : Block) (all : ∀ name ∈ bodyNames body, reads name)
    (assigned : ∀ name ∈ bodyTargets body, writes name) : bodyWithin reads writes body := by
  match body with
  | [] => trivial
  | s :: rest =>
    obtain ⟨first, others⟩ := List.forall_mem_append.mp all
    obtain ⟨here, there⟩ := List.forall_mem_append.mp assigned
    exact ⟨Statement.within_of_names s first here, bodyWithin_of_names rest others there⟩

end

end Within

/-- Without a condition on the names every tree will do. -/
theorem bodyWithin_true (body : Block) : bodyWithin (fun _ => True) (fun _ => True) body :=
  bodyWithin_of_names body (fun _ _ => trivial) fun _ _ => trivial

end ArenaScript
