import ArenaScript.Proofs.Script.Reads
import ArenaScript.Proofs.Script.Rules

/-! Tokens that assign nothing. Expressions and conditions hold no equals sign and no semicolon, so
a parser for them, whether it succeeds or fails, passes tokens in which no assignment begins or
ends. What a text assigns can then be told piece by piece, cut at the words that close them. -/
namespace ArenaScript

/-- Neither an equals sign nor a semicolon is among the tokens. -/
def Inert (us : List String) : Prop := ∀ word ∈ us, word ≠ "=" ∧ word ≠ ";"

@[simp] theorem inert_nil : Inert [] := by
  simp [Inert]

@[simp] theorem inert_cons (word : String) (us : List String) :
    Inert (word :: us) ↔ (word ≠ "=" ∧ word ≠ ";") ∧ Inert us := by
  simp [Inert]

@[simp] theorem inert_append (us vs : List String) : Inert (us ++ vs) ↔ Inert us ∧ Inert vs :=
  List.forall_mem_append

/-- Whatever follows the tokens, they finish their own assignments and leave none open. -/
def Sealed (us : List String) : Prop :=
  ∀ vs name, Word.isVariable name = true →
    (AssignedIn (us ++ vs) name ↔ AssignedIn us name ∨ AssignedIn vs name)

section Tokens

variable {us vs : List String} {word name : String}

theorem not_assignedIn_of_open (unfinished : ";" ∉ us) : ¬ AssignedIn us name := by
  rintro ⟨before, value, after, rfl⟩
  simp at unfinished

theorem Inert.not_assignedIn (inert : Inert us) : ¬ AssignedIn us name :=
  not_assignedIn_of_open fun held => (inert ";" held).2 rfl

theorem assignedIn_cons_of_other (other : Word.isVariable word = false)
    (form : Word.isVariable name = true) : AssignedIn (word :: vs) name ↔ AssignedIn vs name := by
  have apart : word ≠ name := (Word.ne_of_variable form other).symm
  simp [assignedIn_cons, apart]

/-- A name among inert tokens is not assigned, nor is the last of them if no equals sign follows. -/
theorem Inert.assignedIn_append (inert : Inert us) (plain : vs.head? ≠ some "=") :
    AssignedIn (us ++ vs) name ↔ AssignedIn vs name := by
  induction us with
  | nil => rfl
  | cons first rest ih =>
    obtain ⟨-, others⟩ := (inert_cons first rest).mp inert
    have next : (rest ++ vs).head? ≠ some "=" := by
      cases rest with
      | nil => exact plain
      | cons second rest => simpa using (others second List.mem_cons_self).1
    rw [List.cons_append, assignedIn_cons, ih others]
    simp only [next, false_and, and_false, false_or]

theorem not_assignedIn_word : ¬ AssignedIn [word] name := by
  simp [assignedIn_cons, not_assignedIn_nil]

theorem Inert.not_assignedIn_append (inert : Inert us) (mark : word ≠ "=") :
    ¬ AssignedIn (us ++ [word]) name := by
  rw [inert.assignedIn_append (by simpa using mark)]
  exact not_assignedIn_word

theorem sealed_nil : Sealed [] := by
  intro vs name form
  simp [not_assignedIn_nil]

theorem sealed_word (other : Word.isVariable word = false) : Sealed [word] := by
  intro vs name form
  simp [assignedIn_cons_of_other other form, not_assignedIn_nil]

theorem Sealed.append (first : Sealed us) (second : Sealed vs) : Sealed (us ++ vs) := by
  intro ws name form
  rw [List.append_assoc, first _ name form, second _ name form, first _ name form, or_assoc]

theorem Inert.sealed_append (inert : Inert us) (mark : word ≠ "=")
    (other : Word.isVariable word = false) : Sealed (us ++ [word]) := by
  intro vs name form
  rw [List.append_assoc, List.singleton_append, inert.assignedIn_append (by simpa using mark),
    assignedIn_cons_of_other other form]
  simp [inert.not_assignedIn_append mark]

/-- An assignment whose value is inert assigns its own name and no other. -/
theorem assignedIn_assignment {target : String} (inert : Inert us)
    (form : Word.isVariable name = true) :
    AssignedIn (target :: "=" :: (us ++ ";" :: vs)) name ↔ name = target ∨ AssignedIn vs name := by
  have behind : AssignedIn ("=" :: (us ++ ";" :: vs)) name ↔ AssignedIn vs name := by
    rw [assignedIn_cons_of_other (by decide) form, inert.assignedIn_append (by simp),
      assignedIn_cons_of_other (by decide) form]
  rw [assignedIn_cons, behind]
  simp [@eq_comm _ target]

theorem sealed_assignment {target : String} (inert : Inert us) :
    Sealed (target :: "=" :: (us ++ [";"])) := by
  intro vs name form
  have whole : AssignedIn (target :: "=" :: (us ++ ";" :: vs)) name ↔
      name = target ∨ AssignedIn vs name := assignedIn_assignment inert form
  have alone : AssignedIn (target :: "=" :: (us ++ [";"])) name ↔
      name = target ∨ AssignedIn [] name := assignedIn_assignment inert form
  simp [whole, alone, not_assignedIn_nil]

end Tokens

namespace Parse

variable {α β : Type}

/-- However the run ends, it keeps the store and passes inert tokens only. -/
def Plain (α : Type) (p : Parse α) (s : ParseState) : Prop :=
  ∀ ⦃r t⦄, p s = (r, t) →
    t.store = s.store ∧ ∃ us, s.cursor.rest = us ++ t.cursor.rest ∧ Inert us

theorem Plain.refuse (fault : ParseFault) (s : ParseState) :
    Plain α (Parse.refuse fault) s := by
  intro r t run
  cases run
  exact ⟨rfl, [], rfl, inert_nil⟩

theorem Plain.bind {p : Parse α} {f : α → Parse β} {s : ParseState} (first : Plain α p s)
    (second : ∀ a m, Plain β (f a) m) : Plain β (p >>= f) s := by
  intro r t run
  rcases here : p s with ⟨e | a, m⟩
  · rw [Attempt.bind_error here] at run
    cases run
    exact first here
  · rw [Attempt.bind_ok here] at run
    obtain ⟨kept, us, passed, inert⟩ := first here
    obtain ⟨kept', vs, passed', inert'⟩ := second a m run
    refine ⟨kept'.trans kept, us ++ vs, ?_, (inert_append us vs).mpr ⟨inert, inert'⟩⟩
    rw [passed, passed', List.append_assoc]

theorem plain_runs : RunRules Plain fun word => word ≠ "=" ∧ word ≠ ";" where
  pure a s := by
    intro r t run
    cases run
    exact ⟨rfl, [], rfl, inert_nil⟩
  refuse s _ := .refuse _ s
  bind := .bind
  peek_bind next := next
  advance {word s} inert here := by
    intro r t run
    cases run
    refine ⟨rfl, [word], rest_of_peek? here, ?_⟩
    simpa using inert

theorem readVariable_plain {name : String} {s : ParseState} (form : Word.isVariable name = true)
    (here : s.cursor.peek? = some name) : Plain Expression (readVariable name) s := by
  have inert : name ≠ "=" ∧ name ≠ ";" :=
    ⟨Word.ne_of_variable form (by decide), Word.ne_of_variable form (by decide)⟩
  intro r t run
  rw [readVariable_apply] at run
  split at run
  · cases run
    exact ⟨rfl, [name], rest_of_peek? here, by simpa using inert⟩
  · exact Plain.refuse _ _ run

theorem plain_rules : ValueRules (Always Plain) (Always Plain) (Before Plain)
    fun word => word ≠ "=" ∧ word ≠ ";" where
  toRules := plain_runs.toRules
  inner := by decide
  number {word} numeral s here := by
    apply plain_runs.readNumber _ here
    constructor <;>
    · rintro rfl
      exact absurd numeral (by decide)
  var form s here := readVariable_plain form here

theorem expression_plain (levels : Nat) (s : ParseState) : Plain _ (expression levels) s :=
  plain_rules.expression (fun _ => .refuse .tooDeep) levels s

theorem condition_plain (levels : Nat) (s : ParseState) : Plain _ (condition levels) s :=
  plain_rules.condition (fun _ => .refuse .tooDeep) levels s

end Parse

end ArenaScript
