import ArenaScript.Program.Keyword
import ArenaScript.Word

/-! The tables of words that open expressions and conditions. Each table is inverted exactly by its
look-up, and no word of a table is a number or a variable name. The parser tries the tables first, so
this is what keeps its choices apart. -/
namespace ArenaScript

theorem tag_of_find? {α : Type} {known : List α} {tag : α → String} {word : String} {a : α}
    (found : known.find? (tag · == word) = some a) : word = tag a := by
  have same := List.find?_some found
  exact (eq_of_beq same).symm

/-- A word of a class that no tag belongs to is not found among the tags. -/
theorem find?_tag_none {α : Type} {tag : α → String} {inClass : String → Bool}
    (apart : ∀ a, inClass (tag a) = false) {word : String} (h : inClass word = true)
    (known : List α) : known.find? (tag · == word) = none := by
  rw [List.find?_eq_none]
  intro a _ same
  have member : inClass (tag a) = true := eq_of_beq same ▸ h
  rw [apart a] at member
  contradiction

theorem Operator.ofKeyword?_keyword (o : Operator) : ofKeyword? o.keyword = some o := by
  cases o <;> rfl

theorem Gauge.ofKeyword?_keyword (g : Gauge) : ofKeyword? g.keyword = some g := by
  rcases g with _ | (_ | _) | _ | _ <;> rfl

theorem Axis.ofBarrelKeyword?_barrelKeyword (axis : Axis) :
    ofBarrelKeyword? axis.barrelKeyword = some axis := by
  cases axis <;> rfl

theorem Relation.ofKeyword?_keyword (r : Relation) : ofKeyword? r.keyword = some r := by
  cases r <;> rfl

theorem Gauge.not_operator (g : Gauge) : Operator.ofKeyword? g.keyword = none := by
  rcases g with _ | (_ | _) | _ | _ <;> rfl

theorem Axis.not_operator (axis : Axis) : Operator.ofKeyword? axis.barrelKeyword = none := by
  cases axis <;> rfl

theorem Axis.not_gauge (axis : Axis) : Gauge.ofKeyword? axis.barrelKeyword = none := by
  cases axis <;> rfl

namespace Word

theorem operator_not_number (o : Operator) : isNumber o.keyword = false := by
  cases o <;> decide

theorem gauge_not_number (g : Gauge) : isNumber g.keyword = false := by
  rcases g with _ | (_ | _) | _ | _ <;> decide

theorem axis_not_number (axis : Axis) : isNumber axis.barrelKeyword = false := by
  cases axis <;> decide

theorem operator_not_variable (o : Operator) : isVariable o.keyword = false := by
  cases o <;> decide

theorem gauge_not_variable (g : Gauge) : isVariable g.keyword = false := by
  rcases g with _ | (_ | _) | _ | _ <;> decide

theorem axis_not_variable (axis : Axis) : isVariable axis.barrelKeyword = false := by
  cases axis <;> decide

theorem ne_of_variable {word other : String} (form : isVariable word = true)
    (plain : isVariable other = false) : word ≠ other := by
  rintro rfl
  rw [form] at plain
  contradiction

/-- A variable name starts with a dollar sign and a number does not. -/
theorem not_number_of_variable {word : String} (h : isVariable word = true) :
    isNumber word = false := by
  unfold isVariable at h
  split at h
  · rename_i first rest eq
    simp [isNumber, eq, splitSign]
  · contradiction

end Word

end ArenaScript
