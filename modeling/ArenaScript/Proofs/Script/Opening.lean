import ArenaScript.Proofs.Keyword
import ArenaScript.Script.Opening

/-! What a word opens. An opening is read off the word that it is written by, and off no other. The
pattern that the parser knows names by accepts the words that are well-formed names. -/
namespace ArenaScript

namespace Token

theorem foldl_failed (cs : List Char) : cs.foldl NameState.step .failed = .failed := by
  induction cs with
  | nil => rfl
  | cons c cs ih => exact ih

theorem foldl_inside (cs : List Char) :
    cs.foldl NameState.step .inside = if cs.all Char.isAlphanum then .inside else .failed := by
  induction cs with
  | nil => rfl
  | cons c cs ih =>
    by_cases letter : c.isAlphanum = true
    · simp only [List.foldl_cons, NameState.step, letter, if_true, ih, List.all_cons,
        Bool.true_and]
    · simp [NameState.step, letter, foldl_failed]

theorem isName_eq_isVariable (word : String) : isName word = Word.isVariable word := by
  unfold isName Word.isVariable
  split
  · rename_i first rest chars
    simp only [chars, List.foldl_cons, NameState.step, if_true]
    by_cases letter : first.isAlpha = true
    · cases others : rest.all Char.isAlphanum <;> simp [letter, foldl_inside, others]
    · simp [letter, foldl_failed]
  · rename_i other
    match chars : word.toList with
    | [] => rfl
    | [c] => by_cases sigil : c = '$' <;> simp [NameState.step, sigil]
    | c :: first :: rest =>
      have plain : c ≠ '$' := by
        rintro rfl
        exact other first rest chars
      simp [NameState.step, plain, foldl_failed]

end Token

namespace Expression.Opening

def word : Opening → String
  | .operator o => o.keyword
  | .gauge g => g.keyword
  | .barrel axis => axis.barrelKeyword
  | .number literal => literal
  | .var name => name

def Valid : Opening → Prop
  | .number literal => Word.isNumber literal = true
  | .var name => Word.isVariable name = true
  | .operator _ | .gauge _ | .barrel _ => True

theorem ofWord?_word (opening : Opening) (valid : opening.Valid) :
    ofWord? opening.word = some opening := by
  cases opening with
  | operator o => simp [word, ofWord?, o.ofKeyword?_keyword]
  | gauge g => simp [word, ofWord?, g.not_operator, g.ofKeyword?_keyword]
  | barrel axis =>
    simp [word, ofWord?, axis.not_operator, axis.not_gauge, axis.ofBarrelKeyword?_barrelKeyword]
  | number literal =>
    have noOperator := find?_tag_none Word.operator_not_number valid
    have noGauge := find?_tag_none Word.gauge_not_number valid
    have noBarrel := find?_tag_none Word.axis_not_number valid
    have numeral : Word.isNumber literal = true := valid
    simp [word, ofWord?, Operator.ofKeyword?, Gauge.ofKeyword?, Axis.ofBarrelKeyword?, noOperator,
      noGauge, noBarrel, numeral]
  | var name =>
    have noOperator := find?_tag_none Word.operator_not_variable valid
    have noGauge := find?_tag_none Word.gauge_not_variable valid
    have noBarrel := find?_tag_none Word.axis_not_variable valid
    have form : Word.isVariable name = true := valid
    simp [word, ofWord?, Operator.ofKeyword?, Gauge.ofKeyword?, Axis.ofBarrelKeyword?, noOperator,
      noGauge, noBarrel, Word.not_number_of_variable form, Token.isName_eq_isVariable, form]

theorem word_of_ofWord? {w : String} {opening : Opening} (found : ofWord? w = some opening) :
    opening.word = w ∧ opening.Valid := by
  revert found
  fun_cases ofWord? w with
  | case1 o operator =>
    rintro ⟨⟩
    exact ⟨(tag_of_find? operator).symm, trivial⟩
  | case2 g gauge =>
    rintro ⟨⟩
    exact ⟨(tag_of_find? gauge).symm, trivial⟩
  | case3 axis barrel =>
    rintro ⟨⟩
    exact ⟨(tag_of_find? barrel).symm, trivial⟩
  | case4 numeral =>
    rintro ⟨⟩
    exact ⟨rfl, numeral⟩
  | case5 _ form =>
    rintro ⟨⟩
    rw [Token.isName_eq_isVariable] at form
    exact ⟨rfl, form⟩
  | case6 => exact nofun

end Expression.Opening

namespace Condition.Opening

def word : Opening → String
  | .compare r => r.keyword
  | .and => "and"
  | .or => "or"
  | .not => "not"

theorem ofWord?_word (opening : Opening) : ofWord? opening.word = some opening := by
  cases opening with
  | compare r => simp [word, ofWord?, r.ofKeyword?_keyword]
  | and | or | not => rfl

theorem word_of_ofWord? {w : String} {opening : Opening} (found : ofWord? w = some opening) :
    opening.word = w := by
  revert found
  fun_cases ofWord? w with
  | case1 r relation =>
    rintro ⟨⟩
    exact (tag_of_find? relation).symm
  | case2 here | case3 _ here | case4 _ _ here =>
    rintro ⟨⟩
    exact here.symm
  | case5 => exact nofun

end Condition.Opening

namespace Statement.Opening

def word : Opening → String
  | .loop => "loop"
  | .choose => "if"
  | .whilst => "while"
  | .assign name => name
  | .pace p => p.keyword
  | .order o => o.keyword

def Valid : Opening → Prop
  | .assign name => Word.isVariable name = true
  | .loop | .choose | .whilst | .pace _ | .order _ => True

theorem ofWord?_word (opening : Opening) (valid : opening.Valid) :
    ofWord? opening.word = some opening := by
  cases opening with
  | loop | choose | whilst => rfl
  | assign name =>
    have form : Word.isVariable name = true := valid
    have keyword (other : String) (plain : Word.isVariable other = false) : name ≠ other :=
      Word.ne_of_variable form plain
    simp [word, ofWord?, keyword "loop" (by decide), keyword "if" (by decide),
      keyword "while" (by decide), Token.isName_eq_isVariable, form]
  | pace p => cases p <;> rfl
  | order o => cases o <;> rfl

theorem word_of_ofWord? {w : String} {opening : Opening} (found : ofWord? w = some opening) :
    opening.word = w ∧ opening.Valid := by
  revert found
  fun_cases ofWord? w with
  | case1 here | case2 _ here | case3 _ _ here =>
    rintro ⟨⟩
    exact ⟨here.symm, trivial⟩
  | case4 _ _ _ form =>
    rintro ⟨⟩
    rw [Token.isName_eq_isVariable] at form
    exact ⟨rfl, form⟩
  | case5 _ _ _ _ p pace =>
    rintro ⟨⟩
    exact ⟨(tag_of_find? pace).symm, trivial⟩
  | case6 _ _ _ _ o order =>
    rintro ⟨⟩
    exact ⟨(tag_of_find? order).symm, trivial⟩
  | case7 => exact nofun

end Statement.Opening

end ArenaScript
