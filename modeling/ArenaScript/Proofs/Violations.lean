import ArenaScript.Proofs.Exec.Names
import ArenaScript.Proofs.Survey

/-! What the survey of a tree finds, told without the walk. In the order of the text a tree shows
empty parts, uses of names and assignments. Each of these is judged by itself and by what stands
before it, and the defects of the tree are the verdicts in order. -/
namespace ArenaScript

/-- What the text of a tree shows. A use or an empty block is owned by the word or by the assigned
name that it stands under. -/
inductive Occurrence
  | emptyProgram
  | emptyBlock (owner : String)
  | emptyIf
  | use (name owner : String)
  | assign (name : String)
deriving DecidableEq, Repr

def usesOf (owner : String) (names : List String) : List Occurrence := names.map (.use · owner)

theorem usesOf_append (owner : String) (first second : List String) :
    usesOf owner (first ++ second) = usesOf owner first ++ usesOf owner second :=
  List.map_append

def emptiness (owner : String) (body : Block) : List Occurrence :=
  if body.isEmpty then [.emptyBlock owner] else []

def Action.occurrences : Action → List Occurrence
  | .pace p (some count) => usesOf p.keyword count.names
  | .pace _ none => []
  | .order _ => []

mutual

/-- A name is assigned behind the uses of its new value. -/
def Statement.occurrences : Statement → List Occurrence
  | .loop body => emptiness "loop" body ++ bodyOccurrences body
  | .choose chain =>
    (if chain.branches.isEmpty then [.emptyIf] else []) ++ chain.occurrences "if"
  | .whilst test body =>
    usesOf "while" test.names ++ emptiness "while" body ++ bodyOccurrences body
  | .assign name value => usesOf name value.names ++ [.assign name]
  | .act action => action.occurrences

def Chain.occurrences (word : String) : Chain → List Occurrence
  | .done => []
  | .otherwise body => emptiness "else" body ++ bodyOccurrences body
  | .branch test body rest =>
    usesOf word test.names ++ emptiness word body ++ bodyOccurrences body ++
      rest.occurrences "elif"

def bodyOccurrences : List Statement → List Occurrence
  | [] => []
  | s :: rest => s.occurrences ++ bodyOccurrences rest

end

def Program.occurrences (p : Program) : List Occurrence :=
  (if p.statements.isEmpty then [.emptyProgram] else []) ++ bodyOccurrences p.statements

def Occurrence.defect? (earlier : List Occurrence) : Occurrence → Option Defect
  | .emptyProgram => some .emptyProgram
  | .emptyBlock owner => some (.emptyBlock owner)
  | .emptyIf => some .emptyIf
  | .use name owner =>
    if Word.isVariable name = false then some (.invalidName name)
    else if .assign name ∈ earlier then none
    else some (.undeclared name owner)
  | .assign name => if Word.isVariable name = false then some (.invalidName name) else none

/-- The verdicts on all occurrences of a text, each judged by what stands before it. -/
def violations (text : List Occurrence) : List Defect :=
  text.zipIdx.filterMap fun (occurrence, i) => occurrence.defect? (text.take i)

def violationsAfter (earlier : List Occurrence) : List Occurrence → List Defect
  | [] => []
  | o :: later => (o.defect? earlier).toList ++ violationsAfter (earlier ++ [o]) later

theorem violationsAfter_append (earlier first second : List Occurrence) :
    violationsAfter earlier (first ++ second) =
      violationsAfter earlier first ++ violationsAfter (earlier ++ first) second := by
  induction first generalizing earlier with
  | nil => simp [violationsAfter]
  | cons o first ih => simp [violationsAfter, ih]

theorem violationsAfter_eq (earlier later : List Occurrence) :
    violationsAfter earlier later =
      (later.zipIdx earlier.length).filterMap
        fun (o, i) => o.defect? ((earlier ++ later).take i) := by
  induction later generalizing earlier with
  | nil => rfl
  | cons o later ih =>
    have here : (earlier ++ o :: later).take earlier.length = earlier := List.take_left
    have behind := ih (earlier ++ [o])
    rw [List.append_assoc, List.singleton_append, List.length_append] at behind
    rw [violationsAfter, behind, List.zipIdx_cons, List.filterMap_cons]
    dsimp only
    rw [here]
    cases o.defect? earlier <;> rfl

theorem violations_eq (text : List Occurrence) : violations text = violationsAfter [] text :=
  (violationsAfter_eq [] text).symm

/-- The declared names are the well-formed ones that were assigned. -/
def Store.Holds (declared : Store) (earlier : List Occurrence) : Prop :=
  ∀ name, declared.isDeclared name = true ↔ Word.isVariable name = true ∧ .assign name ∈ earlier

/-- The walk reports what is wrong with these occurrences, wherever they stand, and goes on with the
names that they add. -/
def Reports (met : List Occurrence) (walk : Store → List Defect × Store) : Prop :=
  ∀ declared earlier, declared.Holds earlier →
    (walk declared).1 = violationsAfter earlier met ∧ (walk declared).2.Holds (earlier ++ met)

namespace Reports

variable {met met' : List Occurrence} {walk walk' : Store → List Defect × Store}

theorem nothing : Reports [] fun declared => ([], declared) := by
  intro declared earlier holds
  rw [List.append_nil]
  exact ⟨rfl, holds⟩

theorem append (first : Reports met walk) (second : Reports met' walk') :
    Reports (met ++ met') fun declared =>
      ((walk declared).1 ++ (walk' (walk declared).2).1, (walk' (walk declared).2).2) := by
  intro declared earlier holds
  obtain ⟨found, between⟩ := first declared earlier holds
  obtain ⟨found', after⟩ := second _ _ between
  rw [List.append_assoc] at after
  refine ⟨?_, after⟩
  rw [violationsAfter_append, ← found, ← found']

/-- One occurrence that declares nothing. -/
theorem one {o : Occurrence} {found : Store → List Defect}
    (quiet : ∀ name, Word.isVariable name = true → o ≠ .assign name)
    (judged : ∀ declared earlier, declared.Holds earlier →
      found declared = (o.defect? earlier).toList) :
    Reports [o] fun declared => (found declared, declared) := by
  intro declared earlier holds
  constructor
  · rw [violationsAfter, violationsAfter, List.append_nil]
    exact judged declared earlier holds
  · intro name
    rw [holds name, List.mem_append, List.mem_singleton]
    constructor
    · exact fun ⟨form, assigned⟩ => ⟨form, .inl assigned⟩
    · rintro ⟨form, assigned | here⟩
      · exact ⟨form, assigned⟩
      · exact absurd here.symm (quiet name form)

theorem always {o : Occurrence} {defect : Defect}
    (quiet : ∀ name, Word.isVariable name = true → o ≠ .assign name)
    (wrong : ∀ earlier, o.defect? earlier = some defect) :
    Reports [o] fun declared => ([defect], declared) := by
  apply one quiet
  intro declared earlier _
  rw [wrong]
  rfl

theorem use (name owner : String) :
    Reports [.use name owner] fun declared =>
      ((Expression.var name).defects declared owner, declared) := by
  apply one (by rintro _ _ ⟨⟩)
  intro declared earlier holds
  have known := holds name
  cases form : Word.isVariable name with
  | false => simp [Expression.defects, Occurrence.defect?, form]
  | true =>
    by_cases assigned : Occurrence.assign name ∈ earlier <;>
      simp_all [Expression.defects, Occurrence.defect?]

theorem block (owner : String) (body : Block) :
    Reports (emptiness owner body) fun declared => (blockDefects owner body, declared) := by
  cases body with
  | nil => exact always (by rintro _ _ ⟨⟩) fun _ => rfl
  | cons => exact nothing

theorem declare {name : String} (form : Word.isVariable name = true) :
    Reports [.assign name] fun declared => ([], declared.declare name) := by
  intro declared earlier holds
  constructor
  · simp [violationsAfter, Occurrence.defect?, form]
  · intro other
    rw [Store.isDeclared_declare, Bool.or_eq_true, decide_eq_true_iff, holds other]
    by_cases same : other = name <;> simp [same, form]

end Reports

theorem Expression.defects_report (owner : String) (e : Expression) :
    Reports (usesOf owner e.names) fun declared => (e.defects declared owner, declared) := by
  induction e with
  | number | gauge | barrel => exact .nothing
  | var name => exact .use name owner
  | barrelAt axis index ih => exact ih
  | op o lhs rhs left right =>
    rw [Expression.names, usesOf_append]
    exact left.append right

theorem Condition.defects_report (owner : String) (c : Condition) :
    Reports (usesOf owner c.names) fun declared => (c.defects declared owner, declared) := by
  induction c with
  | compare r lhs rhs =>
    rw [Condition.names, usesOf_append]
    exact (lhs.defects_report owner).append (rhs.defects_report owner)
  | and lhs rhs left right | or lhs rhs left right =>
    rw [Condition.names, usesOf_append]
    exact left.append right
  | not inner ih => exact ih

theorem Action.defects_report (a : Action) :
    Reports a.occurrences fun declared => (a.defects declared, declared) := by
  rcases a with ⟨p, _ | count⟩ | o
  · exact .nothing
  · exact count.defects_report p.keyword
  · exact .nothing

theorem Statement.assign_reports (name : String) (value : Expression) :
    Reports (Statement.assign name value).occurrences (Statement.assign name value).survey := by
  cases form : Word.isVariable name with
  | true =>
    have walk := (value.defects_report name).append (.declare form)
    simpa [Statement.occurrences, Statement.survey, form] using walk
  | false =>
    -- an assignment to an ill-formed name is wrong wherever it stands, and declares nothing
    have quiet : ∀ other, Word.isVariable other = true →
        Occurrence.assign name ≠ .assign other := by
      rintro other good ⟨⟩
      exact Bool.false_ne_true (form.symm.trans good)
    have wrong : ∀ earlier, (Occurrence.assign name).defect? earlier = some (.invalidName name) :=
      fun _ => if_pos form
    have walk := (value.defects_report name).append (.always quiet wrong)
    simpa [Statement.occurrences, Statement.survey, form] using walk

theorem Reports.emptyIf {met : List Occurrence} {walk : Store → List Defect × Store}
    (behind : Reports met walk) :
    Reports (.emptyIf :: met) fun declared => (.emptyIf :: (walk declared).1, (walk declared).2) :=
  append (always (by rintro _ _ ⟨⟩) fun _ => rfl) behind

mutual

theorem Statement.survey_reports (s : Statement) : Reports s.occurrences s.survey := by
  match s with
  | .loop body => exact (Reports.block "loop" body).append (surveyBody_reports body)
  | .choose (.branch test body rest) => exact Chain.survey_reports "if" (.branch test body rest)
  | .choose .done => exact (Chain.survey_reports "if" .done).emptyIf
  | .choose (.otherwise body) => exact (Chain.survey_reports "if" (.otherwise body)).emptyIf
  | .whilst test body =>
    exact ((test.defects_report "while").append (.block "while" body)).append
      (surveyBody_reports body)
  | .assign name value => exact Statement.assign_reports name value
  | .act action => exact action.defects_report

theorem Chain.survey_reports (word : String) (c : Chain) :
    Reports (c.occurrences word) (c.survey word) := by
  match c with
  | .done => exact .nothing
  | .otherwise body => exact (Reports.block "else" body).append (surveyBody_reports body)
  | .branch test body rest =>
    exact (((test.defects_report word).append (.block word body)).append
      (surveyBody_reports body)).append (Chain.survey_reports "elif" rest)

theorem surveyBody_reports (body : Block) : Reports (bodyOccurrences body) (surveyBody body) := by
  match body with
  | [] => exact .nothing
  | s :: rest => exact (Statement.survey_reports s).append (surveyBody_reports rest)

end

def Program.walk (p : Program) (declared : Store) : List Defect × Store :=
  let (found, after) := surveyBody p.statements declared
  ((if p.statements.isEmpty then [.emptyProgram] else []) ++ found, after)

theorem Program.walk_reports (p : Program) : Reports p.occurrences p.walk := by
  have body := surveyBody_reports p.statements
  obtain ⟨_ | ⟨s, rest⟩⟩ := p
  · exact .append (.always (by rintro _ _ ⟨⟩) fun _ => rfl) body
  · exact body

theorem Store.names_increasing (s : Store) : s.names.Pairwise (· < ·) :=
  List.pairwise_map.mpr s.ordered

/-- The defects of a program are the verdicts on what its text shows, in order: one for each empty
part, one for each ill-formed name that is used or assigned, and one for each use of a well-formed
name that was not assigned before. The names it declares are the well-formed ones that are assigned
anywhere, in strictly increasing order. -/
theorem Program.defects_are_violations (p : Program) :
    p.defects = violations p.occurrences ∧
    p.declaredNames.Pairwise (· < ·) ∧
    ∀ name, name ∈ p.declaredNames ↔
      Word.isVariable name = true ∧ .assign name ∈ p.occurrences := by
  have untouched : Store.empty.Holds [] := fun name => by simp [Store.isDeclared]
  obtain ⟨found, holds⟩ := p.walk_reports .empty [] untouched
  refine ⟨?_, p.initialStore.names_increasing, fun name => ?_⟩
  · rw [violations_eq, ← found]
    rfl
  · rw [Program.declaredNames, ← Store.isDeclared_iff_mem_names]
    exact holds name

/-- Defects of all kinds, with a name that is used in its own first assignment, one that is
ill-formed, and one that an untaken branch declares. -/
example :
    let p : Program := ⟨[.loop [], .choose (.otherwise [.assign "x" (.var "$a")]),
      .choose (.branch (.not (.compare .lt (.barrelAt .leftRight (.var "$a")) (.var "?")))
        [.assign "$a" (.op .add (.var "$a") (.number 1))] .done),
      .act (.pace .wait (some (.var "$a")))]⟩
    p.defects = [.emptyBlock "loop", .emptyIf, .undeclared "$a" "x", .invalidName "x",
      .undeclared "$a" "if", .invalidName "?", .undeclared "$a" "$a"] ∧
    p.declaredNames = ["$a"] := by
  decide +kernel

end ArenaScript
