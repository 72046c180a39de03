import Mathlib.Data.List.Induction
import ArenaScript.Exec.Ticks
import ArenaScript.Host.Scripted
import ArenaScript.Proofs.Text.ByteOrder

/-! Reports are canonical. The variables of a program are kept in a table whose entries come in an
order that nobody controls, and a report sorts them by the bytes of their names. Since no edit ever
gives a name a second entry, only one list can come of that: the bindings of the store, whose order
is fixed. It shows what each name is bound to and nothing of how it came to be. -/
namespace ArenaScript

inductive Edit
  | declare (name : String)
  | set (name : String) (value : Value)
  | clear
deriving DecidableEq, Repr

def Store.edit (s : Store) : Edit → Store
  | .declare name => s.declare name
  | .set name value => s.set name value
  | .clear => .empty

def Store.ofEdits (edits : List Edit) : Store := edits.foldl edit .empty

/-- The edits since the names were cleared last. -/
def sinceClear (edits : List Edit) : List Edit :=
  (edits.reverse.takeWhile (· != .clear)).reverse

def Edit.sets? (name : String) : Edit → Option Value
  | .set other value => if other = name then some value else none
  | .declare _ => none
  | .clear => none

def lastSet? (edits : List Edit) (name : String) : Option Value :=
  (edits.filterMap (Edit.sets? name)).getLast?

/-- What a name is bound to by these edits: the value that it was set to last since the names were
cleared, or zero if it was only declared since. -/
def boundBy (edits : List Edit) (name : String) : Option Value :=
  (lastSet? (sinceClear edits) name).or
    (if .declare name ∈ sinceClear edits then some 0 else none)

theorem sinceClear_concat (edits : List Edit) (e : Edit) :
    sinceClear (edits ++ [e]) = if e = .clear then [] else sinceClear edits ++ [e] := by
  cases e <;> simp [sinceClear]

theorem lastSet?_concat (edits : List Edit) (e : Edit) (name : String) :
    lastSet? (edits ++ [e]) name = (e.sets? name).or (lastSet? edits name) := by
  rw [lastSet?, List.filterMap_append, List.getLast?_append, lastSet?]
  cases own : e.sets? name <;> simp [own]

theorem boundBy_declare (edits : List Edit) (name other : String) :
    boundBy (edits ++ [.declare other]) name =
      if name = other then some ((boundBy edits name).getD 0) else boundBy edits name := by
  simp only [boundBy, sinceClear_concat, reduceCtorEq, if_false, lastSet?_concat, Edit.sets?,
    Option.none_or, List.mem_append, List.mem_singleton, Edit.declare.injEq]
  by_cases same : name = other
  · subst same
    cases lastSet? (sinceClear edits) name with
    | some value => simp
    | none => by_cases known : .declare name ∈ sinceClear edits <;> simp [known]
  · simp [same]

theorem boundBy_set (edits : List Edit) (name other : String) (value : Value) :
    boundBy (edits ++ [.set other value]) name =
      if name = other then some value else boundBy edits name := by
  simp only [boundBy, sinceClear_concat, reduceCtorEq, if_false, lastSet?_concat, Edit.sets?,
    List.mem_append, List.mem_singleton, or_false]
  by_cases same : name = other
  · rw [if_pos same.symm, if_pos same, Option.some_or, Option.some_or]
  · rw [if_neg (Ne.symm same), if_neg same, Option.none_or]

theorem boundBy_clear (edits : List Edit) (name : String) :
    boundBy (edits ++ [.clear]) name = none := by
  simp [boundBy, sinceClear_concat, lastSet?]

theorem Store.ofEdits_concat (edits : List Edit) (e : Edit) :
    Store.ofEdits (edits ++ [e]) = (Store.ofEdits edits).edit e := by
  simp [ofEdits]

theorem get?_ofEdits (edits : List Edit) (name : String) :
    (Store.ofEdits edits).get? name = boundBy edits name := by
  induction edits using List.reverseRecOn generalizing name with
  | nil => rfl
  | append_singleton edits e ih =>
    rw [Store.ofEdits_concat]
    cases e with
    | declare other =>
      rw [Store.edit, Store.get?_declare, boundBy_declare, ih, ih]
      by_cases same : name = other
      · rw [same]
      · rw [if_neg same, if_neg same]
    | set other value => rw [Store.edit, Store.get?_set, boundBy_set, ih]
    | clear => rw [Store.edit, Store.get?_empty, boundBy_clear]

/-- What an edit makes of the entries of a table. A name that has an entry keeps it and a new name
gets one; where the new entry stands is nobody's business. -/
def editEntries (entries : List (String × Value)) : Edit → List (String × Value)
  | .declare name => if name ∈ entries.map Prod.fst then entries else (name, 0) :: entries
  | .set name value =>
    if name ∈ entries.map Prod.fst then
      entries.map fun entry => if entry.1 = name then (name, value) else entry
    else (name, value) :: entries
  | .clear => []

/-- A table may list these entries in this order after these edits. An edit may reorder it. -/
inductive Tabled : List Edit → List (String × Value) → Prop
  | new : Tabled [] []
  | edit {edits : List Edit} {entries after : List (String × Value)} (e : Edit)
      (before : Tabled edits entries) (order : after.Perm (editEntries entries e)) :
      Tabled (edits ++ [e]) after

/-- The entries are the bindings of the store, each name once. -/
structure Lists (entries : List (String × Value)) (s : Store) : Prop where
  distinct : (entries.map Prod.fst).Nodup
  bound : ∀ name value, (name, value) ∈ entries ↔ s.get? name = some value

section Tables

variable {entries entries' : List (String × Value)} {s : Store} {name : String} {value : Value}

theorem Lists.perm (lists : Lists entries s) (order : entries'.Perm entries) :
    Lists entries' s where
  distinct := (order.map Prod.fst).nodup_iff.mpr lists.distinct
  bound name value := order.mem_iff.trans (lists.bound name value)

theorem Lists.mem_names_iff (lists : Lists entries s) :
    name ∈ entries.map Prod.fst ↔ s.isDeclared name = true := by
  rw [Store.isDeclared, Option.isSome_iff_exists, List.mem_map]
  constructor
  · rintro ⟨⟨_, value⟩, held, rfl⟩
    exact ⟨value, (lists.bound _ value).mp held⟩
  · rintro ⟨value, known⟩
    exact ⟨(name, value), (lists.bound name value).mpr known, rfl⟩

/-- The first way to bind a name: an entry of its own is added. -/
theorem Lists.insert (lists : Lists entries s) (fresh : name ∉ entries.map Prod.fst) :
    Lists ((name, value) :: entries) (s.set name value) where
  distinct := List.nodup_cons.mpr ⟨fresh, lists.distinct⟩
  bound other v := by
    rw [Store.get?_set, List.mem_cons, Prod.mk.injEq]
    by_cases same : other = name
    · subst same
      have absent : (other, v) ∉ entries := fun held => fresh (List.mem_map.mpr ⟨_, held, rfl⟩)
      simp [absent, eq_comm]
    · simp [same, lists.bound]

/-- The second way: the entry of the name is overwritten where it stands. -/
theorem Lists.overwrite (lists : Lists entries s) (held : name ∈ entries.map Prod.fst) :
    Lists (entries.map fun entry => if entry.1 = name then (name, value) else entry)
      (s.set name value) where
  distinct := by
    have kept : (entries.map fun entry => if entry.1 = name then (name, value) else entry).map
        Prod.fst = entries.map Prod.fst := by
      rw [List.map_map]
      apply List.map_congr_left
      intro entry _
      by_cases here : entry.1 = name <;> simp [here]
    rw [kept]
    exact lists.distinct
  bound other v := by
    rw [Store.get?_set, List.mem_map]
    by_cases same : other = name
    · subst same
      obtain ⟨entry, present, own⟩ := List.mem_map.mp held
      rw [if_pos rfl, Option.some.injEq]
      constructor
      · rintro ⟨found, -, made⟩
        by_cases here : found.1 = other
        · rw [if_pos here] at made
          exact congrArg Prod.snd made
        · rw [if_neg here] at made
          exact absurd (congrArg Prod.fst made) here
      · rintro rfl
        exact ⟨entry, present, if_pos own⟩
    · rw [if_neg same, ← lists.bound]
      constructor
      · rintro ⟨found, present, made⟩
        by_cases here : found.1 = name
        · rw [if_pos here] at made
          exact absurd (congrArg Prod.fst made).symm same
        · rw [if_neg here] at made
          exact made ▸ present
      · intro present
        exact ⟨(other, v), present, if_neg same⟩

theorem Lists.edit (lists : Lists entries s) (e : Edit) :
    Lists (editEntries entries e) (s.edit e) := by
  cases e with
  | declare name =>
    rw [editEntries, Store.edit, Store.declare]
    split
    · rename_i held
      rw [if_pos (lists.mem_names_iff.mp held)]
      exact lists
    · rename_i fresh
      rw [if_neg fun known => fresh (lists.mem_names_iff.mpr known)]
      exact lists.insert fresh
  | set name value =>
    rw [editEntries, Store.edit]
    split
    · rename_i held
      exact lists.overwrite held
    · rename_i fresh
      exact lists.insert fresh
  | clear => exact ⟨.nil, by simp [editEntries, Store.edit]⟩

/-- Every history has a table. -/
theorem tabled_foldl (edits : List Edit) : Tabled edits (edits.foldl editEntries []) := by
  induction edits using List.reverseRecOn with
  | nil => exact .new
  | append_singleton edits e ih => exact .edit e ih (by simp)

theorem Tabled.lists {edits : List Edit} (tabled : Tabled edits entries) :
    Lists entries (.ofEdits edits) := by
  induction tabled with
  | new => exact ⟨.nil, by simp [Store.ofEdits]⟩
  | edit e before order ih =>
    rw [Store.ofEdits_concat]
    exact (ih.edit e).perm order

end Tables

theorem mem_iff_lookup {l : List (String × Value)} (ordered : Ordered l) (name : String)
    (value : Value) : (name, value) ∈ l ↔ l.lookup name = some value := by
  induction l with
  | nil => simp
  | cons first rest ih =>
    obtain ⟨n, v⟩ := first
    obtain ⟨above, tail⟩ := List.pairwise_cons.mp ordered
    rw [lookup_binding, List.mem_cons, Prod.mk.injEq]
    by_cases same : name = n
    · subst same
      -- the names behind the first one are greater
      have absent : (name, value) ∉ rest := fun held => String.lt_irrefl name (above _ held)
      simp [absent, eq_comm]
    · simp [same, ih tail]

theorem Store.lists (s : Store) : Lists s.toList s where
  distinct := by
    rw [List.Nodup, List.pairwise_map]
    apply s.ordered.imp
    intro a b less same
    exact String.lt_irrefl b.1 (same ▸ less)
  bound := mem_iff_lookup s.ordered

/-- In the order of a report, where entries are compared by the bytes of their names alone. -/
def Sorted (entries : List (String × Value)) : Prop :=
  entries.Pairwise fun a b => bytes a.1 ≤ bytes b.1

theorem Store.sorted (s : Store) : Sorted s.toList :=
  s.ordered.imp fun less => bytes_le_iff.mpr (String.not_lt.mp (String.lt_asymm less))

theorem Lists.perm_toList {entries : List (String × Value)} {s : Store} (lists : Lists entries s) :
    s.toList.Perm entries := by
  have once {l : List (String × Value)} (distinct : (l.map Prod.fst).Nodup) : l.Nodup :=
    (List.pairwise_map.mp distinct).imp fun differ same => differ (congrArg Prod.fst same)
  refine (List.perm_ext_iff_of_nodup (once s.lists.distinct) (once lists.distinct)).mpr ?_
  rintro ⟨name, value⟩
  rw [s.lists.bound, lists.bound]

/-- Sorting leaves no choice, since entries that compare as equal are the same entry. -/
theorem Lists.sorted_iff {entries : List (String × Value)} {s : Store} (lists : Lists entries s)
    (sorted : List (String × Value)) :
    sorted.Perm entries ∧ Sorted sorted ↔ sorted = s.toList := by
  constructor
  · rintro ⟨order, inOrder⟩
    refine List.Perm.eq_of_pairwise ?_ inOrder s.sorted (order.trans lists.perm_toList.symm)
    rintro ⟨n, v⟩ ⟨n', v'⟩ held held' le ge
    obtain rfl : n = n' := String.le_antisymm (bytes_le_iff.mp le) (bytes_le_iff.mp ge)
    have known := ((lists.perm order).bound n v).mp held
    have known' := (s.lists.bound n v').mp held'
    rw [known] at known'
    rw [Option.some.inj known']
  · rintro rfl
    exact ⟨lists.perm_toList, s.sorted⟩

/-- Stores that answer alike are equal. -/
theorem Store.ext_get? {s t : Store} (alike : ∀ name, s.get? name = t.get? name) : s = t := by
  have same : Lists t.toList s :=
    ⟨t.lists.distinct, fun name value => by rw [t.lists.bound, alike]⟩
  have listed : t.toList = s.toList := (same.sorted_iff t.toList).mp ⟨.refl _, t.sorted⟩
  exact Store.ext listed.symm

/-- The variables that the report of a run shows that ends with this store. -/
def Store.ShownAs (s : Store) (vars : List (String × Value)) : Prop :=
  ∃ (σ : Type) (host : Host σ) (policy : LoopPolicy) (fuel : Nat) (p : Program) (n : Nat)
    (first last : Machine σ) (report : Report),
    p.ticks host policy fuel n first = (.ok report, last) ∧ last.store = s ∧ report.vars = vars

theorem Store.ShownAs.eq_toList {s : Store} {vars : List (String × Value)}
    (shown : s.ShownAs vars) : vars = s.toList := by
  obtain ⟨σ, host, policy, fuel, p, n, first, last, report, run, rfl, rfl⟩ := shown
  obtain ⟨-, m, -, rest⟩ := Attempt.bind_eq_ok.mp run
  cases rest
  rfl

/-- After any edits the store lists the names that are bound, each once and in increasing order of
their bytes, with the value that the history gives them. Whatever order a table has come to have
its entries in, it has as many of them, and to sort them by name, stable or not, gives that list
and no other. So two histories behind which every name is bound alike have the same list, and the
reports of runs that end there both show it. -/
theorem reports_canonical (edits : List Edit) :
    let s := Store.ofEdits edits
    s.toList.Pairwise (fun a b => bytes a.1 < bytes b.1) ∧
    (∀ name value, (name, value) ∈ s.toList ↔ boundBy edits name = some value) ∧
    s.size = s.toList.length ∧
    (∀ entries, Tabled edits entries → entries.length = s.size ∧
      ∀ sorted, sorted.Perm entries ∧ Sorted sorted ↔ sorted = s.toList) ∧
    ∀ edits', (∀ name, s.get? name = (Store.ofEdits edits').get? name) →
      s.toList = (Store.ofEdits edits').toList ∧
      ∀ vars vars', s.ShownAs vars → (Store.ofEdits edits').ShownAs vars' →
        vars = s.toList ∧ vars = vars' := by
  intro s
  refine ⟨s.ordered.imp bytes_lt, fun name value => ?_, rfl, fun entries tabled => ?_, ?_⟩
  · rw [s.lists.bound, get?_ofEdits]
  · exact ⟨tabled.lists.perm_toList.length_eq.symm, tabled.lists.sorted_iff⟩
  · intro edits' alike
    have same : s = Store.ofEdits edits' := Store.ext_get? alike
    refine ⟨congrArg Store.toList same, fun vars vars' shown shown' => ⟨shown.eq_toList, ?_⟩⟩
    rw [shown.eq_toList, shown'.eq_toList, same]

/-- The longer history clears a name, sets one before it declares it, and declares one only. The
last edit of the other one is made by a run. -/
theorem reports_canonical_cleared :
    let before := [.set "$b" 2, .declare "$ä", .set "$z" 3, .declare "$b"]
    let edits := before ++ [.set "$b" 4]
    let edits' := [.set "$q" 9, .clear, .declare "$z", .set "$b" 4, .set "$z" 3, .declare "$ä"]
    let entries := [("$z", 3), ("$ä", 0), ("$b", 4)]
    let setting : Program := ⟨[.assign "$b" (.number 4)]⟩
    let moving : Program := ⟨[.act (.pace .move none)]⟩
    let run := setting.ticks Scripted.host .singlePass 1 2
      (.start (Scripted.new {}) (Store.ofEdits before))
    let run' := moving.ticks Scripted.host .singlePass 1 3
      (.start (Scripted.new {}) (Store.ofEdits edits'))
    Tabled edits entries ∧
      (∀ sorted, sorted.Perm entries ∧ Sorted sorted ↔
        sorted = [("$b", 4), ("$z", 3), ("$ä", 0)]) ∧
      (Store.ofEdits edits).toList = (Store.ofEdits edits').toList ∧
      ∃ report report', run.1 = .ok report ∧ run'.1 = .ok report' ∧
        (report.ticks, report.actions) = (2, 0) ∧ (report'.ticks, report'.actions) = (3, 3) ∧
        report.vars = (Store.ofEdits edits).toList ∧ report.vars = report'.vars := by
  intro before edits edits' entries setting moving run run'
  have tabled : Tabled edits entries := .edit _ (tabled_foldl _) (by decide)
  obtain ⟨-, -, -, sorting, alike⟩ := reports_canonical edits
  have agree : Store.ofEdits edits = Store.ofEdits edits' := by decide
  obtain ⟨lists, reports⟩ := alike edits' fun name => by rw [agree]
  have ended : run.1 = .ok ⟨2, 0, [("$b", 4), ("$z", 3), ("$ä", 0)]⟩ := by decide +kernel
  have ended' : run'.1 = .ok ⟨3, 3, [("$b", 4), ("$z", 3), ("$ä", 0)]⟩ := by decide +kernel
  have store : run.2.store = Store.ofEdits edits := by decide +kernel
  have store' : run'.2.store = Store.ofEdits edits' := by decide +kernel
  refine ⟨tabled, (sorting entries tabled).2, lists, _, _, ended, ended', rfl, rfl, ?_⟩
  apply reports
  · exact ⟨_, _, _, _, _, _, _, run.2, _, Prod.ext ended rfl, store, rfl⟩
  · exact ⟨_, _, _, _, _, _, _, run'.2, _, Prod.ext ended' rfl, store', rfl⟩

end ArenaScript
