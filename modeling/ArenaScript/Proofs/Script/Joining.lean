import ArenaScript.Proofs.Script.Acceptance
import ArenaScript.Proofs.Token

/-! Scripts one behind the other. A script ends in a semicolon or a closing brace, so its last token
does not run on into a text that is put behind it, and no statement continues the chain of the one
before it. So a script may be parsed in parts, each with the store that the parts before it left. -/
namespace ArenaScript

/-- The last of the tokens closes a statement. -/
def Ended (tokens : List String) : Prop :=
  tokens.getLast? = some ";" ∨ tokens.getLast? = some "\x7d"

theorem Ended.append {ts : List String} (ended : Ended ts) (before : List String) :
    Ended (before ++ ts) := by
  rcases ended with last | last
  · exact .inl (by rw [List.getLast?_append, last]; rfl)
  · exact .inr (by rw [List.getLast?_append, last]; rfl)

theorem ended_of_block {ts : List String} {body : Block} (derived : DerivesBlock ts body) :
    Ended ts := by
  cases derived with
  | @braces ts => exact .append (.inr rfl : Ended ["\x7d"]) ("\x7b" :: ts)

/-- A chain goes on behind a block and ends in one, if it goes on at all. -/
theorem ended_of_chain : {before ts : List String} → {rest : Chain} → Ended before →
    Chain.Derives ts rest → Ended (before ++ ts)
  | before, _, _, ended, .done => by rwa [List.append_nil]
  | before, _, _, _, .otherwise block => ((ended_of_block block).append ["else"]).append before
  | before, _, _, _, @Chain.Derives.branch ts us vs _ _ _ _ block tail => by
    have closed := (ended_of_block block).append (before ++ "elif" :: "(" :: (ts ++ [")"]))
    simpa using ended_of_chain closed tail

theorem ended_of_statement {ts : List String} {s : Statement} (derived : Statement.Derives ts s) :
    Ended ts := by
  cases derived with
  | loop block => exact (ended_of_block block).append ["loop"]
  | @choose ts us vs test body rest guard block tail =>
    have closed := (ended_of_block block).append ("if" :: "(" :: (ts ++ [")"]))
    simpa using ended_of_chain closed tail
  | @whilst ts us test body guard block =>
    simpa using (ended_of_block block).append ("while" :: "(" :: (ts ++ [")"]))
  | @assign ts name value form source =>
    exact .append (.inl rfl : Ended [";"]) (name :: "=" :: ts)
  | act deed =>
    cases deed with
    | once p => exact .append (.inl rfl : Ended [";"]) [p.keyword]
    | @times ts count p argument =>
      exact .append (.inl rfl : Ended [")", ";"]) (p.keyword :: "(" :: ts)
    | order o => exact .append (.inl rfl : Ended [";"]) [o.keyword]

theorem ended_of_all : {ts : List String} → {body : List Statement} → DerivesAll ts body → Ended ts
  | _, _, .one first => ended_of_statement first
  | _, _, .more _ others => (ended_of_all others).append _

theorem closes_of_ended {text : String} (ended : Ended (Token.split text)) : Token.Closes text := by
  rcases ended with last | last
  · exact Token.closes_of_last (rfl : Token.Closes ";") last
  · exact Token.closes_of_last (rfl : Token.Closes "\x7d") last

theorem DerivesAll.append {us : List String} {more : List Statement} (later : DerivesAll us more) :
    {ts : List String} → {body : List Statement} → DerivesAll ts body →
      DerivesAll (ts ++ us) (body ++ more)
  | _, _, .one first => .more first later
  | _, _, .more first others => by
    rw [List.append_assoc]
    exact .more first (later.append others)

theorem passesAll_append {declared after : Store} (body more : Block) :
    PassesAll (body ++ more) declared after ↔
      ∃ middle, PassesAll body declared middle ∧ PassesAll more middle after := by
  induction body generalizing declared with
  | nil => simp
  | cons s rest ih =>
    simp only [List.cons_append, passesAll_cons, ih]
    constructor
    · rintro ⟨first, passes, middle, others, later⟩
      exact ⟨middle, ⟨first, passes, others⟩, later⟩
    · rintro ⟨middle, ⟨first, passes, others⟩, later⟩
      exact ⟨first, passes, middle, others, later⟩

theorem bodyNesting_append (body more : Block) :
    bodyNesting (body ++ more) = max (bodyNesting body) (bodyNesting more) := by
  induction body with
  | nil => simp [bodyNesting]
  | cons s rest ih => rw [List.cons_append, bodyNesting, bodyNesting, ih, Nat.max_assoc]

namespace Program

theorem split_append_of_derives {text : String} {p : Program}
    (derived : p.Derives (Token.split text)) (later : String) :
    Token.split (text ++ later) = Token.split text ++ Token.split later :=
  Token.split_append_of_closes later (closes_of_ended (ended_of_all derived))

/-- If a text is parsed, and then another one with the store that this left, the two texts put
together without anything between them are parsed to the statements of the one and then of the
other, and leave the same store. -/
theorem parse_joined {text later : String} {store : Store} {p q : Program}
    (first : (Program.parse text store).result = .ok p)
    (second : (Program.parse later (Program.parse text store).store).result = .ok q) :
    (Program.parse (text ++ later) store).result = .ok ⟨p.statements ++ q.statements⟩ ∧
    (Program.parse (text ++ later) store).store =
      (Program.parse later (Program.parse text store).store).store := by
  obtain ⟨derived, passes, fits⟩ := derives_of_parse first
  obtain ⟨derived', passes', fits'⟩ := derives_of_parse second
  -- at the seam no token is lost, so the two token lists are derived one behind the other
  have both : Program.Derives (Token.split (text ++ later)) ⟨p.statements ++ q.statements⟩ := by
    rw [split_append_of_derives derived]
    exact DerivesAll.append derived' derived
  have walked := (passesAll_append p.statements q.statements).mpr ⟨_, passes, passes'⟩
  have fit : Program.nesting ⟨p.statements ++ q.statements⟩ ≤ maxNesting := by
    rw [Program.nesting, bodyNesting_append]
    exact Nat.max_le.mpr ⟨fits, fits'⟩
  exact parse_of_derives both walked fit

/-- The second text reads a name that only the first one assigns, and begins with a test where the
first one could have gone on with a chain. -/
theorem parse_joined_at_brace :
    let store := Store.empty.set "$y" 5
    let p : Program := ⟨[.choose (.branch (.compare .lt (.gauge .fuelLeft) (.var "$y"))
      [.assign "$x" (.number 3)] .done)]⟩
    let q : Program := ⟨[.choose (.branch (.compare .eq (.var "$x") (.number 0))
      [.act (.pace .move none)] .done), .act (.pace .wait (some (.var "$x")))]⟩
    let left := Program.parse "if (lt(fuelLeft, $y)) \x7b $x = 3; \x7d" store
    let right := Program.parse "if(eq($x,0))\x7bmove;\x7dwait($x); " left.store
    let whole := Program.parse
      ("if (lt(fuelLeft, $y)) \x7b $x = 3; \x7d" ++ "if(eq($x,0))\x7bmove;\x7dwait($x); ") store
    left.result = .ok p ∧ right.result = .ok q ∧
      whole.result = .ok ⟨p.statements ++ q.statements⟩ ∧ whole.store = right.store ∧
      right.store.toList = [("$x", 0), ("$y", 5)] := by
  intro store p q left right whole
  have first : left.result = .ok p := by decide +kernel
  have second : right.result = .ok q := by decide +kernel
  obtain ⟨joined, stored⟩ := parse_joined first second
  exact ⟨first, second, joined, stored, by decide +kernel⟩

end Program

end ArenaScript
