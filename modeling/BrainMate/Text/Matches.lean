import BrainMate.Text.Regex

namespace BrainMate.Text

variable {Symbol : Type}

structure Match (Symbol : Type) where
  index : Nat
  start : Place Symbol
  stop : Place Symbol

/-- `match[0]` -/
def Match.taken (found : Match Symbol) : List Symbol := found.start.upTo found.stop

/-- `text.slice(start, stop)` -/
def slice (text : List Symbol) (start stop : Nat) : List Symbol := (text.take stop).drop start

private theorem slice_append (front part back : List Symbol) :
    slice (front ++ (part ++ back)) front.length (front.length + part.length) = part := by
  rw [slice, ← List.take_drop, List.drop_left, List.take_left]

/-- A match of the pattern at its index of the text. -/
structure Match.Of (pattern : Pattern Symbol) (text : List Symbol) (found : Match Symbol) : Prop where
  index_le : found.index ≤ text.length
  rest : found.start.rest = text.drop found.index
  before : found.start.before = (text.take found.index).getLast?
  reached : found.stop ∈ pattern.ends found.start

namespace Pattern

/-- The matches of a pattern that takes something, from an index on. The symbols that are left of a
match are skipped. -/
def matchesFrom (pattern : Pattern Symbol) :
    Nat → Nat → Option Symbol → List Symbol → List (Match Symbol)
  | _, _, _, [] => []
  | skip + 1, index, _, head :: rest => matchesFrom pattern skip (index + 1) (some head) rest
  | 0, index, before, head :: rest =>
    let start : Place Symbol := { before, rest := head :: rest }
    match (pattern.ends start).head? with
    | some stop =>
      { index, start, stop } ::
        matchesFrom pattern ((start.upTo stop).length - 1) (index + 1) (some head) rest
    | none => matchesFrom pattern 0 (index + 1) (some head) rest

def allMatches (pattern : Pattern Symbol) (text : List Symbol) : List (Match Symbol) :=
  pattern.matchesFrom 0 0 none text

/-- The pattern cannot take nothing. -/
def solid : Pattern Symbol → Bool
  | .symbol _ => true
  | .seq first second => first.solid || second.solid
  | .alt first second => first.solid && second.solid
  | .group _ body => body.solid
  | .empty | .many _ | .again _ _ | .unless _ | .boundary _ => false

/-- No group stands in the pattern. -/
def groupless : Pattern Symbol → Bool
  | .empty | .symbol _ | .again _ _ | .unless _ | .boundary _ => true
  | .seq first second | .alt first second => first.groupless && second.groupless
  | .many body => body.groupless
  | .group _ _ => false

/-- `\b…\b` -/
def wholeWords (isWord : Symbol → Bool) (body : Pattern Symbol) : Pattern Symbol :=
  .seq (.boundary isWord) (.seq body (.boundary isWord))

/-- `$` -/
def atEnd : Pattern Symbol := .unless (.symbol fun _ => true)

variable {pattern body : Pattern Symbol} {place later : Place Symbol} {text : List Symbol}

theorem takes_solid {taken : List Symbol} (took : pattern.Takes taken)
    (solid : pattern.solid = true) : taken ≠ [] := by
  induction took with
  | empty | stop | ahead | boundary | again => exact absurd solid Bool.false_ne_true
  | symbol accepted => exact List.cons_ne_nil _ _
  | seq began ended first_ih second_ih =>
    rw [Pattern.solid, Bool.or_eq_true] at solid
    intro nothing
    obtain ⟨first_nothing, second_nothing⟩ := List.append_eq_nil_iff.mp nothing
    cases solid with
    | inl solid => exact first_ih solid first_nothing
    | inr solid => exact second_ih solid second_nothing
  | left took ih =>
    rw [Pattern.solid, Bool.and_eq_true] at solid
    exact ih solid.1
  | right took ih =>
    rw [Pattern.solid, Bool.and_eq_true] at solid
    exact ih solid.2
  | turn took others => exact absurd solid Bool.false_ne_true
  | group took ih => exact ih solid

private theorem takes_many_symbol {accepts : Symbol → Bool} {taken : List Symbol}
    (accepted : ∀ symbol ∈ taken, accepts symbol = true) : (many (.symbol accepts)).Takes taken := by
  induction taken with
  | nil => exact .stop
  | cons head rest ih =>
    have others := ih fun symbol member => accepted symbol (List.mem_cons_of_mem _ member)
    exact .turn (.symbol (accepted head List.mem_cons_self)) others

theorem takes_oneOrMore_symbol {accepts : Symbol → Bool} {taken : List Symbol} :
    (oneOrMore (.symbol accepts)).Takes taken ↔
      taken ≠ [] ∧ ∀ symbol ∈ taken, accepts symbol = true := by
  rw [oneOrMore, takes_seq]
  constructor
  · intro ⟨front, back, parts, began, others⟩
    subst parts
    cases began with
    | symbol accepted =>
      refine ⟨List.cons_ne_nil _ _, List.forall_mem_cons.mpr ⟨accepted, ?_⟩⟩
      exact accepts_of_takes_many others
  · intro ⟨nonempty, accepted⟩
    obtain ⟨head, rest, rfl⟩ := List.exists_cons_of_ne_nil nonempty
    obtain ⟨first, others⟩ := List.forall_mem_cons.mp accepted
    exact ⟨[head], rest, rfl, .symbol first, takes_many_symbol others⟩

theorem mem_ends_symbol {accepts : Symbol → Bool} :
    later ∈ (symbol accepts).ends place ↔
      ∃ head rest, place.rest = head :: rest ∧ accepts head = true ∧ later = place.advance 1 := by
  rw [ends]
  cases place.rest with
  | nil => simp
  | cons head rest =>
    by_cases accepted : accepts head = true
    · simp [accepted]
    · simp [accepted]

theorem mem_ends_boundary {isWord : Symbol → Bool} :
    later ∈ (boundary isWord).ends place ↔
      later = place ∧ place.before.any isWord ≠ place.rest.head?.any isWord := by
  rw [ends]
  by_cases differs : place.before.any isWord = place.rest.head?.any isWord
  · simp [differs]
  · simp [differs]

theorem mem_ends_atEnd : later ∈ atEnd.ends place ↔ later = place ∧ place.rest = [] := by
  rw [atEnd, ends, ends]
  cases place.rest with
  | nil => simp
  | cons head rest => simp

private theorem groups_of_repeated {turn : Place Symbol → List (Place Symbol)} {fuel : Nat}
    (turn_groups : ∀ place, ∀ later ∈ turn place, later.groups = place.groups)
    (reached : later ∈ repeated turn fuel place) : later.groups = place.groups := by
  induction fuel generalizing place with
  | zero => exact congrArg Place.groups (List.mem_singleton.mp reached)
  | succ fuel ih =>
    obtain rfl | ⟨next, turned, _, reached⟩ := mem_repeated_succ.mp reached
    · rfl
    · exact (ih reached).trans (turn_groups place next turned)

theorem groups_of_groupless (groupless : pattern.groupless = true) (place : Place Symbol) :
    ∀ later ∈ pattern.ends place, later.groups = place.groups := by
  induction pattern generalizing place with
  | empty =>
    intro later reached
    exact congrArg Place.groups (List.mem_singleton.mp reached)
  | symbol accepts =>
    intro later reached
    obtain ⟨head, rest, _, _, rfl⟩ := mem_ends_symbol.mp reached
    rfl
  | seq first second first_ih second_ih =>
    intro later reached
    rw [Pattern.groupless, Bool.and_eq_true] at groupless
    obtain ⟨middle, began, ended⟩ := List.mem_flatMap.mp reached
    exact (second_ih groupless.2 middle later ended).trans (first_ih groupless.1 place middle began)
  | alt first second first_ih second_ih =>
    intro later reached
    rw [Pattern.groupless, Bool.and_eq_true] at groupless
    obtain reached | reached := List.mem_append.mp reached
    · exact first_ih groupless.1 place later reached
    · exact second_ih groupless.2 place later reached
  | many body ih =>
    intro later reached
    exact groups_of_repeated (ih groupless) reached
  | group index body ih => exact absurd groupless Bool.false_ne_true
  | again index same =>
    intro later reached
    simp only [ends] at reached
    split at reached
    · rw [List.mem_singleton.mp reached]
      rfl
    · exact absurd reached List.not_mem_nil
  | «unless» body =>
    intro later reached
    rw [ends] at reached
    split at reached
    · exact congrArg Place.groups (List.mem_singleton.mp reached)
    · exact absurd reached List.not_mem_nil
  | boundary isWord =>
    intro later reached
    exact congrArg Place.groups (mem_ends_boundary.mp reached).1

section WholeWords

variable {isWord : Symbol → Bool}

theorem mem_ends_wholeWords :
    later ∈ (wholeWords isWord body).ends place ↔
      later ∈ body.ends place ∧ place.before.any isWord ≠ place.rest.head?.any isWord ∧
        later.before.any isWord ≠ later.rest.head?.any isWord := by
  rw [wholeWords]
  constructor
  · intro reached
    obtain ⟨opened, began, reached⟩ := List.mem_flatMap.mp reached
    obtain ⟨middle, inside, ended⟩ := List.mem_flatMap.mp reached
    obtain ⟨rfl, opens⟩ := mem_ends_boundary.mp began
    obtain ⟨rfl, closes⟩ := mem_ends_boundary.mp ended
    exact ⟨inside, opens, closes⟩
  · intro ⟨inside, opens, closes⟩
    refine List.mem_flatMap.mpr ⟨place, mem_ends_boundary.mpr ⟨rfl, opens⟩, ?_⟩
    exact List.mem_flatMap.mpr ⟨later, inside, mem_ends_boundary.mpr ⟨rfl, closes⟩⟩

end WholeWords

private theorem matchesFrom_skip {taken rest : List Symbol} {index : Nat} {before : Option Symbol} :
    pattern.matchesFrom taken.length index before (taken ++ rest) =
      pattern.matchesFrom 0 (index + taken.length) (taken.getLast?.or before) rest := by
  induction taken generalizing index before with
  | nil => rfl
  | cons head taken ih =>
    rw [List.length_cons, List.cons_append, matchesFrom, ih, List.getLast?_cons]
    cases taken.getLast? with
    | none => simp [Nat.add_assoc, Nat.add_comm 1]
    | some last => simp [Nat.add_assoc, Nat.add_comm 1]

/-- The search goes on behind a match that takes a symbol and more. -/
theorem matchesFrom_behind {seen taken rest : List Symbol} {head : Symbol} :
    pattern.matchesFrom taken.length (seen.length + 1) (some head) (taken ++ rest) =
      pattern.matchesFrom 0 (seen ++ head :: taken).length (seen ++ head :: taken).getLast? rest := by
  have place : (seen ++ head :: taken).length = seen.length + 1 + taken.length := by
    rw [List.length_append, List.length_cons]
    omega
  have front : (seen ++ head :: taken).getLast? = taken.getLast?.or (some head) := by
    rw [List.getLast?_append, List.getLast?_cons]
    cases taken.getLast? <;> rfl
  rw [matchesFrom_skip, place, front]

/-- What holds where the search begins, behind every match and behind every symbol at which there
is none, holds at the start of every match. -/
theorem of_mem_matchesFrom (solid : pattern.solid = true) {holds : Option Symbol → List Symbol → Prop}
    (hit : ∀ place later, later ∈ pattern.ends place → holds place.before place.rest →
      holds later.before later.rest)
    (miss : ∀ before head rest, pattern.ends { before, rest := head :: rest } = [] →
      holds before (head :: rest) → holds (some head) rest)
    {seen : List Symbol} (begins : holds seen.getLast? text) :
    ∀ found ∈ pattern.matchesFrom 0 seen.length seen.getLast? text,
      found.Of pattern (seen ++ text) ∧ holds found.start.before found.start.rest := by
  induction length : text.length using Nat.strongRecOn generalizing seen text with
  | ind size ih =>
    intro found member
    subst length
    cases text with
    | nil => exact absurd member List.not_mem_nil
    | cons head rest =>
      have longer : (seen ++ [head]).length = seen.length + 1 := List.length_append
      have last : (seen ++ [head]).getLast? = some head := List.getLast?_concat
      simp only [matchesFrom] at member
      split at member
      · rename_i stop first
        have reached := List.mem_of_mem_head? first
        obtain ⟨taken, leads, took⟩ := takes_of_ends pattern _ stop reached
        rw [leads.upTo] at member
        have after := hit _ _ reached begins
        obtain rfl | later := List.mem_cons.mp member
        · refine ⟨⟨?_, ?_, ?_, reached⟩, begins⟩
          · simp
          · simp
          · simp
        · cases taken with
          | nil => exact absurd rfl (takes_solid took solid)
          | cons symbol taken =>
            obtain ⟨same, tail⟩ := List.cons.inj leads.rest
            have tail : rest = taken ++ stop.rest := tail
            subst same tail
            have ended : stop.before = (seen ++ head :: taken).getLast? := by
              rw [leads.before, List.getLast?_append]
            rw [List.length_cons, Nat.add_sub_cancel, matchesFrom_behind] at later
            rw [ended] at after
            have shorter : stop.rest.length < (head :: (taken ++ stop.rest)).length := by
              rw [List.length_cons, List.length_append]
              omega
            have others := ih _ shorter after rfl found later
            rwa [List.append_assoc, List.cons_append] at others
      · rename_i missed
        have nothing := List.head?_eq_none_iff.mp missed
        have after := miss _ _ _ nothing begins
        rw [← last] at after
        rw [← last, ← longer] at member
        have others := ih rest.length (Nat.lt_succ_self _) after rfl found member
        rwa [List.append_assoc, List.singleton_append] at others

theorem of_mem_allMatches (solid : pattern.solid = true) {found : Match Symbol}
    (member : found ∈ pattern.allMatches text) : found.Of pattern text :=
  (@of_mem_matchesFrom _ pattern text solid (fun _ _ => True) (fun _ _ _ _ => trivial)
    (fun _ _ _ _ _ => trivial) [] trivial found member).1

end Pattern

namespace Match.Of

variable {pattern : Pattern Symbol} {text : List Symbol} {found : Match Symbol}

theorem leads (of : found.Of pattern text) :
    found.start.Leads found.taken found.stop ∧ pattern.Takes found.taken := by
  obtain ⟨taken, leads, took⟩ := Pattern.takes_of_ends pattern _ _ of.reached
  rw [Match.taken, leads.upTo]
  exact ⟨leads, took⟩

/-- The text is what is in front of a match, what the match takes and what is behind it. -/
theorem whole (of : found.Of pattern text) :
    text = text.take found.index ++ (found.taken ++ found.stop.rest) := by
  rw [← of.leads.1.rest, of.rest, List.take_append_drop]

theorem length (of : found.Of pattern text) :
    found.index + found.taken.length + found.stop.rest.length = text.length := by
  have lengths := congrArg List.length of.leads.1.rest
  rw [of.rest, List.length_drop, List.length_append] at lengths
  have within := of.index_le
  omega

/-- A match points at every part of what it takes. -/
theorem slice_part (of : found.Of pattern text) {front part back : List Symbol}
    (parts : found.taken = front ++ (part ++ back)) :
    slice text (found.index + front.length) (found.index + front.length + part.length) = part := by
  have before : (text.take found.index ++ front).length = found.index + front.length := by
    rw [List.length_append, List.length_take_of_le of.index_le]
  have split : text = (text.take found.index ++ front) ++ (part ++ (back ++ found.stop.rest)) := by
    conv_lhs => rw [of.whole, parts]
    simp only [List.append_assoc]
  have found_part := slice_append (text.take found.index ++ front) part (back ++ found.stop.rest)
  rwa [← split, before] at found_part

theorem slice_taken (of : found.Of pattern text) :
    slice text found.index (found.index + found.taken.length) = found.taken :=
  @slice_part _ _ _ _ of [] _ [] (List.append_nil _).symm

end Match.Of

end BrainMate.Text
