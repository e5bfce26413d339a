import Mathlib.Data.List.Basic

/-! Regular expressions as a backtracking engine reads them: a pattern lists every way in which
it matches at a place, in the order in which the engine tries them. -/

namespace BrainMate.Text

inductive Pattern (Symbol : Type) where
  | empty
  | symbol (accepts : Symbol → Bool)
  | seq (first second : Pattern Symbol)
  | alt (first second : Pattern Symbol)
  /-- Greedy; a turn that takes nothing is none. -/
  | many (body : Pattern Symbol)
  | group (index : Nat) (body : Pattern Symbol)
  /-- What a group took, up to what counts as the same symbol. -/
  | again (index : Nat) (same : Symbol → Symbol → Bool)
  | unless (body : Pattern Symbol)
  | boundary (isWord : Symbol → Bool)

/-- A place in a text, and what the groups took on the way to it. -/
structure Place (Symbol : Type) where
  before : Option Symbol
  rest : List Symbol
  groups : List (Nat × List Symbol) := []

variable {Symbol : Type}

namespace Place

/-- What a group took last; nothing where it took no part. -/
def captured (place : Place Symbol) (index : Nat) : List Symbol :=
  ((place.groups.find? fun group => group.1 = index).map Prod.snd).getD []

def advance (place : Place Symbol) (count : Nat) : Place Symbol :=
  { place with
    before := (place.rest.take count).getLast?.or place.before
    rest := place.rest.drop count }

/-- What was taken on the way to a later place. -/
def upTo (place later : Place Symbol) : List Symbol :=
  place.rest.take (place.rest.length - later.rest.length)

/-- An earlier place leads to a later one by taking a list of symbols. -/
structure Leads (place : Place Symbol) (taken : List Symbol) (later : Place Symbol) : Prop where
  rest : place.rest = taken ++ later.rest
  before : later.before = taken.getLast?.or place.before

namespace Leads

variable {place middle later : Place Symbol} {taken more : List Symbol}

theorem nothing (place : Place Symbol) : place.Leads [] place := ⟨rfl, rfl⟩

theorem trans (first : place.Leads taken middle) (second : middle.Leads more later) :
    place.Leads (taken ++ more) later where
  rest := by rw [first.rest, second.rest, List.append_assoc]
  before := by
    rw [second.before, first.before, List.getLast?_append]
    cases more.getLast? <;> rfl

theorem upTo (leads : place.Leads taken later) : place.upTo later = taken := by
  have length : place.rest.length - later.rest.length = taken.length := by
    rw [leads.rest, List.length_append, Nat.add_sub_cancel]
  rw [Place.upTo, length, leads.rest, List.take_left]

/-- Groups are no part of where a place is. -/
theorem regroup (leads : place.Leads taken later) (groups : List (Nat × List Symbol)) :
    place.Leads taken { later with groups } := ⟨leads.rest, leads.before⟩

end Leads

theorem leads_advance (place : Place Symbol) (count : Nat) :
    place.Leads (place.rest.take count) (place.advance count) :=
  ⟨(List.take_append_drop count place.rest).symm, rfl⟩

end Place

namespace Pattern

def repeated (turn : Place Symbol → List (Place Symbol)) : Nat → Place Symbol → List (Place Symbol)
  | 0, place => [place]
  | fuel + 1, place =>
    ((turn place).filter fun next => next.rest.length < place.rest.length).flatMap
      (repeated turn fuel) ++ [place]

/-- The places at which a match can end. -/
def ends : Pattern Symbol → Place Symbol → List (Place Symbol)
  | .empty, place => [place]
  | .symbol accepts, place =>
    match place.rest with
    | head :: _ => if accepts head then [place.advance 1] else []
    | [] => []
  | .seq first second, place => (first.ends place).flatMap second.ends
  | .alt first second, place => first.ends place ++ second.ends place
  | .many body, place => repeated body.ends place.rest.length place
  | .group index body, place =>
    (body.ends place).map fun later =>
      { later with groups := (index, place.upTo later) :: later.groups }
  | .again index same, place =>
    let taken := place.captured index
    if taken.length ≤ place.rest.length ∧ (taken.zip place.rest).all fun pair => same pair.1 pair.2
    then [place.advance taken.length] else []
  | .unless body, place => if (body.ends place).isEmpty then [place] else []
  | .boundary isWord, place =>
    if place.before.any isWord != place.rest.head?.any isWord then [place] else []

/-- `p+` -/
def oneOrMore (body : Pattern Symbol) : Pattern Symbol := .seq body (.many body)

def oneOf : List (Pattern Symbol) → Pattern Symbol
  | [] => .unless .empty
  | [last] => last
  | first :: others => .alt first (oneOf others)

def chain : List (Pattern Symbol) → Pattern Symbol
  | [] => .empty
  | first :: others => .seq first (chain others)

/-- The symbols of a word, up to how they are read. -/
def word [DecidableEq Symbol] (read : Symbol → Symbol) : List Symbol → Pattern Symbol
  | [] => .empty
  | letter :: letters => .seq (.symbol fun symbol => read symbol = letter) (word read letters)

variable {place later : Place Symbol} {pattern first second body : Pattern Symbol}
  {turn : Place Symbol → List (Place Symbol)} {fuel : Nat}

theorem mem_repeated_succ :
    later ∈ repeated turn (fuel + 1) place ↔
      later = place ∨ ∃ next ∈ turn place, next.rest.length < place.rest.length ∧
        later ∈ repeated turn fuel next := by
  simp only [repeated, List.mem_append, List.mem_flatMap, List.mem_filter, decide_eq_true_eq,
    List.mem_singleton, and_assoc]
  exact or_comm

private theorem self_mem_repeated : place ∈ repeated turn fuel place := by
  cases fuel with
  | zero => exact List.mem_singleton_self _
  | succ fuel => exact mem_repeated_succ.mpr (.inl rfl)

/-- What a pattern can take. A look-ahead and a boundary take nothing; what a reference to a group
takes is left open. -/
inductive Takes : Pattern Symbol → List Symbol → Prop
  | empty : Takes .empty []
  | symbol {accepts : Symbol → Bool} {symbol : Symbol} (accepted : accepts symbol = true) :
    Takes (.symbol accepts) [symbol]
  | seq {first second : Pattern Symbol} {taken more : List Symbol} (began : Takes first taken)
    (ended : Takes second more) : Takes (.seq first second) (taken ++ more)
  | left {first second : Pattern Symbol} {taken : List Symbol} (took : Takes first taken) :
    Takes (.alt first second) taken
  | right {first second : Pattern Symbol} {taken : List Symbol} (took : Takes second taken) :
    Takes (.alt first second) taken
  | stop {body : Pattern Symbol} : Takes (.many body) []
  | turn {body : Pattern Symbol} {symbol : Symbol} {taken more : List Symbol}
    (took : Takes body (symbol :: taken)) (others : Takes (.many body) more) :
    Takes (.many body) (symbol :: taken ++ more)
  | group {index : Nat} {body : Pattern Symbol} {taken : List Symbol} (took : Takes body taken) :
    Takes (.group index body) taken
  | again {index : Nat} {same : Symbol → Symbol → Bool} (taken : List Symbol) :
    Takes (.again index same) taken
  | ahead {body : Pattern Symbol} : Takes (.unless body) []
  | boundary {isWord : Symbol → Bool} : Takes (.boundary isWord) []

private theorem takes_of_repeated
    (turn_takes : ∀ place, ∀ later ∈ turn place, ∃ taken, place.Leads taken later ∧ body.Takes taken)
    (reached : later ∈ repeated turn fuel place) :
    ∃ taken, place.Leads taken later ∧ (many body).Takes taken := by
  induction fuel generalizing place with
  | zero =>
    rw [repeated, List.mem_singleton] at reached
    exact ⟨[], reached ▸ .nothing place, .stop⟩
  | succ fuel ih =>
    obtain same | ⟨next, turned, shorter, reached⟩ := mem_repeated_succ.mp reached
    · exact ⟨[], same ▸ .nothing place, .stop⟩
    · obtain ⟨taken, leads, took⟩ := turn_takes place next turned
      obtain ⟨more, onwards, others⟩ := ih reached
      cases taken with
      | nil => simp [leads.rest] at shorter
      | cons symbol taken => exact ⟨_, leads.trans onwards, .turn took others⟩

/-- A match leads from its start to its end by taking what the pattern takes. -/
theorem takes_of_ends (pattern : Pattern Symbol) (place : Place Symbol) :
    ∀ later ∈ pattern.ends place, ∃ taken, place.Leads taken later ∧ pattern.Takes taken := by
  induction pattern generalizing place with
  | empty =>
    intro later reached
    exact ⟨[], List.mem_singleton.mp reached ▸ .nothing place, .empty⟩
  | symbol accepts =>
    intro later reached
    rw [ends] at reached
    split at reached
    · rename_i head tail starts
      split at reached
      · rename_i accepted
        have leads := List.mem_singleton.mp reached ▸ place.leads_advance 1
        rw [starts] at leads
        exact ⟨[head], leads, .symbol accepted⟩
      · exact absurd reached List.not_mem_nil
    · exact absurd reached List.not_mem_nil
  | seq first second first_ih second_ih =>
    intro later reached
    obtain ⟨middle, began, ended⟩ := List.mem_flatMap.mp reached
    obtain ⟨taken, leads, took⟩ := first_ih place middle began
    obtain ⟨more, onwards, others⟩ := second_ih middle later ended
    exact ⟨taken ++ more, leads.trans onwards, .seq took others⟩
  | alt first second first_ih second_ih =>
    intro later reached
    obtain reached | reached := List.mem_append.mp reached
    · obtain ⟨taken, leads, took⟩ := first_ih place later reached
      exact ⟨taken, leads, .left took⟩
    · obtain ⟨taken, leads, took⟩ := second_ih place later reached
      exact ⟨taken, leads, .right took⟩
  | many body ih =>
    intro later reached
    exact takes_of_repeated ih reached
  | group index body ih =>
    intro later reached
    obtain ⟨found, inside, rfl⟩ := List.mem_map.mp reached
    obtain ⟨taken, leads, took⟩ := ih place found inside
    exact ⟨taken, leads.regroup _, .group took⟩
  | again index same =>
    intro later reached
    simp only [ends] at reached
    split at reached
    · exact ⟨_, List.mem_singleton.mp reached ▸ place.leads_advance _, .again _⟩
    · exact absurd reached List.not_mem_nil
  | «unless» body =>
    intro later reached
    rw [ends] at reached
    split at reached
    · exact ⟨[], List.mem_singleton.mp reached ▸ .nothing place, .ahead⟩
    · exact absurd reached List.not_mem_nil
  | boundary isWord =>
    intro later reached
    rw [ends] at reached
    split at reached
    · exact ⟨[], List.mem_singleton.mp reached ▸ .nothing place, .boundary⟩
    · exact absurd reached List.not_mem_nil

theorem takes_seq {taken : List Symbol} :
    (seq first second).Takes taken ↔
      ∃ front back, taken = front ++ back ∧ first.Takes front ∧ second.Takes back := by
  constructor
  · intro took
    cases took with
    | seq began ended => exact ⟨_, _, rfl, began, ended⟩
  · rintro ⟨front, back, rfl, began, ended⟩
    exact .seq began ended

theorem map_of_takes_word [DecidableEq Symbol] {read : Symbol → Symbol} {letters taken : List Symbol}
    (took : (word read letters).Takes taken) : taken.map read = letters := by
  induction letters generalizing taken with
  | nil =>
    cases took
    rfl
  | cons letter letters ih =>
    obtain ⟨front, back, rfl, began, ended⟩ := takes_seq.mp took
    cases began with
    | symbol accepted => simp [of_decide_eq_true accepted, ih ended]

theorem accepts_of_takes_many {accepts : Symbol → Bool} {taken : List Symbol}
    (took : (many (.symbol accepts)).Takes taken) : ∀ symbol ∈ taken, accepts symbol = true := by
  generalize whole : many (.symbol accepts) = pattern at took
  induction took with
  | stop => exact fun _ member => absurd member List.not_mem_nil
  | turn took others _ ih =>
    obtain rfl := many.inj whole
    cases took with
    | symbol accepted =>
      intro symbol member
      obtain rfl | member := List.mem_cons.mp member
      · exact accepted
      · exact ih rfl symbol member
  | _ => cases whole

/-- No symbol of the pattern accepts this one. -/
def avoids (absent : Symbol) : Pattern Symbol → Bool
  | .empty | .unless _ | .boundary _ => true
  | .symbol accepts => !accepts absent
  | .seq first second | .alt first second => first.avoids absent && second.avoids absent
  | .many body | .group _ body => body.avoids absent
  | .again _ _ => false

theorem not_mem_of_avoids {absent : Symbol} {taken : List Symbol} (took : pattern.Takes taken)
    (avoids : pattern.avoids absent = true) : absent ∉ taken := by
  induction took with
  | empty | stop | ahead | boundary => exact List.not_mem_nil
  | symbol accepted =>
    rintro member
    rw [List.mem_singleton] at member
    subst member
    simp [Pattern.avoids, accepted] at avoids
  | seq began ended first_ih second_ih =>
    rw [Pattern.avoids, Bool.and_eq_true] at avoids
    exact List.mem_append.not.mpr (not_or.mpr ⟨first_ih avoids.1, second_ih avoids.2⟩)
  | left took ih =>
    rw [Pattern.avoids, Bool.and_eq_true] at avoids
    exact ih avoids.1
  | right took ih =>
    rw [Pattern.avoids, Bool.and_eq_true] at avoids
    exact ih avoids.2
  | turn took others turn_ih others_ih =>
    exact List.mem_append.not.mpr (not_or.mpr ⟨turn_ih avoids, others_ih avoids⟩)
  | group took ih => exact ih avoids
  | again => exact absurd avoids Bool.false_ne_true

/-- No look-ahead, no boundary and no reference to a group: what the pattern takes is all it looks
at. -/
def Plain : Pattern Symbol → Prop
  | .empty | .symbol _ => True
  | .seq first second | .alt first second => first.Plain ∧ second.Plain
  | .many body | .group _ body => body.Plain
  | .again _ _ | .unless _ | .boundary _ => False

def decidePlain : (pattern : Pattern Symbol) → Decidable pattern.Plain
  | .empty | .symbol _ => .isTrue trivial
  | .seq first second | .alt first second =>
    @instDecidableAnd _ _ first.decidePlain second.decidePlain
  | .many body | .group _ body => body.decidePlain
  | .again _ _ | .unless _ | .boundary _ => .isFalse not_false

instance : Decidable pattern.Plain := decidePlain pattern

private theorem repeated_of_takes {taken rest : List Symbol} (took : (many body).Takes taken)
    (turn_ends : ∀ place : Place Symbol, ∀ taken rest, body.Takes taken →
      place.rest = taken ++ rest → ∃ later ∈ body.ends place, later.rest = rest)
    (starts : place.rest = taken ++ rest) (enough : place.rest.length ≤ fuel) :
    ∃ later ∈ repeated body.ends fuel place, later.rest = rest := by
  generalize whole : many body = pattern at took
  induction took generalizing place fuel with
  | stop => exact ⟨place, self_mem_repeated, starts⟩
  | @turn body' symbol taken more took others _ ih =>
    obtain rfl := many.inj whole
    obtain ⟨next, turned, next_rest⟩ :=
      turn_ends place (symbol :: taken) (more ++ rest) took (by rw [starts, List.append_assoc])
    have shorter : next.rest.length < place.rest.length := by
      rw [next_rest, starts]
      simp only [List.length_append, List.length_cons]
      omega
    cases fuel with
    | zero => omega
    | succ fuel =>
      obtain ⟨later, reached, ended⟩ := @ih next fuel next_rest (by omega) rfl
      exact ⟨later, mem_repeated_succ.mpr (.inr ⟨next, turned, shorter, reached⟩), ended⟩
  | _ => cases whole

/-- A plain pattern takes a part of the text whatever comes behind it. -/
theorem ends_of_takes (plain : pattern.Plain) (place : Place Symbol) :
    ∀ taken rest, pattern.Takes taken → place.rest = taken ++ rest →
      ∃ later ∈ pattern.ends place, later.rest = rest := by
  induction pattern generalizing place with
  | empty =>
    intro taken rest took starts
    cases took
    exact ⟨place, List.mem_singleton_self _, starts⟩
  | symbol accepts =>
    intro taken rest took starts
    cases took with
    | @symbol _ symbol accepted =>
      refine ⟨place.advance 1, ?_, by rw [Place.advance, starts]; rfl⟩
      simp [ends, starts, accepted]
  | seq first second first_ih second_ih =>
    intro taken rest took starts
    cases took with
    | @seq _ _ taken more began ended =>
      obtain ⟨middle, reached, middle_rest⟩ :=
        first_ih plain.1 place taken (more ++ rest) began (by rw [starts, List.append_assoc])
      obtain ⟨later, onwards, ended⟩ := second_ih plain.2 middle more rest ended middle_rest
      exact ⟨later, List.mem_flatMap.mpr ⟨middle, reached, onwards⟩, ended⟩
  | alt first second first_ih second_ih =>
    intro taken rest took starts
    cases took with
    | left took =>
      obtain ⟨later, reached, ended⟩ := first_ih plain.1 place taken rest took starts
      exact ⟨later, List.mem_append_left _ reached, ended⟩
    | right took =>
      obtain ⟨later, reached, ended⟩ := second_ih plain.2 place taken rest took starts
      exact ⟨later, List.mem_append_right _ reached, ended⟩
  | many body ih =>
    intro taken rest took starts
    exact repeated_of_takes took (ih plain) starts (Nat.le_refl _)
  | group index body ih =>
    intro taken rest took starts
    cases took with
    | group took =>
      obtain ⟨later, reached, ended⟩ := ih plain place taken rest took starts
      exact ⟨_, List.mem_map_of_mem reached, ended⟩
  | again index same => exact plain.elim
  | «unless» body => exact plain.elim
  | boundary isWord => exact plain.elim

/-- The pattern matches at the start of the text. -/
def Hits (pattern : Pattern Symbol) (text : List Symbol) : Prop :=
  pattern.ends { before := none, rest := text } ≠ []

/-- Whether the pattern matches does not depend on what came before. -/
def Blind (pattern : Pattern Symbol) : Prop :=
  ∀ place : Place Symbol, pattern.ends place ≠ [] ↔ pattern.Hits place.rest

/-- The pattern matches somewhere in the text. -/
def Occurs (pattern : Pattern Symbol) (text : List Symbol) : Prop :=
  ∃ front back, text = front ++ back ∧ pattern.Hits back

theorem ends_ne_nil_iff (plain : pattern.Plain) :
    pattern.ends place ≠ [] ↔ ∃ taken rest, place.rest = taken ++ rest ∧ pattern.Takes taken := by
  constructor
  · intro matched
    obtain ⟨later, reached⟩ := List.exists_mem_of_ne_nil _ matched
    obtain ⟨taken, leads, took⟩ := takes_of_ends pattern place later reached
    exact ⟨taken, later.rest, leads.rest, took⟩
  · rintro ⟨taken, rest, starts, took⟩
    obtain ⟨later, reached, _⟩ := ends_of_takes plain place taken rest took starts
    exact List.ne_nil_of_mem reached

theorem hits_iff (plain : pattern.Plain) {text : List Symbol} :
    pattern.Hits text ↔ ∃ taken rest, text = taken ++ rest ∧ pattern.Takes taken :=
  ends_ne_nil_iff plain

theorem blind_of_plain (plain : pattern.Plain) : pattern.Blind :=
  fun _ => (ends_ne_nil_iff plain).trans (hits_iff plain).symm

/-- A plain pattern that must not be followed by another. -/
theorem ends_unless_ne_nil_iff {ahead : Pattern Symbol} (plain : body.Plain) (blind : ahead.Blind) :
    (seq body (.unless ahead)).ends place ≠ [] ↔
      ∃ taken rest, place.rest = taken ++ rest ∧ body.Takes taken ∧ ¬ ahead.Hits rest := by
  have unless_ends (middle : Place Symbol) :
      (ends (.unless ahead) middle) ≠ [] ↔ ¬ ahead.Hits middle.rest := by
    rw [← blind middle, ends]
    simp
  constructor
  · intro matched
    obtain ⟨later, reached⟩ := List.exists_mem_of_ne_nil _ matched
    obtain ⟨middle, began, ended⟩ := List.mem_flatMap.mp reached
    obtain ⟨taken, leads, took⟩ := takes_of_ends body place middle began
    exact ⟨taken, middle.rest, leads.rest, took, (unless_ends middle).mp (List.ne_nil_of_mem ended)⟩
  · rintro ⟨taken, rest, starts, took, free⟩
    obtain ⟨middle, began, middle_rest⟩ := ends_of_takes plain place taken rest took starts
    obtain ⟨later, ended⟩ :=
      List.exists_mem_of_ne_nil _ ((unless_ends middle).mpr (middle_rest ▸ free))
    exact List.ne_nil_of_mem (List.mem_flatMap.mpr ⟨middle, began, ended⟩)

theorem hits_unless_iff {ahead : Pattern Symbol} (plain : body.Plain) (blind : ahead.Blind)
    {text : List Symbol} :
    (seq body (.unless ahead)).Hits text ↔
      ∃ taken rest, text = taken ++ rest ∧ body.Takes taken ∧ ¬ ahead.Hits rest :=
  ends_unless_ne_nil_iff plain blind

theorem blind_unless {ahead : Pattern Symbol} (plain : body.Plain) (blind : ahead.Blind) :
    (seq body (.unless ahead)).Blind :=
  fun _ => (ends_unless_ne_nil_iff plain blind).trans (hits_unless_iff plain blind).symm

/-- What a match takes: of the ways to match, the first. -/
def matchAt? (pattern : Pattern Symbol) (before : Option Symbol) (text : List Symbol) :
    Option (List Symbol) :=
  let place : Place Symbol := { before, rest := text }
  (pattern.ends place).head?.map place.upTo

/-- `pattern.search`, as far as there is a match. -/
def search (pattern : Pattern Symbol) : Option Symbol → List Symbol → Bool
  | before, [] => (pattern.matchAt? before []).isSome
  | before, head :: rest =>
    (pattern.matchAt? before (head :: rest)).isSome || search pattern (some head) rest

/-- `pattern.sub` for a pattern that takes something. The symbols that are left of a match are
skipped. -/
def sub (pattern : Pattern Symbol) (new : List Symbol) :
    Nat → Option Symbol → List Symbol → List Symbol
  | _, _, [] => []
  | skip + 1, _, head :: rest => sub pattern new skip (some head) rest
  | 0, before, head :: rest =>
    match pattern.matchAt? before (head :: rest) with
    | some taken => new ++ sub pattern new (taken.length - 1) (some head) rest
    | none => head :: sub pattern new 0 (some head) rest

/-- A text with some of its parts replaced: the pieces that were taken, and the places where
nothing was. -/
inductive Replaced (kept took : List Symbol → Prop) (new : List Symbol) :
    List Symbol → List Symbol → Prop
  | done : Replaced kept took new [] []
  | keep {head : Symbol} {rest out : List Symbol} (left : kept (head :: rest))
    (others : Replaced kept took new rest out) : Replaced kept took new (head :: rest) (head :: out)
  | hit {taken rest out : List Symbol} (taking : took taken)
    (others : Replaced kept took new rest out) : Replaced kept took new (taken ++ rest) (new ++ out)

section Search

variable {before : Option Symbol} {text new : List Symbol}

theorem matchAt?_isSome (blind : pattern.Blind) :
    (pattern.matchAt? before text).isSome ↔ pattern.Hits text := by
  rw [← blind { before, rest := text }, matchAt?]
  simp [List.isSome_head?]

theorem occurs_cons {head : Symbol} :
    pattern.Occurs (head :: text) ↔ pattern.Hits (head :: text) ∨ pattern.Occurs text := by
  constructor
  · rintro ⟨front, back, whole, hits⟩
    cases front with
    | nil => exact .inl (whole ▸ hits)
    | cons first front =>
      obtain ⟨rfl, rest⟩ := List.cons.inj whole
      exact .inr ⟨front, back, rest, hits⟩
  · rintro (hits | ⟨front, back, rfl, hits⟩)
    · exact ⟨[], _, rfl, hits⟩
    · exact ⟨head :: front, back, rfl, hits⟩

/-- A match in two parts starts in the first or lies in the second. -/
theorem occurs_append {more : List Symbol} :
    pattern.Occurs (text ++ more) ↔
      (∃ front back, text = front ++ back ∧ back ≠ [] ∧ pattern.Hits (back ++ more)) ∨
        pattern.Occurs more := by
  constructor
  · rintro ⟨front, back, whole, hits⟩
    obtain ⟨gap, rfl, rfl⟩ | ⟨gap, rfl, rfl⟩ := List.append_eq_append_iff.mp whole
    · exact .inr ⟨gap, back, rfl, hits⟩
    · by_cases nothing : gap = []
      · subst nothing
        exact .inr ⟨[], more, rfl, hits⟩
      · exact .inl ⟨front, gap, rfl, nothing, hits⟩
  · rintro (⟨front, back, rfl, _, hits⟩ | ⟨front, back, rfl, hits⟩)
    · exact ⟨front, back ++ more, List.append_assoc .., hits⟩
    · exact ⟨text ++ front, back, (List.append_assoc ..).symm, hits⟩

theorem takes_of_hits (hits : pattern.Hits text) :
    ∃ taken rest, text = taken ++ rest ∧ pattern.Takes taken := by
  obtain ⟨later, reached⟩ := List.exists_mem_of_ne_nil _ hits
  obtain ⟨taken, leads, took⟩ := takes_of_ends pattern _ later reached
  exact ⟨taken, later.rest, leads.rest, took⟩

/-- A plain pattern looks no further than a symbol that it does not accept. -/
theorem taken_before {taken rest more : List Symbol} {barrier : Symbol} (took : pattern.Takes taken)
    (avoids : pattern.avoids barrier = true) (member : barrier ∈ text)
    (whole : text ++ more = taken ++ rest) : ∃ between, text = taken ++ between ∧ rest = between ++ more := by
  obtain ⟨gap, rfl, rfl⟩ | ⟨gap, rfl, rfl⟩ := List.append_eq_append_iff.mp whole
  · exact absurd (List.mem_append_left _ member) (not_mem_of_avoids took avoids)
  · exact ⟨gap, rfl, rfl⟩

theorem hits_append_iff {more : List Symbol} {barrier : Symbol} (plain : pattern.Plain)
    (avoids : pattern.avoids barrier = true) (member : barrier ∈ text) :
    pattern.Hits (text ++ more) ↔ pattern.Hits text := by
  rw [hits_iff plain, hits_iff plain]
  constructor
  · rintro ⟨taken, rest, whole, took⟩
    obtain ⟨between, split, _⟩ := taken_before took avoids member whole
    exact ⟨taken, between, split, took⟩
  · rintro ⟨taken, rest, rfl, took⟩
    exact ⟨taken, rest ++ more, List.append_assoc .., took⟩

theorem occurs_nil : pattern.Occurs [] ↔ pattern.Hits [] := by
  constructor
  · rintro ⟨front, back, whole, hits⟩
    obtain ⟨rfl, rfl⟩ := List.append_eq_nil_iff.mp whole.symm
    exact hits
  · intro hits
    exact ⟨[], [], rfl, hits⟩

theorem search_iff (blind : pattern.Blind) : pattern.search before text ↔ pattern.Occurs text := by
  induction text generalizing before with
  | nil => rw [search, matchAt?_isSome blind, occurs_nil]
  | cons head rest ih => rw [search, Bool.or_eq_true, matchAt?_isSome blind, ih, occurs_cons]

private theorem sub_skip {taken rest : List Symbol} :
    ∃ later, pattern.sub new taken.length before (taken ++ rest) = pattern.sub new 0 later rest := by
  induction taken generalizing before with
  | nil => exact ⟨before, rfl⟩
  | cons head taken ih => exact ih

theorem sub_replaced (blind : pattern.Blind) (takes_some : ¬ pattern.Takes []) :
    Replaced (fun text => ¬ pattern.Hits text) pattern.Takes new text
      (pattern.sub new 0 before text) := by
  induction length : text.length using Nat.strongRecOn generalizing before text with
  | ind size ih =>
    subst length
    cases text with
    | nil => exact .done
    | cons head rest =>
      rw [sub]
      split
      · rename_i taken found
        rw [matchAt?, Option.map_eq_some_iff] at found
        obtain ⟨later, first, rfl⟩ := found
        obtain ⟨taken, leads, took⟩ := takes_of_ends pattern _ later (List.mem_of_mem_head? first)
        rw [leads.upTo]
        cases taken with
        | nil => exact absurd took takes_some
        | cons symbol taken =>
          obtain ⟨same, tail⟩ := List.cons.inj leads.rest
          have tail : rest = taken ++ later.rest := tail
          subst same tail
          obtain ⟨next, skipped⟩ := @sub_skip _ pattern (some head) new taken later.rest
          rw [List.length_cons, Nat.add_sub_cancel, skipped]
          refine .hit took (ih later.rest.length ?_ rfl)
          simp only [List.length_cons, List.length_append]
          omega
      · rename_i missed
        have left : ¬ pattern.Hits (head :: rest) := by
          rw [← @matchAt?_isSome _ _ before _ blind, missed]
          exact Bool.false_ne_true
        exact .keep left (ih rest.length (Nat.lt_succ_self _) rfl)

end Search

namespace Replaced

variable {kept took : List Symbol → Prop} {new text out : List Symbol}

/-- Where a pattern does not occur, it does not match at the places that are kept. -/
theorem keeping (replaced : Replaced kept took new text out) (free : ¬ pattern.Occurs text) :
    Replaced (fun text => ¬ pattern.Hits text) took new text out := by
  induction replaced with
  | done => exact .done
  | keep left others ih =>
    rw [occurs_cons, not_or] at free
    exact .keep free.1 (ih free.2)
  | @hit taken rest out taking others ih =>
    refine .hit taking (ih fun occurs => free ?_)
    obtain ⟨front, back, rfl, hits⟩ := occurs
    exact ⟨taken ++ front, back, (List.append_assoc ..).symm, hits⟩

/-- A part of the result in which no new text begins was a part of the text. -/
theorem from_result {opening : Symbol} (opens : new.head? = some opening) {part behind : List Symbol}
    (replaced : Replaced kept took new text (part ++ behind)) (absent : opening ∉ part) :
    ∃ rest, text = part ++ rest ∧ Replaced kept took new rest behind := by
  induction part generalizing text with
  | nil => exact ⟨text, rfl, replaced⟩
  | cons head part ih =>
    rw [List.mem_cons, not_or] at absent
    generalize whole : head :: part ++ behind = out at replaced
    cases replaced with
    | done => simp at whole
    | keep left others =>
      obtain ⟨rfl, tail⟩ := List.cons.inj whole
      obtain ⟨behind', rfl, continued⟩ := ih (tail ▸ others) absent.2
      exact ⟨behind', rfl, continued⟩
    | hit taking others =>
      cases new with
      | nil => simp at opens
      | cons first new => exact absurd ((List.cons.inj whole).1.trans (Option.some.inj opens)).symm absent.1

/-- A part of the text in which no piece begins that is taken stays in the result. -/
theorem to_result {part behind : List Symbol}
    (replaced : Replaced kept took new (part ++ behind) out)
    (whole : ∀ front back, part = front ++ back → back ≠ [] → ∀ taken rest, took taken →
      back ++ behind ≠ taken ++ rest) :
    ∃ rest, out = part ++ rest := by
  induction part generalizing out with
  | nil => exact ⟨out, rfl⟩
  | cons head part ih =>
    generalize starts : head :: part ++ behind = text at replaced
    cases replaced with
    | done => simp at starts
    | keep left others =>
      obtain ⟨rfl, tail⟩ := List.cons.inj starts
      obtain ⟨rest, rfl⟩ := ih (tail ▸ others) fun front back split =>
        whole (head :: front) back (congrArg (head :: ·) split)
      exact ⟨rest, rfl⟩
    | hit taking others => exact absurd starts (whole [] _ rfl (List.cons_ne_nil _ _) _ _ taking)

/-- A pattern does not occur in the result if it occurs neither across the new text nor where the
text was kept. -/
theorem not_occurs (replaced : Replaced kept took new text out) (nothing : ¬ pattern.Hits [])
    (inside : ∀ front back, new = front ++ back → back ≠ [] → ∀ out, ¬ pattern.Hits (back ++ out))
    (still : ∀ head rest out, kept (head :: rest) → Replaced kept took new rest out →
      ¬ pattern.Hits (head :: out)) :
    ¬ pattern.Occurs out := by
  induction replaced with
  | done => rwa [occurs_nil]
  | keep left others ih =>
    rw [occurs_cons, not_or]
    exact ⟨still _ _ _ left others, ih⟩
  | @hit taken rest out taking others ih =>
    rintro ⟨front, back, whole, hits⟩
    obtain ⟨gap, rfl, rfl⟩ | ⟨gap, rfl, rfl⟩ := List.append_eq_append_iff.mp whole
    · exact ih ⟨gap, back, rfl, hits⟩
    · cases gap with
      | nil => exact ih ⟨[], out, rfl, hits⟩
      | cons first gap => exact inside front _ rfl (List.cons_ne_nil _ _) out hits

/-- What a pattern takes of the result was in the text, if it does not take what the new text opens
with. -/
theorem hits_of_result {opening head : Symbol} {rest behind taken : List Symbol}
    (replaced : Replaced kept took new rest out) (takes_some : ¬ pattern.Takes [])
    (opens : new.head? = some opening) (avoids : pattern.avoids opening = true)
    (result : head :: out = taken ++ behind)
    (taking : pattern.Takes taken) :
    ∃ left, head :: rest = taken ++ left ∧ Replaced kept took new left behind := by
  cases taken with
  | nil => exact absurd taking takes_some
  | cons symbol part =>
    obtain ⟨rfl, tail⟩ := List.cons.inj result
    have absent := not_mem_of_avoids taking avoids
    rw [List.mem_cons, not_or] at absent
    obtain ⟨left, rfl, continued⟩ := from_result opens (tail ▸ replaced) absent.2
    exact ⟨left, rfl, continued⟩

end Replaced

end Pattern
end BrainMate.Text
