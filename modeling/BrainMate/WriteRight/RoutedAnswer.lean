import BrainMate.WriteRight.ModelRouting

namespace BrainMate.WriteRight.ModelRouter

open Text ModelResponse

open TokenStream (callsOf streamCalls)

def membersOf : Json → List (List Nat × Json)
  | .obj members => members
  | _ => []

def headOf : Json → Json
  | .arr (first :: _) => first
  | _ => .null

def textOf : Json → Option PyStr
  | .str [] => none
  | .str points => some points
  | _ => none

/-- The text of `choices[0].delta.content`. -/
def deltaContent (item : Json) : Option PyStr :=
  let choice := headOf (get (membersOf item) "choices" .null)
  textOf (get (membersOf (get (membersOf choice) "delta" .null)) "content" .null)

def lineDelta (line : PyStr) : Option PyStr :=
  (payloadLine line).bind fun payload => (loads payload).bind deltaContent

def said (lines : List PyStr) : List PyStr := lines.filterMap lineDelta

section Lines

variable {σ ε α β : Type} {runtime : Runtime} {received next : Received} {line : PyStr}
variable {chunk : Option Json} {error : RouterError ε}

theorem bind_eq_ok {first : Except ε α} {rest : α → Except ε β} {value : β}
    (ended : first >>= rest = .ok value) : ∃ between, first = .ok between ∧ rest between = .ok value := by
  cases first with
  | error error => cases ended
  | ok between => exact ⟨between, rfl, ended⟩

theorem of_mapError {first : Except Raised α} {value : α}
    (ended : first.mapError RouterError.raised = (.ok value : Except (RouterError ε) α)) :
    first = .ok value := by
  cases first with
  | error raised => cases ended
  | ok between =>
    cases ended
    rfl

private theorem of_dict {value : Json} {members : List (List Nat × Json)}
    (read : dict value = .ok members) :
    value = .obj members := by
  cases value with
  | obj other =>
    cases read
    rfl
  | null | bool | int | float | str | arr => cases read

private theorem of_dictOrEmpty {value : Json} {members : List (List Nat × Json)}
    (read : dictOrEmpty runtime value = .ok members) : membersOf value = members := by
  unfold dictOrEmpty at read
  split at read
  · rw [of_dict read]
    rfl
  · rename_i falsy
    cases read
    cases value with
    | obj members =>
      cases members with
      | nil => rfl
      | cons member members => exact absurd rfl falsy
    | null | bool | int | float | str | arr => rfl

/-- What a line brings is what it says. -/
def Brings (delta : Option PyStr) : Option Json → Prop
  | none => delta = none
  | some (.str points) => delta = some points ∧ points ≠ []
  | some _ => True

private theorem brings_textOf (value : Json) :
    Brings (textOf value) (if truthy runtime.python value then some value else none) := by
  split
  · rename_i true_
    cases value with
    | str points =>
      cases points with
      | nil => cases true_
      | cons point points => exact ⟨rfl, List.cons_ne_nil _ _⟩
    | null | bool | int | float | arr | obj => trivial
  · rename_i falsy
    cases value with
    | str points =>
      cases points with
      | nil => rfl
      | cons point points => exact absurd rfl falsy
    | null | bool | int | float | arr | obj => rfl

private theorem headOf_falsy {value : Json} (falsy : ¬ truthy runtime.python value = true) :
    headOf value = .null := by
  cases value with
  | arr items =>
    cases items with
    | nil => rfl
    | cons item items => exact absurd rfl falsy
  | null | bool | int | float | str | obj => rfl

/-- A choice with members is the first item of a list. -/
theorem headOf_firstChoice {choices : Json} {choice : List (List Nat × Json)}
    (read : firstChoice choices = (.ok (.obj choice) : Except (RouterError ε) Json)) :
    headOf choices = .obj choice := by
  cases choices with
  | arr items =>
    cases items with
    | nil => cases read
    | cons item items =>
      cases read
      rfl
  | str points =>
    cases points with
    | nil => cases read
    | cons point points => cases read
  | null | bool | int | float | obj => cases read

private theorem readChoice_brings {choice : List (List Nat × Json)}
    (read : readChoice runtime received choice = .ok (next, chunk)) :
    next.contentChunks = received.contentChunks ∧
      Brings (textOf (get (membersOf (get choice "delta" .null)) "content" .null)) chunk := by
  obtain ⟨delta, given, ended⟩ := bind_eq_ok read
  cases ended
  rw [of_dictOrEmpty given]
  exact ⟨rfl, brings_textOf _⟩

private theorem contentChunks_readUsage {item : List (List Nat × Json)}
    (read : readUsage runtime received item = .ok next) :
    next.contentChunks = received.contentChunks := by
  obtain ⟨usage, -, read⟩ := bind_eq_ok read
  obtain ⟨promptTokens, -, read⟩ := bind_eq_ok read
  obtain ⟨completionTokens, -, ended⟩ := bind_eq_ok read
  cases ended
  rfl

private theorem onItem_brings {item : Json}
    (read : onItem runtime received item = (.ok (next, chunk) : Except (RouterError ε) _)) :
    next.contentChunks = received.contentChunks ∧ Brings (deltaContent item) chunk := by
  obtain ⟨members, given, read⟩ := bind_eq_ok read
  obtain ⟨counted, usage, read⟩ := bind_eq_ok read
  have chunks := contentChunks_readUsage (of_mapError usage)
  rw [of_dict (of_mapError given)]
  dsimp only at read
  split at read
  · obtain ⟨first, chosen, read⟩ := bind_eq_ok read
    obtain ⟨choice, given, read⟩ := bind_eq_ok read
    rw [of_dict (of_mapError given)] at chosen
    obtain ⟨same, brings⟩ := readChoice_brings (of_mapError read)
    rw [deltaContent, membersOf, headOf_firstChoice chosen]
    exact ⟨same.trans chunks, brings⟩
  · rename_i falsy
    cases read
    rw [deltaContent, membersOf, headOf_falsy falsy]
    exact ⟨chunks, rfl⟩

private theorem of_readItem {payload : PyStr} {item : Option Json}
    (read : readItem runtime payload = .ok item) : loads payload = item := by
  unfold readItem at read
  split at read
  · cases read
  · split at read
    · rename_i none_
      cases read
      exact none_
    · rename_i value some_
      split at read
      · cases read
      · cases read
        exact some_

private theorem readLine_brings
    (read : readLine runtime received line = (.ok (next, chunk) : Except (RouterError ε) _)) :
    next.contentChunks = received.contentChunks ∧ Brings (lineDelta line) chunk := by
  unfold readLine at read
  rw [lineDelta]
  split at read
  · rename_i none_
    cases read
    rw [none_]
    exact ⟨rfl, rfl⟩
  · rename_i payload some_
    rw [some_, Option.bind_some]
    split at read
    · cases read
    · rename_i unread
      cases read
      rw [of_readItem unread]
      exact ⟨rfl, rfl⟩
    · rename_i item given
      rw [of_readItem given]
      exact onItem_brings read

/-- What was raised by the callback. -/
def callbackOutcome : Except (RouterError ε) α → Except ε Unit
  | .error (.callback error) => .error error
  | .error _ | .ok _ => .ok ()

private theorem callbackOutcome_mapError (first : Except Raised α) :
    callbackOutcome (first.mapError RouterError.raised : Except (RouterError ε) α) = .ok () := by
  cases first <;> rfl

private theorem callbackOutcome_error (error : RouterError ε) :
    callbackOutcome (.error error : Except (RouterError ε) α) =
      callbackOutcome (.error error : Except (RouterError ε) β) := by
  cases error <;> rfl

/-- The router raises it itself, at a line of an answer. -/
def ownError : RouterError ε → Bool
  | .raised _ | .keyError => true
  | .modelTimeout _ | .modelRateLimit _ | .modelError _ | .callback _ => false

/-- What is raised is the router's own. -/
def RaisesOwn (ended : Except (RouterError ε) α) : Prop :=
  ∀ error, ended = .error error → ownError error = true

theorem raisesOwn_mapError (first : Except Raised α) :
    RaisesOwn (first.mapError RouterError.raised : Except (RouterError ε) α) := by
  intro error raised
  cases first with
  | ok value => cases raised
  | error own =>
    cases raised
    rfl

theorem RaisesOwn.bind {first : Except (RouterError ε) α} {rest : α → Except (RouterError ε) β}
    (own : RaisesOwn first) (later : ∀ value, RaisesOwn (rest value)) : RaisesOwn (first >>= rest) := by
  cases first with
  | ok value => exact later value
  | error error =>
    rintro _ ⟨rfl⟩
    exact own error rfl

private theorem raisesOwn_firstChoice (choices : Json) :
    RaisesOwn (firstChoice choices : Except (RouterError ε) Json) := by
  unfold firstChoice
  split
  · rintro _ ⟨⟩
  · rintro _ ⟨⟩
  · rintro _ ⟨rfl⟩
    rfl
  · rintro _ ⟨rfl⟩
    rfl

private theorem raisesOwn_readLine (runtime : Runtime) (received : Received) (line : PyStr) :
    RaisesOwn (readLine runtime received line : Except (RouterError ε) _) := by
  unfold readLine
  split
  · rintro _ ⟨⟩
  · split
    · rintro _ ⟨rfl⟩
      rfl
    · rintro _ ⟨⟩
    · refine (raisesOwn_mapError _).bind fun members => (raisesOwn_mapError _).bind fun counted => ?_
      dsimp only
      split
      · exact (raisesOwn_firstChoice _).bind fun choice =>
          (raisesOwn_mapError _).bind fun members => raisesOwn_mapError _
      · rintro _ ⟨⟩

/-- The router raises the error at the line. -/
def RaisedAt (runtime : Runtime) (line : PyStr) (error : RouterError ε) : Prop :=
  ∃ received, readLine runtime received line = .error error ∨
    ∃ next chunk, readLine runtime received line = (.ok (next, some chunk) : Except (RouterError ε) _) ∧
      (∀ points, chunk ≠ .str points) ∧ error = .raised .typeError

theorem RaisedAt.own (raised : RaisedAt runtime line error) : ownError error = true := by
  obtain ⟨received, unread | ⟨_, _, _, _, rfl⟩⟩ := raised
  · exact raisesOwn_readLine runtime received line error unread
  · rfl

private theorem callbackOutcome_own (own : ownError error = true) :
    callbackOutcome (.error error : Except (RouterError ε) α) = .ok () := by
  cases error <;> first | rfl | cases own

private theorem fallsBack_own (own : ownError error = true) : fallsBack error = false := by
  cases error <;> first | rfl | cases own

/-- One call after the other, until the callback raises. -/
def feed (onToken : Callback σ ε) : List (PyStr × PyStr) → σ → Except ε Unit × σ
  | [], state => (.ok (), state)
  | (chunk, fullText) :: calls, state =>
    match onToken chunk fullText state with
    | (.ok (), state) => feed onToken calls state
    | (.error error, state) => (.error error, state)

variable {onToken : Callback σ ε} {state last : σ}

private theorem feed_append {calls : List (PyStr × PyStr)}
    (heard : feed onToken calls state = (.ok (), last))
    (more : List (PyStr × PyStr)) : feed onToken (calls ++ more) state = feed onToken more last := by
  induction calls generalizing state with
  | nil =>
    cases heard
    rfl
  | cons call calls ih =>
    obtain ⟨chunk, fullText⟩ := call
    rw [feed] at heard
    rw [List.cons_append, feed]
    generalize onToken chunk fullText state = told at heard ⊢
    obtain ⟨error | done, next⟩ := told
    · cases heard
    · exact ih heard

private theorem joined_strings (texts : List PyStr) :
    joined (texts.map Json.str) = some texts.flatten := by
  induction texts with
  | nil => rfl
  | cons text texts ih =>
    rw [List.map_cons, joined, ih]
    rfl

/-- The callback hears a piece, together with all that came before it. -/
theorem hear_str (onToken : Callback σ ε) (texts : List PyStr) (points : PyStr) (state : σ) :
    hear (some onToken) (.str points) ((texts ++ [points]).map Json.str) state =
      ((onToken points (texts.flatten ++ points) state).1.mapError .callback,
        (onToken points (texts.flatten ++ points) state).2) := by
  simp only [hear, joined_strings, List.flatten_append, List.flatten_singleton]

private theorem callsOf_cons {received points : PyStr} {pieces : List PyStr} (some_ : points ≠ []) :
    callsOf received (points :: pieces) =
      (points, received ++ points) :: callsOf (received ++ points) pieces :=
  if_neg (by simpa using some_)

/-- What is heard of the lines where the router raises at one of them: what those before it say. -/
def StoppedIn (runtime : Runtime) (lines pieces : List PyStr) (error : RouterError ε) : Prop :=
  ∃ earlier line later, lines = earlier ++ line :: later ∧ pieces = said earlier ∧
    RaisedAt runtime line error

theorem StoppedIn.cons {lines pieces before : List PyStr} (line : PyStr)
    (stopped : StoppedIn runtime lines pieces error)
    (told : ∀ earlier, said (line :: earlier) = before ++ said earlier) :
    StoppedIn runtime (line :: lines) (before ++ pieces) error := by
  obtain ⟨earlier, at_, later, rfl, rfl, raised⟩ := stopped
  exact ⟨line :: earlier, at_, later, rfl, (told earlier).symm, raised⟩

/-- All that the lines say, up to where the router raises. -/
def Tells (runtime : Runtime) (lines pieces : List PyStr) (ended : Except (RouterError ε) α) : Prop :=
  pieces = said lines ∨ ∃ error, ended = .error error ∧ StoppedIn runtime lines pieces error

theorem Tells.cons {lines pieces before : List PyStr} {ended : Except (RouterError ε) α}
    (line : PyStr) (tells : Tells runtime lines pieces ended)
    (told : ∀ earlier, said (line :: earlier) = before ++ said earlier) :
    Tells runtime (line :: lines) (before ++ pieces) ended := by
  obtain rfl | ⟨error, raised, stopped⟩ := tells
  · exact .inl (told lines).symm
  · exact .inr ⟨error, raised, stopped.cons line told⟩

private theorem onLines_hears (onToken : Callback σ ε) (lines : List PyStr) (received : Received)
    (texts : List PyStr) (state : σ) (kept : received.contentChunks = texts.map Json.str) :
    ∃ pieces, Tells runtime lines pieces (onLines runtime (some onToken) lines received state).1 ∧
      feed onToken (callsOf texts.flatten pieces) state =
        (callbackOutcome (onLines runtime (some onToken) lines received state).1,
          (onLines runtime (some onToken) lines received state).2) ∧
      ∀ last, (onLines runtime (some onToken) lines received state).1 = .ok last →
        last.contentChunks = (texts ++ pieces).map Json.str := by
  induction lines generalizing received texts state with
  | nil =>
    refine ⟨[], .inl rfl, rfl, ?_⟩
    rintro last ⟨rfl⟩
    rw [List.append_nil, kept]
  | cons line lines ih =>
    rw [onLines]
    cases read : (readLine runtime received line : Except (RouterError ε) _) with
    | error error =>
      have raised : RaisedAt runtime line error := ⟨received, .inl read⟩
      refine ⟨[], .inr ⟨error, rfl, [], line, lines, rfl, rfl, raised⟩, ?_,
        fun last same => by cases same⟩
      dsimp only
      rw [callbackOutcome_own raised.own]
      rfl
    | ok found =>
      obtain ⟨next, chunk⟩ := found
      obtain ⟨same, brings⟩ := readLine_brings read
      have kept := same.trans kept
      cases chunk with
      | none =>
        obtain ⟨pieces, tells, heard, whole⟩ := ih next texts state kept
        have quiet (earlier : List PyStr) : said (line :: earlier) = [] ++ said earlier :=
          List.filterMap_cons_none brings
        exact ⟨pieces, tells.cons line quiet, heard, whole⟩
      | some chunk =>
        cases chunk with
        | str points =>
          obtain ⟨brought, some_⟩ := brings
          have told (earlier : List PyStr) : said (line :: earlier) = [points] ++ said earlier :=
            List.filterMap_cons_some brought
          have chunks : next.contentChunks ++ [.str points] = (texts ++ [points]).map Json.str := by
            rw [kept, List.map_append, List.map_singleton]
          have now : (texts ++ [points]).flatten = texts.flatten ++ points := by
            rw [List.flatten_append, List.flatten_singleton]
          dsimp only
          rw [chunks, hear_str]
          cases called : onToken points (texts.flatten ++ points) state with
          | mk outcome after =>
            cases outcome with
            | error raised =>
              refine ⟨said (line :: lines), .inl rfl, ?_, fun last same => by cases same⟩
              rw [told, List.singleton_append, callsOf_cons some_, feed, called]
              rfl
            | ok done =>
              obtain ⟨pieces, tells, heard, whole⟩ := ih
                { next with contentChunks := (texts ++ [points]).map Json.str } (texts ++ [points])
                after rfl
              rw [now] at heard
              refine ⟨[points] ++ pieces, tells.cons line told, ?_, ?_⟩
              · rw [List.singleton_append, callsOf_cons some_, feed, called]
                exact heard
              · intro last ended
                rw [whole last ended, List.append_assoc]
        | null | bool | int | float | arr | obj =>
          refine ⟨[], .inr ⟨.raised .typeError, rfl, [], line, lines, rfl, rfl, received, .inr ?_⟩, rfl,
            fun last same => by cases same⟩
          exact ⟨next, _, read, by simp, rfl⟩

end Lines

def saidBy : StreamAttempt → List PyStr
  | .ok response => if response.statusCode = 200 then said response.lines else []
  | .error _ => []

/-- The request is sent again. -/
def Transient : StreamAttempt → Prop
  | .ok response =>
    if response.statusCode = 429 then True
    else if response.statusCode = 200 then response.broken.isSome = true
    else response.body.isOk = false
  | .error _ => True

/-- All the lines have come. -/
def Complete : StreamAttempt → Prop
  | .ok response => response.statusCode = 200 ∧ response.broken = none
  | .error _ => False

/-- What the first so many answers say. -/
def saidFirst (answers : Nat → StreamAttempt) (count : Nat) : List (List PyStr) :=
  (List.range count).map fun index => saidBy (answers index)

/-- What is heard of an answer: all that it says, up to where the router raises. -/
def Heard {ε α : Type} (runtime : Runtime) (answer : StreamAttempt) (pieces : List PyStr)
    (ended : Except (RouterError ε) α) : Prop :=
  pieces = saidBy answer ∨
    ∃ response error, answer = .ok response ∧ response.statusCode = 200 ∧ ended = .error error ∧
      StoppedIn runtime response.lines pieces error

/-- The response is what the answer says. -/
structure Taken (answer : StreamAttempt) (response : Response) : Prop where
  complete : Complete answer
  content : response.content = (saidBy answer).flatten
  some_ : response.content ≠ []

section Attempts

variable {σ ε : Type} {runtime : Runtime} {settings : Settings} {request : Request}
variable {onToken : Callback σ ε} {state : σ} {answers : Nat → StreamAttempt}

private theorem saidFirst_succ (answers : Nat → StreamAttempt) (count : Nat) :
    saidFirst answers (count + 1) =
      saidBy (answers 0) :: saidFirst (fun index => answers (index + 1)) count := by
  rw [saidFirst, List.range_succ_eq_map, List.map_cons, List.map_map]
  rfl

private theorem saidFirst_concat (answers : Nat → StreamAttempt) (count : Nat) :
    saidFirst answers (count + 1) = saidFirst answers count ++ [saidBy (answers count)] := by
  rw [saidFirst, List.range_succ, List.map_append]
  rfl

private theorem content_of_built {content : PyStr} {model reason : Json} {prompt completion : Int}
    {response : Response}
    (built : response? runtime (.str content) model prompt completion reason = some response) :
    response.content = content := by
  obtain ⟨kept, read, built⟩ := Option.bind_eq_some_iff.mp built
  obtain ⟨name, -, built⟩ := Option.bind_eq_some_iff.mp built
  obtain ⟨finish, -, built⟩ := Option.bind_eq_some_iff.mp built
  cases built
  simp only [ModelResponse.str?] at read
  split at read
  · exact (Option.some.inj read).symm
  · cases read

private theorem of_finish {received : Received} {texts : List PyStr} {response : Response}
    (kept : received.contentChunks = texts.map Json.str)
    (ended : finish runtime received = (.ok response : Except (RouterError ε) Response)) :
    response.content = texts.flatten ∧ response.content ≠ [] := by
  rw [finish, kept, joined_strings] at ended
  dsimp only at ended
  split at ended
  · cases ended
  · rename_i some_
    split at ended
    · cases ended
    · rename_i built
      cases ended
      have same := content_of_built built
      exact ⟨same, by simpa [same] using some_⟩

/-- How an attempt may go on. -/
def Fits (answer : StreamAttempt) : Except (RouterError ε) Progress → Prop
  | .ok (.returned response) => Taken answer response
  | .ok (.limited _) | .ok (.broken _) => Transient answer
  | .error _ => True

structure Attempted (runtime : Runtime) (onToken : Callback σ ε) (answer : StreamAttempt) (state : σ)
    (out : Except (RouterError ε) Progress × σ) (pieces : List PyStr) : Prop where
  tells : Heard runtime answer pieces out.1
  heard : feed onToken (callsOf [] pieces) state = (callbackOutcome out.1, out.2)
  fits : Fits answer out.1

/-- Unless something is raised, all is heard. -/
theorem Heard.whole {α : Type} {answer : StreamAttempt} {pieces : List PyStr} {value : α}
    (tells : Heard runtime answer pieces (.ok value : Except (RouterError ε) α)) :
    pieces = saidBy answer := by
  obtain same | ⟨_, _, _, _, raised, _⟩ := tells
  · exact same
  · cases raised

private theorem callbackOutcome_finish (received : Received) :
    callbackOutcome (finish runtime received : Except (RouterError ε) Response) = .ok () := by
  unfold finish
  split
  · rfl
  · split
    · rfl
    · split <;> rfl

private theorem callbackOutcome_map {α β : Type} (ended : Except (RouterError ε) α)
    (change : α → β) :
    callbackOutcome (ended.map change) = callbackOutcome ended := by
  cases ended with
  | ok value => rfl
  | error error => cases error <;> rfl

private theorem transient_of_status {response : StreamResponse}
    (limited : response.statusCode ≠ 429) :
    Transient (.ok response) ↔
      if response.statusCode = 200 then response.broken.isSome = true
      else response.body.isOk = false := by
  rw [Transient, if_neg limited]

private theorem streamOnce_unserved (onToken : Callback σ ε) (attempt : Nat)
    {response : StreamResponse} (unserved : response.statusCode ≠ 200) (state : σ) :
    Attempted runtime onToken (.ok response) state
      (streamOnce runtime (some onToken) request attempt (.ok response) state) [] := by
  have silent : saidBy (.ok response) = [] := if_neg unserved
  unfold streamOnce
  dsimp only
  by_cases limited : response.statusCode = 429
  · rw [if_pos limited]
    split
    · refine ⟨.inl silent.symm, rfl, ?_⟩
      change Transient (.ok response)
      rw [Transient, if_pos limited]
      trivial
    · exact ⟨.inl silent.symm, rfl, trivial⟩
  · rw [if_neg limited, if_pos unserved]
    cases body : response.body with
    | error error =>
      refine ⟨.inl silent.symm, rfl, (transient_of_status limited).mpr ?_⟩
      rw [if_neg unserved, body]
      rfl
    | ok text => exact ⟨.inl silent.symm, rfl, trivial⟩

private theorem streamOnce_served (onToken : Callback σ ε) (attempt : Nat)
    {response : StreamResponse} (served : response.statusCode = 200) (state : σ) :
    ∃ pieces, Attempted runtime onToken (.ok response) state
      (streamOnce runtime (some onToken) request attempt (.ok response) state) pieces := by
  have unlimited : response.statusCode ≠ 429 := by rw [served]; decide
  have spoken : saidBy (.ok response) = said response.lines := if_pos served
  obtain ⟨pieces, tells, heard, kept⟩ := @onLines_hears _ _ runtime onToken response.lines
    { finalModel := .str request.model } [] state rfl
  unfold streamOnce
  dsimp only
  rw [if_neg unlimited, if_neg (not_not.mpr served)]
  generalize onLines runtime (some onToken) response.lines { finalModel := .str request.model }
    state = out at tells heard kept ⊢
  obtain ⟨error | received, after⟩ := out
  · refine ⟨pieces, ?_, heard.trans (congrArg (·, after) (callbackOutcome_error error)), trivial⟩
    obtain same | ⟨_, raised, stopped⟩ := tells
    · exact .inl (same.trans spoken.symm)
    · cases raised
      exact .inr ⟨response, error, rfl, served, rfl, stopped⟩
  · have whole : pieces = said response.lines := by
      obtain same | ⟨_, raised, _⟩ := tells
      · exact same
      · cases raised
    subst whole
    dsimp only
    cases broken : response.broken with
    | some error =>
      refine ⟨said response.lines, .inl spoken.symm, heard, ?_⟩
      refine (transient_of_status unlimited).mpr ?_
      rw [if_pos served, broken]
      rfl
    | none =>
      refine ⟨said response.lines, .inl spoken.symm, ?_, ?_⟩
      · rw [callbackOutcome_map, callbackOutcome_finish]
        exact heard
      · cases ended : (finish runtime received : Except (RouterError ε) Response) with
        | error error => trivial
        | ok built =>
          obtain ⟨content, some_⟩ := of_finish (kept received rfl) ended
          exact ⟨⟨served, broken⟩, content.trans (by rw [spoken]; rfl), some_⟩

private theorem streamOnce_attempted (onToken : Callback σ ε) (attempt : Nat)
    (answer : StreamAttempt) (state : σ) :
    ∃ pieces, Attempted runtime onToken answer state
      (streamOnce runtime (some onToken) request attempt answer state) pieces := by
  cases answer with
  | error error => exact ⟨[], .inl rfl, rfl, trivial⟩
  | ok response =>
    by_cases served : response.statusCode = 200
    · exact streamOnce_served onToken attempt served state
    · exact ⟨[], streamOnce_unserved onToken attempt served state⟩

/-- How the attempts of a call are heard: the answers of all but the last, which were transient, and
the last. -/
structure Routed (runtime : Runtime) (onToken : Callback σ ε) (answers : Nat → StreamAttempt)
    (state : σ) (out : Except (RouterError ε) Response × σ) (count : Nat) (pieces : List PyStr) :
    Prop where
  transient : ∀ index, index < count → Transient (answers index)
  tells : Heard runtime (answers count) pieces out.1
  heard : feed onToken (streamCalls (saidFirst answers count ++ [pieces])) state =
    (callbackOutcome out.1, out.2)
  taken : ∀ response, out.1 = .ok response → Taken (answers count) response

private theorem streamCalls_cons (pieces : List PyStr) (attempts : List (List PyStr)) :
    streamCalls (pieces :: attempts) = callsOf [] pieces ++ streamCalls attempts := rfl

private theorem streamCalls_concat (attempts : List (List PyStr)) (pieces : List PyStr) :
    streamCalls (attempts ++ [pieces]) = streamCalls attempts ++ callsOf [] pieces := by
  rw [streamCalls, List.flatMap_append, List.flatMap_singleton]
  rfl

section Routed

variable {out : Except (RouterError ε) Response × σ} {pieces : List PyStr} {after : σ} {count : Nat}

theorem Routed.single (tells : Heard runtime (answers 0) pieces out.1)
    (heard : feed onToken (callsOf [] pieces) state = (callbackOutcome out.1, out.2))
    (taken : ∀ response, out.1 = .ok response → Taken (answers 0) response) :
    Routed runtime onToken answers state out 0 pieces :=
  ⟨fun _ none_ => absurd none_ (Nat.not_lt_zero _), tells,
    by rw [streamCalls_concat]; exact heard, taken⟩

theorem Routed.failed {error : RouterError ε}
    (attempted : Attempted runtime onToken (answers 0) state (.error error, after) pieces) :
    Routed runtime onToken answers state (.error error, after) 0 pieces := by
  obtain ⟨tells, heard, _⟩ := attempted
  refine .single ?_ (heard.trans (congrArg (·, after) (callbackOutcome_error error)))
    fun response same => by cases same
  obtain same | ⟨response, _, given, fine, raised, stopped⟩ := tells
  · exact .inl same
  · cases raised
    exact .inr ⟨response, error, given, fine, rfl, stopped⟩

theorem Routed.returned {response : Response}
    (attempted : Attempted runtime onToken (answers 0) state (.ok (.returned response), after)
      pieces) :
    Routed runtime onToken answers state (.ok response, after) 0 pieces := by
  refine .single (.inl attempted.tells.whole) attempted.heard fun other same => ?_
  cases same
  exact attempted.fits

theorem Routed.again {progress : Progress}
    (rest : Routed runtime onToken (fun index => answers (index + 1)) after out count pieces)
    {first : List PyStr}
    (attempted : Attempted runtime onToken (answers 0) state (.ok progress, after) first)
    (transient : Transient (answers 0)) :
    Routed runtime onToken answers state out (count + 1) pieces := by
  obtain rfl := attempted.tells.whole
  refine ⟨fun index early => ?_, rest.tells, ?_, rest.taken⟩
  · cases index with
    | zero => exact transient
    | succ index => exact rest.transient index (Nat.lt_of_succ_lt_succ early)
  · rw [saidFirst_succ, List.cons_append, streamCalls_cons, feed_append attempted.heard, rest.heard]

end Routed

private theorem retrying_routed {once : Nat → σ → Except (RouterError ε) Progress × σ}
    {gaveUp : HttpError → RouterError ε} (silent : ∀ error, callbackOutcome (.error (gaveUp error) :
      Except (RouterError ε) Response) = .ok ()) (left attempt : Nat) (state : σ)
    (attempted : ∀ index state, ∃ pieces,
      Attempted runtime onToken (answers index) state (once (attempt + index) state) pieces) :
    ∃ count pieces, count ≤ left ∧
      Routed runtime onToken answers state (retrying once gaveUp left attempt state) count pieces := by
  induction left generalizing attempt state answers with
  | zero =>
    obtain ⟨pieces, attempted⟩ := attempted 0 state
    rw [Nat.add_zero] at attempted
    rw [retrying]
    generalize once attempt state = out at attempted ⊢
    obtain ⟨error | progress, after⟩ := out
    · exact ⟨0, pieces, Nat.le_refl _, .failed attempted⟩
    · refine ⟨0, pieces, Nat.le_refl _, ?_⟩
      have whole := attempted.tells.whole
      cases progress with
      | returned response => exact .returned attempted
      | limited retryAfter =>
        exact .single (.inl whole) attempted.heard fun response same => by cases same
      | broken error =>
        refine .single (.inl whole) (attempted.heard.trans ?_) fun response same => by cases same
        exact congrArg (·, after) (silent error).symm
  | succ left ih =>
    have later := @ih (fun index => answers (index + 1)) (attempt + 1)
    have next (index : Nat) (state : σ) : ∃ pieces, Attempted runtime onToken (answers (index + 1))
        state (once (attempt + 1 + index) state) pieces := by
      rw [Nat.add_assoc, Nat.add_comm 1]
      exact attempted (index + 1) state
    obtain ⟨pieces, attempted⟩ := attempted 0 state
    rw [Nat.add_zero] at attempted
    rw [retrying]
    generalize once attempt state = out at attempted ⊢
    obtain ⟨error | progress, after⟩ := out
    · exact ⟨0, pieces, Nat.zero_le _, .failed attempted⟩
    · obtain ⟨count, heard, few, rest⟩ := later after next
      cases progress with
      | returned response => exact ⟨0, pieces, Nat.zero_le _, .returned attempted⟩
      | limited retryAfter =>
        exact ⟨count + 1, heard, Nat.succ_le_succ few, rest.again attempted attempted.fits⟩
      | broken error =>
        exact ⟨count + 1, heard, Nat.succ_le_succ few, rest.again attempted attempted.fits⟩

variable (ε runtime) in
/-- The text of the fallback's answer. -/
def anthropicSaid : PostAttempt → Option PyStr
  | .ok response =>
    (readAnthropic runtime response : Except (RouterError ε) _).toOption.map Prod.snd
  | .error _ => none

private theorem callbackOutcome_readAnthropic (response : PostResponse) :
    callbackOutcome (readAnthropic runtime response : Except (RouterError ε) _) = .ok () := by
  unfold readAnthropic
  split
  · rfl
  · exact callbackOutcome_mapError _

private theorem content_of_anthropic {data : List (List Nat × Json)} {content : PyStr}
    {response : Response}
    (ended : anthropicResponse runtime settings data content = .ok response) :
    response.content = content := by
  obtain ⟨usage, -, ended⟩ := bind_eq_ok ended
  split at ended
  · split at ended
    · cases ended
    · rename_i built
      cases ended
      exact content_of_built built
  · cases ended

variable {providers : Providers} {call : Call}

/-- The fallback is heard in one piece, if it is heard at all. -/
theorem routeAnthropic_heard (onToken : Callback σ ε) (providers : Providers) (call : Call)
    (state : σ) :
    (routeAnthropic runtime settings (some onToken) providers call state).2 = state ∧
        callbackOutcome (routeAnthropic runtime settings (some onToken) providers call state).1 =
          .ok () ∧
        (∀ response, (routeAnthropic runtime settings (some onToken) providers call state).1 ≠
          .ok response) ∨
      ∃ content,
        anthropicSaid ε runtime (providers.anthropic (call.anthropicRequest settings)) =
          some content ∧
        feed onToken (callsOf [] [content]) state =
          (callbackOutcome (routeAnthropic runtime settings (some onToken) providers call state).1,
            (routeAnthropic runtime settings (some onToken) providers call state).2) ∧
        ∀ response, (routeAnthropic runtime settings (some onToken) providers call state).1 =
          .ok response → response.content = content := by
  unfold routeAnthropic
  cases answer : providers.anthropic (call.anthropicRequest settings) with
  | error error => exact .inl ⟨rfl, rfl, fun response same => by cases same⟩
  | ok response =>
    dsimp only
    have silent := @callbackOutcome_readAnthropic ε runtime response
    cases read : (readAnthropic runtime response : Except (RouterError ε) _) with
    | error error =>
      rw [read] at silent
      refine .inl ⟨rfl, ?_, fun response same => by cases same⟩
      exact (callbackOutcome_error error).trans silent
    | ok found =>
      obtain ⟨data, content⟩ := found
      have given : anthropicSaid ε runtime (.ok response) = some content := by
        rw [anthropicSaid, read]
        rfl
      refine .inr ⟨content, given, ?_⟩
      cases content with
      | nil =>
        refine ⟨?_, fun response ended => content_of_anthropic (of_mapError ended)⟩
        simp only [List.isEmpty_nil, ↓reduceIte, callbackOutcome_mapError]
        rfl
      | cons point points =>
        have heard : hear (some onToken) (.str (point :: points)) [.str (point :: points)] state =
            ((onToken (point :: points) (point :: points) state).1.mapError .callback,
              (onToken (point :: points) (point :: points) state).2) :=
          hear_str onToken [] (point :: points) state
        simp only [List.isEmpty_cons, Bool.false_eq_true, ↓reduceIte, heard]
        rw [callsOf_cons (List.cons_ne_nil _ _), feed, List.nil_append]
        cases called : onToken (point :: points) (point :: points) state with
        | mk outcome after =>
          cases outcome with
          | error error => exact ⟨rfl, fun response same => by cases same⟩
          | ok done =>
            refine ⟨?_, fun response ended => content_of_anthropic (of_mapError ended)⟩
            exact congrArg (·, after) (callbackOutcome_mapError _).symm

private theorem routeStream_routed (onToken : Callback σ ε) (providers : Providers) (call : Call)
    (state : σ) : ∃ count pieces, count ≤ maxRetries ∧
      Routed runtime onToken (providers.stream (call.streamRequest settings)) state
        (routeStream runtime settings (some onToken) providers call state) count pieces := by
  refine retrying_routed (fun error => ?_) maxRetries 0 state fun index state => ?_
  · unfold streamGaveUp
    split <;> rfl
  · rw [Nat.zero_add]
    exact streamOnce_attempted onToken index _ state

/-- What a call makes of the answers of both providers. All that the answers say is heard, one after
the other, with the fallback's text last; the answers that another attempt came after were
transient; and a response is the text of the answer heard last. -/
inductive Answered (runtime : Runtime) (onToken : Callback σ ε) (answers : Nat → StreamAttempt)
    (fallback : Option PyStr) (state : σ) (out : Except (RouterError ε) Response × σ) : Prop where
  | streamed (count : Nat) (pieces : List PyStr) (few : count ≤ maxRetries)
      (transient : ∀ index, index < count → Transient (answers index))
      (tells : Heard runtime (answers count) pieces out.1)
      (heard : feed onToken (streamCalls (saidFirst answers count ++ [pieces])) state =
        (callbackOutcome out.1, out.2))
      (taken : ∀ response, out.1 = .ok response → Taken (answers count) response)
  | fellBack (count : Nat) (content : PyStr) (few : count ≤ maxRetries)
      (transient : ∀ index, index < count → Transient (answers index))
      (said : fallback = some content)
      (heard : feed onToken (streamCalls (saidFirst answers (count + 1) ++ [[content]])) state =
        (callbackOutcome out.1, out.2))
      (taken : ∀ response, out.1 = .ok response → response.content = content)

/-- An error that the fallback follows leaves nothing unheard. -/
theorem Heard.of_fallsBack {answer : StreamAttempt} {pieces : List PyStr} {error : RouterError ε}
    (tells : Heard runtime answer pieces (.error error : Except (RouterError ε) Response))
    (falls : fallsBack error = true) : pieces = saidBy answer := by
  obtain same | ⟨_, _, _, _, raised, _, _, _, _, _, at_⟩ := tells
  · exact same
  · cases raised
    rw [fallsBack_own at_.own] at falls
    cases falls

private theorem silent_of_fallsBack {error : RouterError ε} {α : Type}
    (falls : fallsBack error = true) :
    callbackOutcome (.error error : Except (RouterError ε) α) = .ok () := by
  cases error <;> first | rfl | cases falls

/-- Whatever the providers answer and wherever the callback raises. -/
theorem answer_heard (runtime : Runtime) (settings : Settings) (onToken : Callback σ ε)
    (providers : Providers) (call : Call) (state : σ) :
    Answered runtime onToken (providers.stream (call.streamRequest settings))
      (anthropicSaid ε runtime (providers.anthropic (call.anthropicRequest settings))) state
      (routeWithFallback runtime settings (some onToken) providers call state) := by
  obtain ⟨count, pieces, few, transient, tells, heard, taken⟩ :=
    @routeStream_routed _ _ runtime settings onToken providers call state
  unfold routeWithFallback
  generalize routeStream runtime settings (some onToken) providers call state = out
    at tells heard taken ⊢
  obtain ⟨error | response, after⟩ := out
  · dsimp only
    split
    · rename_i allowed
      simp only [Bool.and_eq_true] at allowed
      obtain rfl := tells.of_fallsBack allowed.1.1
      rw [silent_of_fallsBack allowed.1.1] at heard
      obtain ⟨same, silent, none_⟩ | ⟨content, said, hears, given⟩ :=
        @routeAnthropic_heard _ _ runtime settings onToken providers call after
      · refine .streamed count _ few transient (.inl rfl) ?_ fun response ended =>
          absurd ended (none_ response)
        rw [heard, silent, same]
      · refine .fellBack count content few transient said ?_ given
        rw [saidFirst_concat, streamCalls_concat, feed_append heard, hears]
    · exact .streamed count pieces few transient tells heard taken
  · exact .streamed count pieces few transient tells heard taken

end Attempts

end BrainMate.WriteRight.ModelRouter
