import BrainMate.Text.ICalendar

namespace BrainMate.Gateway.CalendarIcs

open Text.ICalendar

structure CalendarQuery where
  title : String
  time : String
  description : Option String
  deriving DecidableEq, Repr

structure IcsResponse where
  status : Nat
  headers : List (String × String)
  body : String
  deriving DecidableEq, Repr

/-- A UUID or a time stamp: ASCII letters, digits and signs. -/
abbrev Word := { text : String // text.toList.all fun c => c.isAlphanum || c == '-' || c == '+' }

/-- `str::replace` of a character. -/
def replace (c : Char) (new : String) (text : String) : String :=
  String.ofList (text.toList.flatMap fun d => if d = c then new.toList else [d])

def escape (s : String) : String :=
  replace '\r' "" (replace '\n' "\\n" (replace ';' "\\;" (replace ',' "\\," (replace '\\' "\\\\" s))))

def crlf : String := "\r\n"

def calendarIcs (uid stamp : Word) (query : CalendarQuery) : IcsResponse :=
  let safeTitle := escape query.title
  let safeTime := escape query.time
  let safeDesc := (query.description.map escape).getD ""
  let ics :=
    "BEGIN:VCALENDAR" ++ crlf ++
    "VERSION:2.0" ++ crlf ++
    "PRODID:-//BrainMate AI//WriteRight//EN" ++ crlf ++
    "CALSCALE:GREGORIAN" ++ crlf ++
    "BEGIN:VEVENT" ++ crlf ++
    "UID:" ++ uid.val ++ "@brainmateai.com" ++ crlf ++
    "DTSTAMP:" ++ stamp.val ++ crlf ++
    "DTSTART:" ++ stamp.val ++ crlf ++
    "SUMMARY:" ++ safeTitle ++ crlf ++
    "DESCRIPTION:Meeting Time: " ++ safeTime ++ "\\n\\n" ++ safeDesc ++ crlf ++
    "TRANSP:OPAQUE" ++ crlf ++
    "END:VEVENT" ++ crlf ++
    "END:VCALENDAR" ++ crlf
  { status := 200
    headers := [("content-type", "text/calendar; charset=utf-8"),
      ("content-disposition", "attachment; filename=\"meeting.ics\""),
      ("cache-control", "no-store")]
    body := ics }

/-- The text without its carriage returns. -/
def withoutCr (text : String) : List Char := text.toList.filter (· != '\r')

def escapeChar (c : Char) : List Char :=
  if c = '\\' then ['\\', '\\']
  else if c = ',' then ['\\', ',']
  else if c = ';' then ['\\', ';']
  else if c = '\n' then ['\\', 'n']
  else if c = '\r' then []
  else [c]

/-- No replacement finds anything in what an earlier one has put there. -/
theorem escape_toList (s : String) : (escape s).toList = s.toList.flatMap escapeChar := by
  simp only [escape, replace, String.toList_ofList, List.flatMap_assoc]
  refine List.flatMap_congr fun c _ => ?_
  unfold escapeChar
  by_cases backslash : c = '\\'
  · rw [backslash]
    decide
  by_cases comma : c = ','
  · rw [comma]
    decide
  by_cases semicolon : c = ';'
  · rw [semicolon]
    decide
  by_cases newline : c = '\n'
  · rw [newline]
    decide
  simp [backslash, comma, semicolon, newline]

private theorem unbroken_escapeChar (c : Char) : Unbroken (escapeChar c) := by
  unfold escapeChar
  split
  · constructor <;> decide
  split
  · constructor <;> decide
  split
  · constructor <;> decide
  split
  · constructor <;> decide
  split
  · constructor <;> decide
  rename_i newline return_
  simp [Unbroken, Ne.symm newline, Ne.symm return_]

private theorem unbroken_escape (s : String) : Unbroken (escape s).toList := by
  rw [escape_toList]
  constructor
  · intro member
    obtain ⟨c, -, inside⟩ := List.mem_flatMap.mp member
    exact (unbroken_escapeChar c).1 inside
  · intro member
    obtain ⟨c, -, inside⟩ := List.mem_flatMap.mp member
    exact (unbroken_escapeChar c).2 inside

/-- What is escaped is read back, but for the carriage returns. -/
theorem unescape_escape (s : String) : unescape (escape s).toList = some (withoutCr s) := by
  rw [escape_toList, withoutCr]
  induction s.toList with
  | nil => rfl
  | cons c rest ih =>
    rw [List.flatMap_cons, List.filter_cons, escapeChar]
    by_cases backslash : c = '\\'
    · simp [backslash, unescape, ih]
    by_cases comma : c = ','
    · simp [comma, unescape, ih]
    by_cases semicolon : c = ';'
    · simp [semicolon, unescape, ih]
    by_cases newline : c = '\n'
    · simp [newline, unescape, ih]
    by_cases return_ : c = '\r'
    · simp [return_, ih]
    simp [backslash, comma, semicolon, newline, return_,
      unescape_cons backslash comma semicolon, ih]

section Lines

variable (uid stamp : Word) (query : CalendarQuery)

def safeDescription : String := (query.description.map escape).getD ""

def properties : List Property :=
  [⟨"BEGIN", "VCALENDAR".toList, by decide⟩, ⟨"VERSION", "2.0".toList, by decide⟩,
    ⟨"PRODID", "-//BrainMate AI//WriteRight//EN".toList, by decide⟩,
    ⟨"CALSCALE", "GREGORIAN".toList, by decide⟩, ⟨"BEGIN", "VEVENT".toList, by decide⟩,
    ⟨"UID", uid.val.toList ++ "@brainmateai.com".toList, by decide⟩,
    ⟨"DTSTAMP", stamp.val.toList, by decide⟩, ⟨"DTSTART", stamp.val.toList, by decide⟩,
    ⟨"SUMMARY", (escape query.title).toList, by decide⟩,
    ⟨"DESCRIPTION", "Meeting Time: ".toList ++ (escape query.time).toList ++ "\\n\\n".toList ++
      (safeDescription query).toList, by decide⟩,
    ⟨"TRANSP", "OPAQUE".toList, by decide⟩, ⟨"END", "VEVENT".toList, by decide⟩,
    ⟨"END", "VCALENDAR".toList, by decide⟩]

private theorem body_toList : (calendarIcs uid stamp query).body.toList =
    joinCrlf ((properties uid stamp query).map Property.line) := by
  have crlf_toList : crlf.toList = ['\r', '\n'] := by decide
  have fixed :
      "BEGIN:VCALENDAR".toList = "BEGIN".toList ++ ':' :: "VCALENDAR".toList ∧
      "VERSION:2.0".toList = "VERSION".toList ++ ':' :: "2.0".toList ∧
      "PRODID:-//BrainMate AI//WriteRight//EN".toList =
        "PRODID".toList ++ ':' :: "-//BrainMate AI//WriteRight//EN".toList ∧
      "CALSCALE:GREGORIAN".toList = "CALSCALE".toList ++ ':' :: "GREGORIAN".toList ∧
      "BEGIN:VEVENT".toList = "BEGIN".toList ++ ':' :: "VEVENT".toList ∧
      "UID:".toList = "UID".toList ++ [':'] ∧ "DTSTAMP:".toList = "DTSTAMP".toList ++ [':'] ∧
      "DTSTART:".toList = "DTSTART".toList ++ [':'] ∧
      "SUMMARY:".toList = "SUMMARY".toList ++ [':'] ∧
      "DESCRIPTION:Meeting Time: ".toList =
        "DESCRIPTION".toList ++ ':' :: "Meeting Time: ".toList ∧
      "TRANSP:OPAQUE".toList = "TRANSP".toList ++ ':' :: "OPAQUE".toList ∧
      "END:VEVENT".toList = "END".toList ++ ':' :: "VEVENT".toList ∧
      "END:VCALENDAR".toList = "END".toList ++ ':' :: "VCALENDAR".toList := by
    decide
  simp only [calendarIcs, String.toList_append, crlf_toList, fixed, properties, joinCrlf,
    List.map_cons, List.map_nil, List.flatMap_cons, List.flatMap_nil, Property.line,
    safeDescription, List.append_assoc, List.cons_append, List.nil_append]

private theorem unbroken_word (word : Word) : Unbroken word.val.toList := by
  have all := List.all_eq_true.mp word.property
  constructor <;> exact fun member => absurd (all _ member) (by decide)

private theorem unbroken_description : Unbroken (safeDescription query).toList := by
  rw [safeDescription]
  cases query.description with
  | none => exact unbroken_of_all (by decide)
  | some description => exact unbroken_escape description

private theorem unbroken_lines :
    ∀ line ∈ (properties uid stamp query).map Property.line, Unbroken line := by
  have fixed {text : String} (free : text.toList.all fun c => c != '\r' && c != '\n') :
      Unbroken text.toList := unbroken_of_all free
  have values : ∀ property ∈ properties uid stamp query,
      Unbroken property.name.toList ∧ Unbroken property.value := by
    simp only [properties, List.forall_mem_cons]
    refine ⟨⟨fixed (by decide), fixed (by decide)⟩, ⟨fixed (by decide), fixed (by decide)⟩,
      ⟨fixed (by decide), fixed (by decide)⟩, ⟨fixed (by decide), fixed (by decide)⟩,
      ⟨fixed (by decide), fixed (by decide)⟩,
      ⟨fixed (by decide), Unbroken.append (unbroken_word uid) (fixed (by decide))⟩,
      ⟨fixed (by decide), unbroken_word stamp⟩, ⟨fixed (by decide), unbroken_word stamp⟩,
      ⟨fixed (by decide), unbroken_escape query.title⟩,
      ⟨fixed (by decide), ?_⟩, ⟨fixed (by decide), fixed (by decide)⟩,
      ⟨fixed (by decide), fixed (by decide)⟩, ⟨fixed (by decide), fixed (by decide)⟩,
      List.forall_mem_nil _⟩
    exact Unbroken.append (Unbroken.append (Unbroken.append (fixed (by decide))
      (unbroken_escape query.time)) (fixed (by decide))) (unbroken_description query)
  intro line member
  obtain ⟨property, inside, rfl⟩ := List.mem_map.mp member
  obtain ⟨name, value⟩ := values property inside
  have colon : Unbroken [':'] := unbroken_of_all (by decide)
  exact Unbroken.append name (Unbroken.append colon value)

private theorem lines_eq : splitCrlf (calendarIcs uid stamp query).body.toList =
    (properties uid stamp query).map Property.line ++ [[]] := by
  rw [body_toList, splitCrlf_joinCrlf (unbroken_lines uid stamp query)]

def summary : Property := ⟨"SUMMARY", (escape query.title).toList, by decide⟩

def description : Property :=
  ⟨"DESCRIPTION", "Meeting Time: ".toList ++ (escape query.time).toList ++ "\\n\\n".toList ++
    (safeDescription query).toList, by decide⟩

private theorem summary_value :
    (summary query).value = (escape query.title).toList := by rw [summary]

private theorem description_value : (description query).value =
    "Meeting Time: ".toList ++ (escape query.time).toList ++ "\\n\\n".toList ++
      (safeDescription query).toList := by
  rw [description]

private theorem find?_summary : (properties uid stamp query).find? (fun property =>
    property.name == "SUMMARY") = some (summary query) := by
  simp [properties, summary]

private theorem find?_description : (properties uid stamp query).find? (fun property =>
    property.name == "DESCRIPTION") = some (description query) := by
  simp [properties, description]

private theorem unescape_description : unescape (safeDescription query).toList =
    some (withoutCr (query.description.getD "")) := by
  rw [safeDescription]
  cases query.description with
  | none => rfl
  | some description => exact unescape_escape description

end Lines

/-- Whatever a client writes, the file has the lines and the properties of an empty one, and what
the client wrote is the value of two of them. -/
theorem calendar_not_injected (uid stamp blankUid blankStamp : Word) (query : CalendarQuery) :
    let lines := splitCrlf (calendarIcs uid stamp query).body.toList
    let blank := splitCrlf (calendarIcs blankUid blankStamp ⟨"", "", none⟩).body.toList
    lines.length = blank.length ∧ lines.map propertyName = blank.map propertyName ∧
      (∀ line ∈ lines, '\r' ∉ line ∧ '\n' ∉ line) ∧
      (∃ summary, property? "SUMMARY".toList lines = some summary ∧
        unescape summary = some (withoutCr query.title)) ∧
      ∃ time description, property? "DESCRIPTION".toList lines =
          some ("Meeting Time: ".toList ++ time ++ "\\n\\n".toList ++ description) ∧
        unescape time = some (withoutCr query.time) ∧
        unescape description = some (withoutCr (query.description.getD "")) := by
  intro lines blank
  have shape : lines = (properties uid stamp query).map Property.line ++ [[]] :=
    lines_eq uid stamp query
  have shape' : blank = (properties blankUid blankStamp ⟨"", "", none⟩).map Property.line ++ [[]] :=
    lines_eq blankUid blankStamp _
  clear_value lines blank
  subst shape shape'
  have names (query : CalendarQuery) (uid stamp : Word) :
      ((properties uid stamp query).map Property.line ++ [[]]).map propertyName =
        ((properties uid stamp query).map fun property => property.name.toList) ++ [[]] := by
    rw [List.map_append, List.map_map, Function.comp_def]
    simp only [Property.propertyName_line]
    rfl
  refine ⟨?_, ?_, ?_, ?_, ?_⟩
  · simp [properties]
  · rw [names, names]
    simp only [properties, List.map_cons, List.map_nil]
  · intro line member
    rcases List.mem_append.mp member with inside | last
    · exact unbroken_lines uid stamp query line inside
    · rw [List.mem_singleton.mp last]
      constructor <;> exact List.not_mem_nil
  · have found := Property.property?_lines (find?_summary uid stamp query) [[]]
    rw [summary_value] at found
    exact ⟨_, found, unescape_escape query.title⟩
  · have found := Property.property?_lines (find?_description uid stamp query) [[]]
    rw [description_value] at found
    exact ⟨_, _, found, unescape_escape query.time, unescape_description query⟩

end BrainMate.Gateway.CalendarIcs
