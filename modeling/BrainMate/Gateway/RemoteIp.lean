import BrainMate.Gateway.RequireAuth
import BrainMate.Text.IpAddr
import BrainMate.Text.Segments

/-! What `require_auth` takes for the address of a request. Behind a trusted proxy it is read from
`x-forwarded-for`, from the right; of several such lines only the first is looked at. -/

namespace BrainMate.Gateway

open Text (IpAddr fromLast)

/-- The part of the configuration that is about proxies. `contains` is that of a network. -/
structure ProxyConfig where
  IpNet : Type
  contains : IpNet → IpAddr → Bool
  trustXForwardedFor : Bool
  trustedProxyCidrs : List IpNet

namespace ProxyConfig

variable (config : ProxyConfig)

def isTrusted (address : IpAddr) : Bool :=
  config.trustedProxyCidrs.any fun cidr => config.contains cidr address

/-- The first segment of the walk that is neither empty nor a trusted address. -/
def firstUntrusted : List (List Char) → Option String
  | [] => none
  | segment :: rest =>
    let ipStr := trim (String.ofList segment)
    if ipStr.isEmpty then firstUntrusted rest
    else
      match IpAddr.parse ipStr with
      | some address =>
        if config.isTrusted address then firstUntrusted rest else some (String.ofList ipStr)
      -- What is not an address counts as the identifier of a client.
      | none => some (String.ofList ipStr)

/-- `extract_remote_ip`; the socket address is an extension of the request. -/
def extractRemoteIp (socketIp : Option IpAddr) (request : HttpRequest) : String :=
  let forwarded :=
    if socketIp.any config.isTrusted then
      match request.trimmed? "x-waf-client-id" with
      | some edgeId => some edgeId
      | none =>
        if config.trustXForwardedFor then
          (request.text? "x-forwarded-for").bind fun raw =>
            config.firstUntrusted (raw.toList.splitOn ',').reverse
        else none
    else none
  match forwarded with
  | some client => client
  | none => (socketIp.map IpAddr.display).getD "unknown"

end ProxyConfig

namespace HttpRequest

/-- The entries of all `x-forwarded-for` lines, in order, as one list. -/
def forwardedEntries (request : HttpRequest) : List HeaderValue :=
  (request.headers.filter fun header => header.1 == "x-forwarded-for").flatMap fun header =>
    header.2.splitOn 44

/-- There is no `x-forwarded-for` line, or a single one that can be read. -/
def OneLine (request : HttpRequest) : Prop :=
  ∀ line rest, (request.headers.filter fun header => header.1 == "x-forwarded-for") = line :: rest →
    rest = [] ∧ line.2.toStr.isSome = true

end HttpRequest

namespace ProxyConfig

variable (config : ProxyConfig)

/-- Neither empty nor a trusted address. An entry that is not text is no address. -/
def untrusted (entry : HeaderValue) : Bool :=
  match entry.toStr with
  | none => true
  | some text => !(trim text).isEmpty && !(IpAddr.parse (trim text)).any config.isTrusted

/-- The request is not forwarded by the edge, and its forwarded addresses count. -/
structure ReadsForwarded (socketIp : Option IpAddr) (request : HttpRequest) : Prop where
  trusted : socketIp.any config.isTrusted = true
  trust : config.trustXForwardedFor = true
  direct : request.headers.lookup "x-waf-client-id" = none

/-- Nothing that a client can put in front changes what its address is taken for. -/
structure Unspoofable (socketIp : Option IpAddr) (request : HttpRequest) : Prop where
  ignored : socketIp.any config.isTrusted = false → ∀ other : HttpRequest,
    config.extractRemoteIp socketIp other = config.extractRemoteIp socketIp request
  fromRight : config.ReadsForwarded socketIp request → ∀ other : HttpRequest,
    config.ReadsForwarded socketIp other →
    fromLast config.untrusted other.forwardedEntries =
      fromLast config.untrusted request.forwardedEntries →
    config.extractRemoteIp socketIp other = config.extractRemoteIp socketIp request

/-- The byte of a line as a character of its text. -/
def charOf (byte : UInt8) : Char := Char.ofNat byte.toNat

private theorem charOf_comma (byte : UInt8) : (charOf byte == ',') = (byte == 44) := by
  have all : ∀ byte : Fin 256, (charOf (UInt8.ofFin byte) == ',') = (UInt8.ofFin byte == 44) := by
    decide +kernel
  exact all byte.toFin

/-- `to_str` takes the line. -/
def visible (byte : UInt8) : Bool := (32 ≤ byte && byte < 127) || byte == 9

private theorem toStr_of_visible {entry : HeaderValue} (all : entry.all visible = true) :
    entry.toStr = some (String.ofList (entry.map charOf)) := by
  rw [HeaderValue.toStr]
  exact if_pos all

private theorem toStr_of_not_visible {entry : HeaderValue} (all : ¬ entry.all visible = true) :
    entry.toStr = none := by
  rw [HeaderValue.toStr]
  exact if_neg all

/-- What an entry stands for, where it is the one that counts. -/
def clientOf (entry : HeaderValue) : Option String :=
  entry.toStr.map fun text => String.ofList (trim text)

/-- The walk over the segments of a text is a search among the entries of the line. -/
theorem firstUntrusted_map (entries : List HeaderValue)
    (shown : ∀ entry ∈ entries, entry.all visible = true) :
    config.firstUntrusted (entries.map (List.map charOf)) =
      (entries.find? config.untrusted).bind clientOf := by
  induction entries with
  | nil => rfl
  | cons entry rest ih =>
    have text := toStr_of_visible (shown entry (.head _))
    have later := ih fun entry member => shown entry (.tail _ member)
    rw [List.map_cons, firstUntrusted, List.find?_cons, untrusted, text]
    dsimp only
    cases empty : (trim (String.ofList (entry.map charOf))).isEmpty with
    | true => simpa using later
    | false =>
      cases parsed : IpAddr.parse (trim (String.ofList (entry.map charOf))) with
      | none => simp [clientOf, text]
      | some address =>
        cases trusted : config.isTrusted address with
        | true => simpa [trusted] using later
        | false => simp [trusted, clientOf, text]

private theorem firstUntrusted_line {line : HeaderValue} {raw : String}
    (readable : line.toStr = some raw) :
    config.firstUntrusted (raw.toList.splitOn ',').reverse =
      (((line.splitOn 44).reverse).find? config.untrusted).bind clientOf := by
  by_cases all : line.all visible = true
  · have text := (toStr_of_visible all).symm.trans readable
    have split : raw.toList.splitOn ',' = (line.splitOn 44).map (List.map charOf) := by
      rw [← Option.some.inj text, String.toList_ofList]
      exact Text.splitOn_map charOf fun byte _ => charOf_comma byte
    rw [split, ← List.map_reverse]
    refine config.firstUntrusted_map _ fun entry member => List.all_eq_true.mpr fun byte inside => ?_
    exact List.all_eq_true.mp all byte
      (Text.of_mem_splitOn (List.mem_reverse.mp member) inside).1
  · rw [toStr_of_not_visible all] at readable
    cases readable

/-- The address that is left where no header gives one. -/
def socketText (socketIp : Option IpAddr) : String := (socketIp.map IpAddr.display).getD "unknown"

private theorem extractRemoteIp_ignored {socketIp : Option IpAddr}
    (stranger : socketIp.any config.isTrusted = false) (request : HttpRequest) :
    config.extractRemoteIp socketIp request = socketText socketIp := by
  simp [extractRemoteIp, socketText, stranger]

section Forwarded

variable {config} {socketIp : Option IpAddr} {request other : HttpRequest}

private theorem extractRemoteIp_reads (reads : config.ReadsForwarded socketIp request) :
    config.extractRemoteIp socketIp request =
      ((request.text? "x-forwarded-for").bind fun raw =>
        config.firstUntrusted (raw.toList.splitOn ',').reverse).getD (socketText socketIp) := by
  have direct : request.trimmed? "x-waf-client-id" = none := by
    simp [HttpRequest.trimmed?, HttpRequest.text?, reads.direct]
  rw [extractRemoteIp, if_pos reads.trusted, direct, if_pos reads.trust]
  cases (request.text? "x-forwarded-for").bind fun raw =>
    config.firstUntrusted (raw.toList.splitOn ',').reverse <;> rfl

private theorem lookup_eq_head? (headers : List (String × HeaderValue)) (name : String) :
    headers.lookup name = (headers.filter fun header => header.1 == name).head?.map Prod.snd := by
  induction headers with
  | nil => rfl
  | cons header rest ih =>
    rw [List.lookup_cons, List.filter_cons]
    by_cases same : header.1 = name
    · simp [same]
    · rw [beq_eq_false_iff_ne.mpr (Ne.symm same)]
      simp [same, ih]

/-- Of a single line the whole list is read. -/
theorem extractRemoteIp_oneLine (reads : config.ReadsForwarded socketIp request)
    (one : request.OneLine) :
    config.extractRemoteIp socketIp request =
      (((fromLast config.untrusted request.forwardedEntries).find? config.untrusted).bind
        clientOf).getD (socketText socketIp) := by
  rw [extractRemoteIp_reads reads, HttpRequest.text?, lookup_eq_head?, HttpRequest.forwardedEntries,
    Text.find?_fromLast]
  cases lines : request.headers.filter fun header => header.1 == "x-forwarded-for" with
  | nil => rfl
  | cons line rest =>
    obtain ⟨alone, readable⟩ := one line rest lines
    obtain ⟨raw, shown⟩ := Option.isSome_iff_exists.mp readable
    have walk := config.firstUntrusted_line shown
    simp [alone, shown, walk]

/-- Without an entry that counts, every line that could be looked at leads to the socket. -/
theorem extractRemoteIp_noEntry (reads : config.ReadsForwarded socketIp request)
    (blank : request.forwardedEntries.any config.untrusted = false) :
    config.extractRemoteIp socketIp request = socketText socketIp := by
  rw [extractRemoteIp_reads reads, HttpRequest.text?, lookup_eq_head?]
  rw [HttpRequest.forwardedEntries] at blank
  cases lines : request.headers.filter fun header => header.1 == "x-forwarded-for" with
  | nil => rfl
  | cons line rest =>
    cases shown : line.2.toStr with
    | none => simp [shown]
    | some raw =>
      have walk := config.firstUntrusted_line shown
      have missing : (line.2.splitOn 44).reverse.find? config.untrusted = none := by
        rw [lines, List.flatMap_cons, List.any_append, Bool.or_eq_false_iff] at blank
        simpa using blank.1
      rw [missing] at walk
      simp [shown, walk]

/-- The request with a line of its own for each entry, and one in front. -/
def spoofed (request : HttpRequest) (front : HeaderValue) (entries : List HeaderValue) :
    HttpRequest :=
  { request with
    headers := ("x-forwarded-for", front) :: entries.map fun entry => ("x-forwarded-for", entry) }

private theorem spoofed_reads (reads : config.ReadsForwarded socketIp request) (front : HeaderValue)
    (entries : List HeaderValue) :
    config.ReadsForwarded socketIp (spoofed request front entries) := by
  refine ⟨reads.trusted, reads.trust, ?_⟩
  refine List.lookup_eq_none_iff.mpr fun header member => ?_
  rcases List.mem_cons.mp member with rfl | later
  · rfl
  · obtain ⟨entry, -, rfl⟩ := List.mem_map.mp later
    rfl

private theorem spoofed_entries {front : HeaderValue} {entries : List HeaderValue}
    (single : 44 ∉ front)
    (singles : ∀ entry ∈ entries, 44 ∉ entry) :
    (spoofed request front entries).forwardedEntries = front :: entries := by
  have kept : (spoofed request front entries).headers.filter
      (fun header => header.1 == "x-forwarded-for") = (spoofed request front entries).headers := by
    refine List.filter_eq_self.mpr fun header member => ?_
    rcases List.mem_cons.mp member with rfl | later
    · rfl
    · obtain ⟨entry, -, rfl⟩ := List.mem_map.mp later
      rfl
  have split : (entries.map fun entry => ("x-forwarded-for", entry)).flatMap
      (fun header => header.2.splitOn 44) = entries := by
    clear kept
    induction entries with
    | nil => rfl
    | cons entry rest ih =>
      rw [List.map_cons, List.flatMap_cons, List.splitOn_eq_singleton (singles entry (.head _)),
        ih fun entry member => singles entry (.tail _ member)]
      rfl
  rw [HttpRequest.forwardedEntries, kept, spoofed, List.flatMap_cons,
    List.splitOn_eq_singleton single, split]
  rfl

private theorem spoofed_remoteIp (reads : config.ReadsForwarded socketIp request)
    {front : HeaderValue}
    {entries : List HeaderValue} {client : String} (shown : front.toStr = some client)
    (walk : config.firstUntrusted (client.toList.splitOn ',').reverse = some client) :
    config.extractRemoteIp socketIp (spoofed request front entries) = client := by
  rw [extractRemoteIp_reads (spoofed_reads reads front entries), HttpRequest.text?, spoofed,
    List.lookup_cons]
  simp [shown, walk]

/-- Where an entry counts, a line in front of it decides instead. -/
theorem not_fromRight (reads : config.ReadsForwarded socketIp request)
    (counts : request.forwardedEntries.any config.untrusted = true) :
    ¬ config.Unspoofable socketIp request := by
  intro safe
  have singles : ∀ entry ∈ fromLast config.untrusted request.forwardedEntries,
      (44 : UInt8) ∉ entry := by
    intro entry member
    obtain ⟨line, -, inside⟩ := List.mem_flatMap.mp (Text.mem_of_mem_fromLast member)
    exact Text.not_mem_of_mem_splitOn inside
  have decided : ∀ {front : HeaderValue} {client : String}, 44 ∉ front →
      front.toStr = some client →
      config.firstUntrusted (client.toList.splitOn ',').reverse = some client →
      client = config.extractRemoteIp socketIp request := by
    intro front client single shown walk
    have same : fromLast config.untrusted (spoofed request front
        (fromLast config.untrusted request.forwardedEntries)).forwardedEntries =
        fromLast config.untrusted request.forwardedEntries := by
      rw [spoofed_entries single singles, Text.fromLast_cons _ (by rw [Text.any_fromLast, counts]),
        Text.fromLast_fromLast]
    have kept := safe.fromRight reads _ (spoofed_reads reads _ _) same
    rwa [spoofed_remoteIp reads shown walk] at kept
  have x := @decided [120] "x" (by decide) (by decide +kernel) rfl
  have y := @decided [121] "y" (by decide) (by decide +kernel) rfl
  exact absurd (x.trans y.symm) (by decide)

end Forwarded

/-- The address is safe where no list of addresses is read, or all in it are trusted; and among
requests with a single line it is safe altogether. -/
theorem remote_ip_unspoofable (socketIp : Option IpAddr) :
    (∀ request : HttpRequest, config.Unspoofable socketIp request ↔
      (config.ReadsForwarded socketIp request →
        request.forwardedEntries.any config.untrusted = false)) ∧
    ∀ request other : HttpRequest, config.ReadsForwarded socketIp request →
      config.ReadsForwarded socketIp other → request.OneLine → other.OneLine →
      fromLast config.untrusted other.forwardedEntries =
        fromLast config.untrusted request.forwardedEntries →
      config.extractRemoteIp socketIp other = config.extractRemoteIp socketIp request := by
  constructor
  · intro request
    constructor
    · intro safe reads
      exact Bool.eq_false_iff.mpr fun counts => not_fromRight reads counts safe
    · intro trusted
      refine ⟨fun stranger other => ?_, fun reads other otherReads same => ?_⟩
      · rw [config.extractRemoteIp_ignored stranger, config.extractRemoteIp_ignored stranger]
      · have blank := trusted reads
        have otherBlank : other.forwardedEntries.any config.untrusted = false := by
          rw [← Text.any_fromLast, same, Text.any_fromLast, blank]
        rw [extractRemoteIp_noEntry reads blank, extractRemoteIp_noEntry otherReads otherBlank]
  · intro request other reads otherReads one otherOne same
    rw [extractRemoteIp_oneLine reads one, extractRemoteIp_oneLine otherReads otherOne, same]

/-- The network 10.0.0.0/8 is trusted. -/
def sampleProxies : ProxyConfig where
  IpNet := Unit
  contains := fun _ address =>
    match address with
    | .v4 octets => octets 0 == 10
    | .v6 _ => false
  trustXForwardedFor := true
  trustedProxyCidrs := [()]

/-- A line of the client, and the one that the proxy adds. -/
def sampleForwarded (claimed : String) : HttpRequest where
  method := .get
  path := "/"
  headers := [("x-forwarded-for", claimed.toUTF8.toList), ("x-forwarded-for", "1.2.3.4".toUTF8.toList)]

theorem forwarded_line_spoofs :
    ¬ sampleProxies.Unspoofable (some (.v4 fun _ => 10)) (sampleForwarded "6.6.6.6") := by
  intro safe
  have kept := safe.fromRight ⟨by decide +kernel, rfl, by decide +kernel⟩
    (sampleForwarded "7.7.7.7") ⟨by decide +kernel, rfl, by decide +kernel⟩ (by decide +kernel)
  exact absurd kept (by decide +kernel)

end ProxyConfig

end BrainMate.Gateway
