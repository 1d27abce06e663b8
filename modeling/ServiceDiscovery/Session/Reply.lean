import ServiceDiscovery.Session.Basic

/-!
Replies of running operations: how a session takes what the provider reports on its registration, on
a browse and on a resolve.
-/
namespace ServiceDiscovery.Session
open ServiceDiscovery.Text (Octets)

def idle (s : Session) (records : Records) (outputs : List Output) : Turn :=
  ⟨s, records, outputs, .done (.ok none)⟩

def confirm (s : Session) (records : Records) (g : Registration)
    (name regtype domain : Option String) : Turn :=
  if (s.ownRecord records).state = .registered then s.idle records [.notice (.reconfirmed s.uuid)]
  else
    let renamed := match name with
      | some n => if n = "" ∨ n = s.uuid then [] else [Output.notice (.registeredAs s.uuid n)]
      | none => []
    let confirmed (r : Record) : Record :=
      { r with domain := if domain.getD "" = "" then r.domain else domain.getD "",
               state := .registered }
    let records := records.modify s.own confirmed
    ⟨{ s with registration := some { g with settled := true } }, records,
      renamed ++ [.notice (.registered s.uuid regtype (s.ownRecord records).domain)],
      .tell g.client .registered (.ok none)⟩

def loseRegistration (faults : CloseFaults) (s : Session) (records : Records) (g : Registration)
    (code : Int) : Turn :=
  match { s with registration := none }.release faults g.handle with
  | (s, outputs, some f) => ⟨s, records, outputs, .done (.error f)⟩
  | (s, outputs, none) =>
    let records := records.modify s.own fun r => { r with state := .created }
    if g.settled then s.idle records (outputs ++ [.notice (.advertisementLost s.uuid code)])
    else
      ⟨s, records, outputs ++ [.notice (.registrationFailed s.uuid code)],
        .tell g.client (.failed .register (-1) code (ErrorCode.message code) true) (.ok none)⟩

def onRegisterReply (faults : CloseFaults) (s : Session) (records : Records) (code : Int)
    (name regtype domain : Option String) : Turn :=
  match s.registration with
  | none => s.idle records []
  | some g =>
    if code = ErrorCode.noError then s.confirm records g name regtype domain
    else s.loseRegistration faults records g code

/-- An instance appeared: it is tracked and announced unless it is our own, tracked already, or of a
registration type without a transport. -/
def appear (s : Session) (records : Records) (q : BrowseRequest) (interfaceIndex : Int)
    (name : String) (regtype domain : Option String) : Turn :=
  if name = s.uuid then s.idle records []
  else if (q.discovered.lookup name).isSome then
    s.idle records [.notice (.alreadyTracked s.uuid q.id name)]
  else match regtype.bind fun t => (RegType.transport? t).map (t, ·) with
    | none => s.idle records [.notice (.unparseable s.uuid name regtype)]
    | some (type, transport) =>
      let record : Record :=
        { Record.new name transport interfaceIndex q.constraints.subtype (domain.getD "") with
          regtype := type, state := .discovered }
      let id := records.nextId
      let browses := s.registry.browses.modify q.id (·.track name id)
      ⟨{ s with registry := { s.registry with browses } }, records.add record,
        [.notice (.appeared s.uuid q.id name regtype domain)],
        .tell q.client (.added q.id id) (.ok none)⟩

def vanish (s : Session) (records : Records) (q : BrowseRequest) (name : String) : Turn :=
  match q.discovered.lookup name with
  | none => s.idle records []
  | some record =>
    let browses := s.registry.browses.modify q.id (·.drop name)
    ⟨{ s with registry := { s.registry with browses } }, records,
      [.notice (.vanished s.uuid q.id name)], .tell q.client (.removed q.id record) (.ok none)⟩

def onBrowseReply (s : Session) (records : Records) (id flags interfaceIndex code : Int)
    (name : String) (regtype domain : Option String) : Turn :=
  match s.registry.browses.get? id with
  | none => s.idle records [.notice (.browseIsOver s.uuid id)]
  | some q =>
    if code ≠ ErrorCode.noError then
      ⟨s, records, [], .tell q.client (.failed .browse id code (ErrorCode.message code) true)
        (.ok none)⟩
    else if Reply.announces flags then s.appear records q interfaceIndex name regtype domain
    else s.vanish records q name

def located (fullname hostTarget : Option String) (port : Int) (namePrefix : String)
    (certificate : Octets) (r : Record) : Record :=
  { r with
    fullname := fullname.getD "", hostname := hostTarget.getD "", port, namePrefix, certificate,
    state := .resolved }

/-- A resolve was answered without error: its TXT data decides whether the record is resolved. -/
def settleResolve (s : Session) (records : Records) (q : ResolveRequest)
    (fullname hostTarget : Option String) (port : Int) (txt : Octets) (before : List Output) :
    Turn :=
  let (content, malformed) := match Txt.decode txt with
    | .ok content => (content, [])
    | .error e => ({}, [Output.notice (.malformedTxt s.uuid fullname e.message)])
  let outputs := before ++ malformed
  let namePrefix := content.namePrefix.getD ""
  if namePrefix = "" then
    ⟨s, records, outputs,
      .tell q.client (.failed .resolve q.browseId ErrorCode.localError ErrorCode.prefixNotFound
        false) (.ok none)⟩
  else
    let records :=
      records.modify q.target (located fullname hostTarget port namePrefix
        (content.certificate.getD []))
    let r := records.get q.target
    ⟨s, records, outputs ++ [.notice (.resolved s.uuid r.fullname r.hostname r.port r.namePrefix)],
      .tell q.client (.resolved q.browseId q.target) (.ok none)⟩

/-- The first answer to a resolve ends it, whatever it says. -/
def onResolveReply (faults : CloseFaults) (s : Session) (records : Records) (id code : Int)
    (fullname hostTarget : Option String) (port : Int) (txt : Octets) : Turn :=
  match s.registry.popResolve id with
  | (none, _) => s.idle records []
  | (some q, registry) =>
    match { s with registry }.release faults q.handle with
    | (s, outputs, some f) => ⟨s, records, outputs, .done (.error f)⟩
    | (s, outputs, none) =>
      if code ≠ ErrorCode.noError then
        ⟨s, records, outputs,
          .tell q.client (.failed .resolve q.browseId code (ErrorCode.message code) true)
            (.ok none)⟩
      else s.settleResolve records q fullname hostTarget port txt outputs

/-- Takes a reply at the callback it is addressed to; a reply of the wrong kind says nothing. -/
def onReply (faults : CloseFaults) (s : Session) (records : Records) : ReplyTo → Reply → Turn
  | .register, .register _ code name regtype domain =>
    s.onRegisterReply faults records code name regtype domain
  | .browse id, .browse flags interfaceIndex code name regtype domain =>
    s.onBrowseReply records id flags interfaceIndex code name regtype domain
  | .resolve id, .resolve _ _ code fullname hostTarget port txt =>
    s.onResolveReply faults records id code fullname hostTarget port txt
  | _, _ => s.idle records []

end ServiceDiscovery.Session
