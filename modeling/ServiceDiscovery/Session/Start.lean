import ServiceDiscovery.Session.Basic

/-!
Starting operations: announcing the own record, browsing, resolving a discovered record. Each asks
the provider at most once; what it would ask is known before the answer.
-/
namespace ServiceDiscovery.Session
open ServiceDiscovery.Text (Octets)

def domain? (d : String) : Option String := if d = "" then none else some d

def packed (s : Session) (records : Records) (a : Advertisement) : Except String Octets :=
  let namePrefix := Text.encode a.namePrefix
  if (s.ownRecord records).state.isActive then .error ErrorCode.alreadyRegistered
  else if a.namePrefix = "" ∨ a.port = 0 then .error ErrorCode.prefixAndPortRequired
  else if s.codec.isOverCapacity (namePrefix.length + a.certificate.length : Nat) then
    .error ErrorCode.capacityExceeded
  else match s.codec.encode namePrefix a.certificate with
    | .error _ => .error ErrorCode.capacityExceeded
    | .ok txt => .ok txt

def registerRequest (s : Session) (a : Advertisement) (txt : Octets) : StartRequest :=
  ⟨.register a.interfaceIndex s.uuid (RegType.make a.transportCode a.subtype)
    (domain? a.domain) a.port txt, .register⟩

def advertised (a : Advertisement) (transport : Transport) (r : Record) : Record :=
  { r with
    transport, interfaceIndex := a.interfaceIndex, subtype := a.subtype,
    regtype := RegType.make a.transportCode a.subtype, domain := a.domain, port := a.port,
    namePrefix := a.namePrefix, certificate := a.certificate, state := .registering }

def announceStarted (s : Session) (records : Records) (a : Advertisement) (c : Client) (h : Handle)
    (descriptor : Int) (asked : List Output) : Turn :=
  match Transport.ofCode? a.transportCode with
  | none => ⟨s, records, asked, .done (.error (.notATransport a.transportCode))⟩
  | some transport =>
    let records := records.modify s.own (advertised a transport)
    match { s with registration := some ⟨h, c, false⟩ }.watch h descriptor with
    | (.error f, s, outputs) => ⟨s, records, asked ++ outputs, .done (.error f)⟩
    | (.ok (), s, outputs) =>
      let regtype := RegType.make a.transportCode a.subtype
      ⟨s, records, asked ++ outputs ++ [.notice (.registering s.uuid regtype a.port)],
        .done (.ok none)⟩

def announce (s : Session) (records : Records) (a : Advertisement) (c : Client)
    (answer : StartAnswer) : Turn :=
  if s.closed then ⟨s, records, [], .done (.error (.closed s.uuid))⟩
  else match s.packed records a with
    | .error why =>
      ⟨s, records, [.notice (.announceRejected s.uuid why)],
        .tell c (.failed .register (-1) ErrorCode.localError why false) (.ok none)⟩
    | .ok txt =>
      let asked := [Output.start (s.registerRequest a txt) answer]
      match answer with
      | .raised f => ⟨s, records, asked, .done (.error f)⟩
      | .refused r =>
        let regtype := RegType.make a.transportCode a.subtype
        ⟨s, records, asked ++ [.notice (.registrationRefused s.uuid regtype r)],
          .tell c (.failed .register (-1) r.code (ErrorCode.message r.code) true) (.ok none)⟩
      | .started h descriptor => s.announceStarted records a c h descriptor asked

def browseRequest (s : Session) (k : Constraints) : StartRequest :=
  ⟨.browse k.interfaceIndex (RegType.make k.transportCode k.subtype) (domain? k.domain),
    .browse s.registry.browses.nextId⟩

def browseStarted (s : Session) (records : Records) (k : Constraints) (c : Client) (h : Handle)
    (descriptor : Int) (asked : List Output) : Turn :=
  let id := s.registry.browses.nextId
  match s.registry.addBrowse { id, handle := h, constraints := k, client := c } with
  | .error f => ⟨s, records, asked, .done (.error f)⟩
  | .ok registry =>
    match { s with registry }.watch h descriptor with
    | (.error f, s, outputs) => ⟨s, records, asked ++ outputs, .done (.error f)⟩
    | (.ok (), s, outputs) =>
      let regtype := RegType.make k.transportCode k.subtype
      ⟨s, records, asked ++ outputs ++ [.notice (.browseStarted s.uuid id regtype)],
        .done (.ok (some id))⟩

def browse (s : Session) (records : Records) (k : Constraints) (c : Client) (answer : StartAnswer) :
    Turn :=
  if s.closed then ⟨s, records, [], .done (.error (.closed s.uuid))⟩
  else
    let asked := [Output.start (s.browseRequest k) answer]
    match answer with
    | .raised f => ⟨s, records, asked, .done (.error f)⟩
    | .refused r =>
      let regtype := RegType.make k.transportCode k.subtype
      ⟨s, records, asked ++ [.notice (.browseRefused s.uuid regtype r)],
        .tell c (.failed .browse (-1) r.code (ErrorCode.message r.code) true) (.ok (some (-1)))⟩
    | .started h descriptor => s.browseStarted records k c h descriptor asked

def tracker? (s : Session) (records : Records) (target : RecordId) : Option BrowseRequest :=
  s.registry.findDiscovered (records.get target).uuid target

def resolveRequest (s : Session) (records : Records) (target : RecordId) : StartRequest :=
  let r := records.get target
  ⟨.resolve r.interfaceIndex r.uuid r.regtype r.domain, .resolve s.registry.resolves.nextId⟩

def resolveStarted (s : Session) (records : Records) (target : RecordId) (browseId : Int)
    (c : Client) (h : Handle) (descriptor : Int) (asked : List Output) : Turn :=
  match s.registry.addResolve ⟨s.registry.resolves.nextId, h, target, browseId, c⟩ with
  | .error f => ⟨s, records, asked, .done (.error f)⟩
  | .ok registry =>
    match { s with registry }.watch h descriptor with
    | (.error f, s, outputs) => ⟨s, records, asked ++ outputs, .done (.error f)⟩
    | (.ok (), s, outputs) => ⟨s, records, asked ++ outputs, .done (.ok none)⟩

def resolve (s : Session) (records : Records) (target : RecordId) (c : Client)
    (answer : StartAnswer) : Turn :=
  if s.closed then ⟨s, records, [], .done (.error (.closed s.uuid))⟩
  else match s.tracker? records target with
    | none =>
      ⟨s, records, [.notice (.unknownRecord s.uuid (records.get target).text)],
        .tell c (.failed .resolve (-1) ErrorCode.localError ErrorCode.unknownInstance false)
          (.ok none)⟩
    | some q =>
      let asked := [Output.start (s.resolveRequest records target) answer]
      match answer with
      | .raised f => ⟨s, records, asked, .done (.error f)⟩
      | .refused r =>
        ⟨s, records, asked ++ [.notice (.resolveRefused s.uuid (records.get target).uuid r)],
          .tell c (.failed .resolve q.id r.code (ErrorCode.message r.code) true) (.ok none)⟩
      | .started h descriptor => s.resolveStarted records target q.id c h descriptor asked

end ServiceDiscovery.Session
