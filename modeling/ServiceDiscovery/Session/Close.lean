import ServiceDiscovery.Session.Basic

/-!
Ending things: cancelling a browse and closing the whole session.
-/
namespace ServiceDiscovery.Session

def cancel (faults : CloseFaults) (s : Session) (records : Records) (id : Int) : Turn :=
  match s.registry.popBrowse id with
  | (none, _) => ⟨s, records, [], .done (.ok none)⟩
  | (some q, registry) =>
    match { s with registry }.release faults q.handle with
    | (s, outputs, some f) => ⟨s, records, outputs, .done (.error f)⟩
    | (s, outputs, none) =>
      ⟨s, records, outputs ++ [.notice (.cancelled s.uuid id)], .done (.ok none)⟩

def withdraw (faults : CloseFaults) (s : Session) (records : Records) :
    Session × Records × List Output :=
  if (s.ownRecord records).state.isActive then
    let records := records.modify s.own fun r => { r with state := .created }
    let handles := s.registration.toList.map Registration.handle
    let (s, outputs) := { s with registration := none }.releaseAllQuietly faults handles
    (s, records, outputs ++ [.notice (.withdrawn s.uuid)])
  else (s, records, [])

/-- Cancels every request, withdraws the advertisement, stops waiting, and lets go of the provider
if the session made it. Never fails and tells nobody. -/
def close (faults : CloseFaults) (s : Session) (records : Records) : Turn :=
  if s.closed then ⟨s, records, [], .done (.ok none)⟩
  else
    let handles :=
      s.registry.resolves.values.map (·.handle) ++ s.registry.browses.values.map (·.handle)
    let (s, released) := { s with closed := true, registry := {} }.releaseAllQuietly faults handles
    let (s, records, withdrawn) := s.withdraw faults records
    let muxFailed := if faults.selector.isSome then [Output.notice .multiplexerCloseFailed] else []
    let letGo :=
      if s.ownsProvider then
        .closeProvider :: if faults.provider.isSome then [Output.notice .providerCloseFailed]
        else []
      else []
    ⟨{ s with mux := s.mux.close }, records, released ++ withdrawn ++ muxFailed ++ letGo,
      .done (.ok none)⟩

end ServiceDiscovery.Session
