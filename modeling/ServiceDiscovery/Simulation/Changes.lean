import ServiceDiscovery.Simulation.Script
import ServiceDiscovery.Simulation.World

/-!
What happens around simulated sessions: replies are posted, connections fail, threads run, and the
answers of the surroundings change.
-/
namespace ServiceDiscovery.Simulation.World
open ServiceDiscovery.Multicast

def withHandle (w : World) (label : String) (f : Handle → Answer × World) : Answer × World :=
  match w.handle? label with
  | some h => f h
  | none => (.error (.unknownLabel label), w)

def modifyScripted (w : World) (f : Scripted → Scripted) : World :=
  match w.backing with
  | .scripted p => { w with backing := .scripted (f p) }
  | .engine _ => w

def withEffects (w : World) (e : Engine) (effects : List Effect) : World :=
  { w with backing := .engine e }.noteAll (effects.map Entry.ofEffect)

def sever (w : World) (r : Refusal) (ownEnd : Bool) (h : Handle) : World :=
  match w.backing with
  | .scripted p => w.modifyScripted fun _ => p.modify h fun s => { s with broken := some r }
  | .engine e =>
    let cut (p : Endpoint) : Endpoint :=
      { p with queue := if ownEnd then { p.queue with readerOpen := false }
                 else { p.queue with writerOpen := false } }
    w.withEffects (e.modify h cut) []

def adjustNeighbours (a : Adjustment) (n : Neighbours) : Neighbours :=
  { n with
    infos := a.infos ++ n.infos, taken := a.taken.getD n.taken, failing := a.failing.getD n.failing,
    browserFault := a.browserFault.getD n.browserFault,
    closeFault := a.providerCloseFault.getD n.closeFault }

def adjust (w : World) (a : Adjustment) : Answer × World :=
  let w := w.modifyScripted fun p =>
    { p with
      nextDescriptor := a.nextDescriptor.or p.nextDescriptor,
      decisions := p.decisions ++ a.decisions }
  let w := { w with
    waitFaults := a.waitFaults.getD w.waitFaults, neighbours := adjustNeighbours a w.neighbours }
  match a.closeFault with
  | none => (.ok .null, w)
  | some (label, fault) => w.withHandle label fun h =>
    (.ok .null, w.modifyScripted fun p => p.modify h fun s => { s with closeFault := fault })

def answerOf {α : Type} (f : α → Value) : Except SystemError α → Answer
  | .ok a => .ok (f a)
  | .error e => .error (.fault (.system e))

def change (w : World) : Change → Answer × World
  | .post label r count =>
    w.withHandle label fun h => (.ok .null, w.modifyScripted fun p => p.post h r count)
  | .sever label r ownEnd => w.withHandle label fun h => (.ok .null, w.sever r ownEnd h)
  | .deliver .. => (.ok .null, w)
  | .adjust a => w.adjust a
  | .work =>
    match w.backing with
    | .scripted _ => (.ok (.int 0), w)
    | .engine e =>
      let (outcome, e, effects) := e.work w.neighbours.network
      (answerOf (fun n : Nat => Value.int n) outcome, w.withEffects e effects)
  | .emit browser kind name count =>
    match w.backing with
    | .scripted _ => (.ok .null, w)
    | .engine e =>
      match e.browserHandle? browser.toNat with
      | none => (.ok .null, w)
      | some h =>
        let (outcome, e, effects) := e.emit Neighbours.room h kind name count
        (answerOf (fun _ => Value.null) outcome, w.withEffects e effects)

end ServiceDiscovery.Simulation.World
