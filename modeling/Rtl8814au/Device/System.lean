import Rtl8814au.Device.Ioctl
import Rtl8814au.Lib.Lts

/-!
# Device.System

The device as a transition system. A step is one call into the driver, run to its end: a `Write`, a
`Read`, a received frame, a wakeup of the EAPOL worker, a set-parameter ioctl, the removal. Steps
come in any order, with any arguments and any `Env`.

* `rxFrameReceived`: the dispatch of `_RxFrameReceived`.
* `step`: the device after a step, and the actions of the step.
* `System`: a device with the log of all actions so far; `System.next` is the transition.
-/

namespace Rtl8814au

inductive Event where
  | write (buffer : Bytes)
  | read (numBytes : Nat)
  | rxFrame (frame : Bytes) (isC2H : Bool)
  | eapolWorker
  | control (request : Request)
  | setRemoved

namespace Device

def frameType (frame : Bytes) : UInt8 := (frame.at 0 >>> 2) &&& 0x03

def frameSubtype (frame : Bytes) : UInt8 := (frame.at 0 >>> 4) &&& 0x0F

/-- Beacons and firmware events go to the WiFi manager. -/
def rxFrameReceived (d : Device) (frame : Bytes) (isC2H : Bool) (env : Env) :
    Option (Device × List Action) :=
  if isC2H then some (d, [])
  else if UInt32.ofNat frame.length < 24 then some (d, [])
  else if frameType frame = 0 then
    if frameSubtype frame = 11 then some (d.handleAuthResponse frame env)
    else if frameSubtype frame = 1 then some (d.handleAssocResponse frame, [])
    else some (d, [])
  else if frameType frame ≠ 2 then some (d, [])
  else d.rxData frame

def step (d : Device) (e : Event) (env : Env) : Option (Device × List Action) :=
  match e with
  | .write buffer => some ((d.write buffer env).device, (d.write buffer env).actions)
  | .read numBytes => some ((d.read numBytes).1, [])
  | .rxFrame frame isC2H => d.rxFrameReceived frame isC2H env
  | .eapolWorker => some (d.eapolWorker env)
  | .control request => some ((d.control request env).device, (d.control request env).actions)
  | .setRemoved => some ({ d with fRemoved := true }, [])

end Device

structure System where
  device : Device
  log : List Action

namespace System

def next (s : System) (e : Event × Env) : Option System :=
  (s.device.step e.1 e.2).map fun r => { device := r.1, log := s.log ++ r.2 }

def init (mac : Mac) : System := { device := Device.init mac, log := [] }

end System
end Rtl8814au
