import PacketLog.Text.Bytes

namespace PacketLog.Output

inductive DeviceFaultKind where
  | brokenPipe | writeZero | storageFull | notFound | isDirectory | other
  deriving DecidableEq, Repr

/-- A failure of a device, with the text that the system gives for it. -/
structure DeviceFault where
  kind : DeviceFaultKind
  text : String
  deriving DecidableEq, Repr

namespace DeviceFault

/-- A device that is asked to take bytes takes none of them. -/
def writeZero : DeviceFault := ⟨.writeZero, "failed to write whole buffer"⟩

def storageFull : DeviceFault := ⟨.storageFull, "No space left on device (os error 28)"⟩

/-- What should be text is not UTF-8. -/
def notText : DeviceFault := ⟨.other, "stream did not contain valid UTF-8"⟩

def notDirectory : DeviceFault := ⟨.other, "Not a directory (os error 20)"⟩

def notFound : DeviceFault := ⟨.notFound, "No such file or directory (os error 2)"⟩

def isDirectory : DeviceFault := ⟨.isDirectory, "Is a directory (os error 21)"⟩

def nameTooLong : DeviceFault := ⟨.other, "File name too long (os error 36)"⟩

/-- A path has a byte in it that ends names. -/
def nulInName : DeviceFault := ⟨.other, "file name contained an unexpected NUL byte"⟩

end DeviceFault

class Outlet (ω : Type) where
  /-- Takes a whole run, or fails after taking as much of it as fits. -/
  write : ω → Bytes → Except DeviceFault Unit × ω
  /-- Passes on what is held back. -/
  flush : ω → Except DeviceFault Unit × ω

/-- Takes runs one after another up to the first failure. -/
def writeEach {ω : Type} [Outlet ω] (out : ω) : List Bytes → Except DeviceFault Unit × ω
  | [] => (.ok (), out)
  | bs :: rest =>
    match Outlet.write out bs with
    | (.ok (), out) => writeEach out rest
    | (.error fault, out) => (.error fault, out)

/-- A device that takes a limited number of bytes, or any number. -/
structure Device where
  /-- The runs of bytes taken so far, the latest first. -/
  runs : List Bytes := []
  /-- How many more bytes it takes, if there is a limit. -/
  room : Option Nat := none
  /-- How it refuses bytes for which there is no room. -/
  whenFull : DeviceFault := .storageFull
  /-- How flushing fails, if it does. -/
  whenFlushed : Option DeviceFault := none
  deriving DecidableEq, Repr

namespace Device

def held (d : Device) : Bytes := d.runs.reverse.flatten

/-- How many bytes of a run there is room for. -/
def fitting (d : Device) (bs : Bytes) : Nat :=
  match d.room with
  | none => bs.length
  | some room => min room bs.length

/-- Takes as much of a run as there is room for. -/
def write (d : Device) (bs : Bytes) : Except DeviceFault Unit × Device :=
  match d.room with
  | none => (.ok (), { d with runs := bs :: d.runs })
  | some room =>
    let taken := bs.take room
    let d := { d with runs := taken :: d.runs, room := some (room - taken.length) }
    if taken.length = bs.length then (.ok (), d) else (.error d.whenFull, d)

theorem held_write (d : Device) (bs : Bytes) :
    (d.write bs).2.held = d.held ++ bs.take (d.fitting bs) := by
  unfold write fitting held
  cases d.room with
  | none => simp
  | some room =>
    dsimp only
    split <;> simp [List.take_eq_take_iff]

def flush (d : Device) : Except DeviceFault Unit × Device :=
  match d.whenFlushed with
  | none => (.ok (), d)
  | some fault => (.error fault, d)

instance : Outlet Device := ⟨write, flush⟩

end Device

/-- A device behind a buffer. -/
structure Buffered where
  device : Device
  /-- The bytes held back. -/
  pending : Bytes := []
  deriving DecidableEq, Repr

namespace Buffered

def capacity : Nat := 8192

/-- Passes the held bytes on; those that the device refuses stay. -/
def drain (b : Buffered) : Except DeviceFault Unit × Buffered :=
  let (result, device) := b.device.write b.pending
  (result, ⟨device, b.pending.drop (b.device.fitting b.pending)⟩)

/-- Holds a run back if it is short of filling the buffer. Otherwise the buffer makes room, if the
run does not fit behind what it holds, and a run as long as the buffer passes it by. -/
def write (b : Buffered) (bs : Bytes) : Except DeviceFault Unit × Buffered :=
  if b.pending.length + bs.length ≤ capacity ∧ bs.length < capacity then
    (.ok (), { b with pending := b.pending ++ bs })
  else
    let (result, b) :=
      if capacity < b.pending.length + bs.length then b.drain else (.ok (), b)
    match result with
    | .error fault => (.error fault, b)
    | .ok () =>
      if capacity ≤ bs.length then
        let (result, device) := b.device.write bs
        (result, { b with device })
      else (.ok (), { b with pending := b.pending ++ bs })

def flush (b : Buffered) : Except DeviceFault Unit × Buffered :=
  match b.drain with
  | (.error fault, b) => (.error fault, b)
  | (.ok (), b) =>
    let (result, device) := b.device.flush
    (result, { b with device })

instance : Outlet Buffered := ⟨write, flush⟩

end Buffered

end PacketLog.Output
