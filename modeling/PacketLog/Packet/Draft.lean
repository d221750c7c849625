import PacketLog.Packet.Basic

namespace PacketLog

inductive EntryCall where
  | kind (k : EntryKind)
  | viewer (v : Viewer)
  | level (l : Level)
  | time (t : Int64)
  | timeNow
  | resolution (r : Resolution)
  | title (s : String)
  | session (s : String)
  | app (s : String)
  | host (s : String)
  | color (c : Color)
  | data (bs : Bytes)
  deriving DecidableEq, Repr

structure EntryDraft where
  kind : Option EntryKind := none
  viewer : Option Viewer := none
  level : Level := .message
  time : Int64 := 0
  resolution : Resolution := .standard
  /-- Whether the clock is read when the draft is finished. -/
  atBuild : Bool := false
  title : Option String := none
  session : Option String := none
  app : Option String := none
  host : Option String := none
  color : Option Color := none
  data : Option Bytes := none
  deriving DecidableEq, Repr

namespace EntryDraft

/-- The draft after one call; a given time takes the place of the clock, and the other way round. -/
def call (d : EntryDraft) : EntryCall → EntryDraft
  | .kind k => { d with kind := some k }
  | .viewer v => { d with viewer := some v }
  | .level l => { d with level := l }
  | .time t => { d with time := t, atBuild := false }
  | .timeNow => { d with atBuild := true }
  | .resolution r => { d with resolution := r }
  | .title s => { d with title := some s }
  | .session s => { d with session := some s }
  | .app s => { d with app := some s }
  | .host s => { d with host := some s }
  | .color c => { d with color := some c }
  | .data bs => { d with data := some bs }

def ofCalls (calls : List EntryCall) : EntryDraft := calls.foldl call {}

/-- The finished log entry; the kind is asked for before the viewer. -/
def build (d : EntryDraft) (around : Ambient) : Except PacketFault Entry :=
  match d.kind, d.viewer with
  | none, _ => .error (.missingField "log_entry_type")
  | some _, none => .error (.missingField "viewer_id")
  | some kind, some viewer =>
    .ok {
      stamp :=
        if d.atBuild then .now around d.level d.resolution
        else { Stamp.blank around with level := d.level, time := d.time }
      kind
      viewer
      title := d.title
      session := d.session
      app := d.app
      host := d.host
      color := d.color
      data := d.data }

end EntryDraft

inductive FlowCall where
  | step (s : FlowStep)
  | level (l : Level)
  | time (t : Int64)
  | resolution (r : Resolution)
  | title (s : String)
  | host (s : String)
  | process (id : Int32)
  deriving DecidableEq, Repr

/-- A process flow under construction; its time is read off the clock unless it is given. -/
structure FlowDraft where
  step : Option FlowStep := none
  level : Level := .message
  time : Option Int64 := none
  resolution : Resolution := .standard
  title : Option String := none
  host : Option String := none
  process : Option Int32 := none
  deriving DecidableEq, Repr

namespace FlowDraft

def call (d : FlowDraft) : FlowCall → FlowDraft
  | .step s => { d with step := some s }
  | .level l => { d with level := l }
  | .time t => { d with time := some t }
  | .resolution r => { d with resolution := r }
  | .title s => { d with title := some s }
  | .host s => { d with host := some s }
  | .process id => { d with process := some id }

def ofCalls (calls : List FlowCall) : FlowDraft := calls.foldl call {}

def build (d : FlowDraft) (around : Ambient) : Except PacketFault Flow :=
  match d.step with
  | none => .error (.missingField "process_flow_type")
  | some step =>
    let read := Stamp.now around d.level d.resolution
    .ok {
      stamp := {
        read with
        time := d.time.getD read.time
        process := d.process.getD read.process }
      step
      title := d.title
      host := d.host }

end FlowDraft

end PacketLog
